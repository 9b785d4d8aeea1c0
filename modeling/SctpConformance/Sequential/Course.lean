import SctpConformance.Sequential.Runs

/-!
# A started feature on its own

Once a feature has been started, what becomes of it depends on its own progress,
on its worker, and on the events that concern it.  Nothing that happens to other
features matters.  The course of a feature is this small state machine.

Main results:

- Definition `Course.step`: the state machine.
- Theorem `Follows.run`: a started feature follows its course.
- Theorems `Course.step_terminal` and `Course.step_timedOut`: a verdict is final,
  and only a request that finds the deadline passed times a feature out.
-/

namespace SctpConformance

open Library

variable {c : Catalog} {host : Host} {s : Sequential c} {x : Target c} {timed : Timed c}

/-- The progress of a feature and what its worker does next. -/
structure Course where
  progress : Progress
  worker : Option WorkerStep

/-- What a request that applies the deadline of a started feature does to it. -/
def Progress.requested (v : Progress) (feature : FeatureDefinition) (now : TimePoint) :
    Request c → Progress
  | .feature _ (.complete body) => v.completeRequest feature body now
  | .feature _ (.unsupported body) => v.unsupportedRequest body now
  | _ => v.poll now

namespace Course

variable (host x) (k : Course)

/-- What an event does to the feature `x` and its worker. -/
def step (timed : Timed c) : Course :=
  match timed.event with
  | .request request _ =>
      if request.Polls x then
        { k with progress := k.progress.requested (c.definition x.feature) timed.now request }
      else k
  | .worker y input =>
      if y = x then {
        progress := k.progress.hear host (c.definition x.feature) input k.worker
        worker := k.worker.bind fun next => (next.advance host (c.id x.feature) input).waiting }
      else k

/-- The course after a list of events. -/
def run (events : List (Timed c)) : Course :=
  events.foldl (step host x) k

end Course

/-- The feature `x` is at the point `k` of its course. -/
def Follows (s : Sequential c) (x : Target c) (k : Course) : Prop :=
  s.shared.progress x = k.progress ∧ (k.progress.state = .active → s.workers x = k.worker)

/-! ## What one event does to the progress -/

namespace Progress

variable {v : Progress} {feature : FeatureDefinition} {now : TimePoint}

/-- A feature that has ended does not time out. -/
theorem poll_terminal (h : v.state.Terminal) : v.poll now = v := by
  unfold poll
  rw [if_neg]
  exact fun hlate => h.2 hlate.1

/-- It cannot be completed. -/
theorem complete_terminal (h : v.state.Terminal) (report : CompleteReport) :
    v.complete feature report = v := by
  unfold complete
  rw [if_neg]
  exact fun haccepted => h.2 haccepted.1

/-- It cannot be withdrawn. -/
theorem unsupport_terminal (h : v.state.Terminal) : v.unsupport = v := by
  unfold unsupport
  rw [if_neg]
  rintro (hpending | hactive)
  · exact h.1 hpending
  · exact h.2 hactive

/-- A request does nothing to a feature that has a verdict. -/
theorem requested_terminal (h : v.state.Terminal) (request : Request c) :
    v.requested feature now request = v := by
  unfold requested
  split
  · unfold completeRequest
    split
    · exact poll_terminal h
    · rw [poll_terminal h, complete_terminal h]
  · unfold unsupportedRequest
    split
    · exact poll_terminal h
    · rw [poll_terminal h, unsupport_terminal h]
  · exact poll_terminal h

/-- What its worker hears makes no difference. -/
theorem hear_terminal (h : v.state.Terminal) (input : WorkerInput)
    (worker : Option WorkerStep) : v.hear host feature input worker = v := by
  cases worker with
  | none => rfl
  | some next => exact judge_of_not_active h.2 _ _

/-- A request applies the deadline, and then its report if it has one. -/
theorem requested_cases (v : Progress) (feature : FeatureDefinition) (now : TimePoint)
    (request : Request c) :
    v.requested feature now request = v.poll now ∨
      (∃ report, v.requested feature now request = (v.poll now).complete feature report) ∨
      v.requested feature now request = (v.poll now).unsupport := by
  unfold requested
  split
  · unfold completeRequest
    split
    · exact Or.inl rfl
    · rename_i report _
      exact Or.inr (Or.inl ⟨report, rfl⟩)
  · unfold unsupportedRequest
    split
    · exact Or.inl rfl
    · exact Or.inr (Or.inr rfl)
  · exact Or.inl rfl

/-- A report is refused, ends an active feature or is kept by it. -/
theorem complete_cases (v : Progress) (feature : FeatureDefinition) (report : CompleteReport) :
    v.complete feature report = v ∨ v.state = .active ∧
      (v.complete feature report = { v with agentComplete := true, state := .passed } ∨
        v.complete feature report = { v with agentComplete := true }) := by
  unfold complete
  split
  · rename_i haccepted
    right
    refine ⟨haccepted.1, ?_⟩
    split
    · exact Or.inl rfl
    · exact Or.inr rfl
  · exact Or.inl rfl

/-- A look at a feature ends it if it is active and its time is over. -/
theorem poll_cases (v : Progress) (now : TimePoint) :
    v.poll now = v ∨ v.state = .active ∧ v.deadlineAt ≤ now ∧
      v.poll now = { v with state := .timedOut } := by
  unfold poll
  split
  · rename_i hlate
    exact Or.inr ⟨hlate.1, hlate.2, rfl⟩
  · exact Or.inl rfl

/-- A feature that has not ended can be withdrawn. -/
theorem unsupport_cases (v : Progress) :
    v.unsupport = v ∨ (v.state = .pending ∨ v.state = .active) ∧
      v.unsupport = { v with state := .unsupported } := by
  unfold unsupport
  split
  · rename_i hopen
    exact Or.inr ⟨hopen, rfl⟩
  · exact Or.inl rfl

/-- A decision of the worker counts for an active feature only. -/
theorem judge_cases (v : Progress) (feature : FeatureDefinition) (next : WorkerStep) :
    v.judge feature next = v ∨ v.state = .active ∧
      (v.judge feature next = { v with state := .failed } ∨
        v.judge feature next = { v with networkComplete := true, state := .passed } ∨
        v.judge feature next = { v with networkComplete := true }) := by
  by_cases hactive : v.state = .active
  · cases next with
    | receive state => exact Or.inl rfl
    | send state => exact Or.inl rfl
    | markFailed message =>
        right
        exact ⟨hactive, Or.inl (by simp [judge, fail, hactive])⟩
    | markNetworkComplete =>
        right
        refine ⟨hactive, Or.inr ?_⟩
        simp only [judge, observe, hactive, if_true]
        split
        · exact Or.inl rfl
        · exact Or.inr (by rw [← hactive])
  · exact Or.inl (judge_of_not_active hactive feature next)

/-- A request leaves a feature active only if it was, and then it keeps what the
server has observed. -/
theorem requested_active {request : Request c}
    (h : (v.requested feature now request).state = .active) :
    v.state = .active ∧ v.poll now = v ∧
      (v.requested feature now request).networkComplete = v.networkComplete := by
  rcases requested_cases v feature now request with hsame | ⟨report, hsame⟩ | hsame
  · rw [hsame] at h ⊢
    rcases poll_active h with ⟨hactive, hpoll⟩
    exact ⟨hactive, hpoll, by rw [hpoll]⟩
  · rw [hsame] at h ⊢
    rcases complete_cases (v.poll now) feature report with hkept | ⟨hactive, hverdict⟩
    · rw [hkept] at h ⊢
      rcases poll_active h with ⟨hactive, hpoll⟩
      exact ⟨hactive, hpoll, by rw [hpoll]⟩
    · rcases poll_active hactive with ⟨hactive', hpoll⟩
      refine ⟨hactive', hpoll, ?_⟩
      rcases hverdict with hpassed | hnoted
      · rw [hpassed, hpoll]
      · rw [hnoted, hpoll]
  · rw [hsame] at h ⊢
    rcases unsupport_cases (v.poll now) with hkept | ⟨-, hended⟩
    · rw [hkept] at h ⊢
      rcases poll_active h with ⟨hactive, hpoll⟩
      exact ⟨hactive, hpoll, by rw [hpoll]⟩
    · rw [hended] at h
      contradiction

end Progress

/-! ## Following a course -/

/-- What a request does to a feature that has been started. -/
theorem handle_started (horderly : Orderly s)
    (hstarted : (s.shared.execution x).state ≠ .pending) (host : Host) (now : TimePoint)
    (request : Request c) (calls : List SocketCalls) :
    (s.handle host now request calls).1.shared.progress x =
        (if request.Polls x then
          (s.shared.progress x).requested (c.definition x.feature) now request
        else s.shared.progress x) ∧
      (s.handle host now request calls).1.workers x = s.workers x := by
  by_cases hobserves : request.Observes
  · rcases handle_observation hobserves host now s calls with ⟨hworkers, hprogress⟩
    have hpoll : (s.shared.progress x).requested (c.definition x.feature) now request =
        (s.shared.progress x).poll now := by
      unfold Progress.requested
      split
      · exact absurd hobserves not_false
      · exact absurd hobserves not_false
      · rfl
    exact ⟨by rw [hprogress, hpoll], congrFun hworkers x⟩
  · cases request with
    | feature y request =>
        have hpolls : (Request.feature y request).Polls x ↔ x = y := Iff.rfl
        cases request with
        | start =>
            by_cases hadmitted : Admitted host
                ((s.shared.openDescriptor .other).maybeTimeout now y) y calls
            · have hne : x ≠ y := by
                rintro rfl
                exact hstarted ((admitted_iff horderly.tidy calls).mp hadmitted).1
              rcases handle_start_admitted horderly hadmitted with
                ⟨sockets, -, hprogress, hothers, -⟩
              exact ⟨by simp [hprogress, hpolls, hne], hothers x hne⟩
            · rcases handle_start_not_admitted hadmitted with ⟨hworkers, hprogress⟩
              refine ⟨?_, congrFun hworkers x⟩
              by_cases hy : x = y
              · subst hy
                simp [hprogress, hpolls, Progress.requested]
              · simp [hprogress, hpolls, hy]
        | complete body =>
            rcases handle_complete host now s y body calls with ⟨hworkers, hprogress⟩
            refine ⟨?_, congrFun hworkers x⟩
            by_cases hy : x = y
            · subst hy
              simp [hprogress, hpolls, Progress.requested]
            · simp [hprogress, hpolls, hy]
        | unsupported body =>
            rcases handle_unsupported host now s y body calls with ⟨hworkers, hprogress⟩
            refine ⟨?_, congrFun hworkers x⟩
            by_cases hy : x = y
            · subst hy
              simp [hprogress, hpolls, Progress.requested]
            · simp [hprogress, hpolls, hy]
        | get => exact absurd trivial hobserves
        | unknown => exact absurd trivial hobserves
    | session n => exact absurd trivial hobserves
    | summary n => exact absurd trivial hobserves
    | summaryStream n => exact absurd trivial hobserves
    | other response => exact absurd trivial hobserves

/-- A started feature follows its course along one event. -/
theorem Follows.step {k : Course} (h : Follows s x k) (horderly : Orderly s)
    (hstarted : (s.shared.execution x).state ≠ .pending) (host : Host) (timed : Timed c) :
    Follows (s.step host timed) x (k.step host x timed) := by
  rcases timed with ⟨now, event⟩
  cases event with
  | request request calls =>
      rcases handle_started horderly hstarted host now request calls with
        ⟨hprogress, hworkers⟩
      have hstep : s.step host ⟨now, .request request calls⟩ =
          (s.handle host now request calls).1 := rfl
      rw [hstep, Follows, hprogress, hworkers, h.1]
      by_cases hpolls : request.Polls x
      · simp only [Course.step, hpolls, if_true]
        exact ⟨trivial, fun hactive => h.2 (Progress.requested_active hactive).1⟩
      · simp only [Course.step, hpolls, if_false]
        exact ⟨trivial, h.2⟩
  | worker y input =>
      rcases step_worker horderly host now y input with ⟨hprogress, hothers, hself⟩
      by_cases hy : y = x
      · subst hy
        rw [Follows, hprogress, if_pos rfl]
        simp only [Course.step, if_true]
        by_cases hactive : k.progress.state = .active
        · have hactive' : (s.shared.progress y).state = .active := by rwa [h.1]
          rw [hself hactive', h.2 hactive, h.1]
          exact ⟨rfl, fun _ => rfl⟩
        · have hidle : ∀ worker : Option WorkerStep, k.progress.hear host
              (c.definition y.feature) input worker = k.progress := by
            intro worker
            cases worker with
            | none => rfl
            | some next => exact Progress.judge_of_not_active hactive _ _
          rw [h.1, hidle, hidle]
          exact ⟨rfl, fun h => absurd h hactive⟩
      · have hne : x ≠ y := fun hx => hy hx.symm
        rw [Follows, hprogress, if_neg hne, hothers x hne]
        simp only [Course.step, hy, if_false]
        exact h

/-! ## What no event undoes -/

/-- The deadline stays, and a report once accepted stays accepted. -/
structure Keeps (v v' : Progress) : Prop where
  deadline : v'.deadlineAt = v.deadlineAt
  started : v'.state = .pending → v.state = .pending
  agent : v.agentComplete = true → v'.agentComplete = true

namespace Keeps

variable {v v' v'' : Progress}

/-- Nothing need happen. -/
theorem refl (v : Progress) : Keeps v v :=
  ⟨rfl, id, id⟩

/-- What is kept twice is kept. -/
theorem trans (h : Keeps v v') (h' : Keeps v' v'') : Keeps v v'' where
  deadline := h'.deadline.trans h.deadline
  started := fun hpending => h.started (h'.started hpending)
  agent := fun hagent => h'.agent (h.agent hagent)

/-- A look at the clock undoes nothing. -/
theorem poll (v : Progress) (now : TimePoint) : Keeps v (v.poll now) := by
  rcases Progress.poll_cases v now with hsame | ⟨-, -, hsame⟩
  · rw [hsame]
    exact refl v
  · rw [hsame]
    exact ⟨rfl, fun h => by contradiction, id⟩

/-- Neither does a request. -/
theorem requested (v : Progress) (feature : FeatureDefinition) (now : TimePoint)
    (request : Request c) : Keeps v (v.requested feature now request) := by
  refine (poll v now).trans ?_
  rcases Progress.requested_cases v feature now request with hsame | ⟨report, hsame⟩ | hsame
  · rw [hsame]
    exact refl _
  · rw [hsame]
    rcases Progress.complete_cases (v.poll now) feature report with hkept | ⟨hactive, hverdict⟩
    · rw [hkept]
      exact refl _
    · rcases hverdict with hpassed | hnoted
      · rw [hpassed]
        exact ⟨rfl, fun h => by contradiction, fun _ => rfl⟩
      · rw [hnoted]
        exact ⟨rfl, fun h => h, fun _ => rfl⟩
  · rw [hsame]
    rcases Progress.unsupport_cases (v.poll now) with hkept | ⟨-, hended⟩
    · rw [hkept]
      exact refl _
    · rw [hended]
      exact ⟨rfl, fun h => by contradiction, id⟩

/-- Nor does the worker. -/
theorem hear (v : Progress) (host : Host) (feature : FeatureDefinition) (input : WorkerInput)
    (worker : Option WorkerStep) : Keeps v (v.hear host feature input worker) := by
  cases worker with
  | none => exact refl v
  | some next =>
      rcases Progress.judge_cases v feature (next.advance host feature.id input) with
        hkept | ⟨hactive, hfailed | hpassed | hnoted⟩
      · rw [Progress.hear, hkept]
        exact refl v
      · rw [Progress.hear, hfailed]
        exact ⟨rfl, fun h => by contradiction, id⟩
      · rw [Progress.hear, hpassed]
        exact ⟨rfl, fun h => by contradiction, id⟩
      · rw [Progress.hear, hnoted]
        exact ⟨rfl, fun h => h, id⟩

end Keeps

/-! ## What one event does to a course -/

/-- A request that applies the deadline of `x`. -/
def Timed.Polls (timed : Timed c) (x : Target c) : Prop :=
  match timed.event with
  | .request request _ => request.Polls x
  | .worker _ _ => False

instance (timed : Timed c) : DecidablePred timed.Polls := fun x =>
  match timed with
  | ⟨_, .request request _⟩ => inferInstanceAs (Decidable (request.Polls x))
  | ⟨_, .worker _ _⟩ => isFalse not_false

namespace Course

variable {k : Course}

/-- No event takes back what has been reached. -/
theorem step_keeps (k : Course) (host : Host) (x : Target c) (timed : Timed c) :
    Keeps k.progress (k.step host x timed).progress := by
  rcases timed with ⟨now, event⟩
  cases event with
  | request request calls =>
      unfold step
      dsimp only
      split
      · exact Keeps.requested _ _ now request
      · exact Keeps.refl _
  | worker y input =>
      unfold step
      dsimp only
      split
      · exact Keeps.hear _ host _ input k.worker
      · exact Keeps.refl _

/-- Neither does a run. -/
theorem run_keeps (k : Course) (host : Host) (x : Target c) (events : List (Timed c)) :
    Keeps k.progress (k.run host x events).progress := by
  induction events generalizing k with
  | nil => exact Keeps.refl _
  | cons timed events ih => exact (k.step_keeps host x timed).trans (ih _)

/-- A verdict is final. -/
theorem step_terminal (h : k.progress.state.Terminal) (host : Host) (x : Target c)
    (timed : Timed c) : (k.step host x timed).progress = k.progress := by
  rcases timed with ⟨now, event⟩
  cases event with
  | request request calls =>
      unfold step
      dsimp only
      split
      · exact Progress.requested_terminal h request
      · rfl
  | worker y input =>
      unfold step
      dsimp only
      split
      · exact Progress.hear_terminal h input k.worker
      · rfl

/-- A verdict stays to the end of the run. -/
theorem run_terminal (h : k.progress.state.Terminal) (host : Host) (x : Target c)
    (events : List (Timed c)) : (k.run host x events).progress = k.progress := by
  induction events generalizing k with
  | nil => rfl
  | cons timed events ih =>
      have hstep := step_terminal h host x timed
      have hrest : ((k.step host x timed).run host x events).progress =
          (k.step host x timed).progress := by
        apply ih
        rwa [hstep]
      exact hrest.trans hstep

/-- Only a request that finds the deadline passed times a feature out. -/
theorem step_timedOut (h : (k.step host x timed).progress.state = .timedOut) :
    k.progress.state = .timedOut ∨ timed.Polls x ∧ k.progress.deadlineAt ≤ timed.now := by
  rcases timed with ⟨now, event⟩
  cases event with
  | request request calls =>
      by_cases hpolls : request.Polls x
      · simp only [step, hpolls, if_true] at h
        by_cases hlate : k.progress.deadlineAt ≤ now
        · exact Or.inr ⟨hpolls, hlate⟩
        · left
          have hpoll : k.progress.poll now = k.progress := by
            rcases Progress.poll_cases k.progress now with hsame | ⟨-, hreached, -⟩
            · exact hsame
            · exact absurd hreached hlate
          rcases Progress.requested_cases k.progress (c.definition x.feature) now request with
            hsame | ⟨report, hsame⟩ | hsame
          · rwa [hsame, hpoll] at h
          · rw [hsame, hpoll] at h
            rcases Progress.complete_cases k.progress (c.definition x.feature) report with
              hkept | ⟨hactive, hpassed | hnoted⟩
            · rwa [hkept] at h
            · rw [hpassed] at h
              contradiction
            · rwa [hnoted] at h
          · rw [hsame, hpoll] at h
            rcases Progress.unsupport_cases k.progress with hkept | ⟨-, hended⟩
            · rwa [hkept] at h
            · rw [hended] at h
              contradiction
      · left
        simpa only [step, hpolls, if_false] using h
  | worker y input =>
      left
      by_cases hy : y = x
      · simp only [step, hy, if_true] at h
        cases hworker : k.worker with
        | none => simpa only [hworker, Progress.hear] using h
        | some next =>
            simp only [hworker, Progress.hear] at h
            rcases Progress.judge_cases k.progress (c.definition x.feature)
              (next.advance host (c.definition x.feature).id input) with
              hkept | ⟨hactive, hfailed | hpassed | hnoted⟩
            · rwa [hkept] at h
            · rw [hfailed] at h
              contradiction
            · rw [hpassed] at h
              contradiction
            · rwa [hnoted] at h
      · simpa only [step, hy, if_false] using h

/-- Such a request does time out an active feature. -/
theorem step_polled (hactive : k.progress.state = .active) (hpolls : timed.Polls x)
    (hlate : k.progress.deadlineAt ≤ timed.now) (host : Host) :
    (k.step host x timed).progress.state = .timedOut := by
  rcases timed with ⟨now, event⟩
  cases event with
  | worker y input => exact absurd hpolls not_false
  | request request calls =>
      have hrequest : request.Polls x := hpolls
      have hpoll : (k.progress.poll now).state = .timedOut := by
        rw [Progress.poll, if_pos ⟨hactive, hlate⟩]
      have hterminal : (k.progress.poll now).state.Terminal := by
        rw [hpoll]
        decide
      simp only [step, hrequest, if_true]
      rcases Progress.requested_cases k.progress (c.definition x.feature) now request with
        hsame | ⟨report, hsame⟩ | hsame
      · rw [hsame, hpoll]
      · rw [hsame, Progress.complete_terminal hterminal, hpoll]
      · rw [hsame, Progress.unsupport_terminal hterminal, hpoll]

/-- If all requests come before the deadline, the feature does not time out. -/
theorem run_not_timedOut {events : List (Timed c)} (h : k.progress.state ≠ .timedOut)
    (hearly : ∀ timed ∈ events, timed.Polls x → timed.now < k.progress.deadlineAt) :
    (k.run host x events).progress.state ≠ .timedOut := by
  induction events generalizing k with
  | nil => exact h
  | cons timed events ih =>
      refine ih ?_ ?_
      · intro htimedOut
        rcases step_timedOut htimedOut with hbefore | ⟨hpolls, hlate⟩
        · exact h hbefore
        · exact absurd (hearly timed List.mem_cons_self hpolls) (not_lt.mpr hlate)
      · intro later hlater hpolls
        rw [(k.step_keeps host x timed).deadline]
        exact hearly later (List.mem_cons_of_mem _ hlater) hpolls

/-- A run can be gone through in parts. -/
theorem run_append (k : Course) (host : Host) (x : Target c) (front back : List (Timed c)) :
    k.run host x (front ++ back) = (k.run host x front).run host x back := by
  simp [run]

/-- A verdict that all requests before it have left room for is the only one. -/
theorem run_settled {fr bk : List (Timed c)} (h : k.progress.state ≠ .timedOut)
    (hearly : ∀ later ∈ fr, later.Polls x → later.now < k.progress.deadlineAt)
    (hterminal : (k.run host x (fr ++ [timed])).progress.state.Terminal)
    (hverdict : (k.run host x (fr ++ [timed])).progress.state ≠ .timedOut)
    {front back : List (Timed c)} (hevents : fr ++ timed :: bk = front ++ back) :
    (k.run host x front).progress.state ≠ .timedOut := by
  rcases List.append_eq_append_iff.mp hevents with ⟨rest, hfront, hrest⟩ | ⟨rest, hfr, -⟩
  · cases rest with
    | nil =>
        rw [List.append_nil] at hfront
        rw [hfront]
        exact run_not_timedOut h hearly
    | cons first rest =>
        have hfirst : timed = first := (List.cons.inj hrest).1
        have hsplit : front = (fr ++ [timed]) ++ rest := by simp [hfront, hfirst]
        rw [hsplit, run_append, run_terminal hterminal]
        exact hverdict
  · refine run_not_timedOut h ?_
    intro later hlater
    exact hearly later (by simp [hfr, hlater])

end Course

/-- A started feature follows its course along a list of events. -/
theorem Follows.run {k : Course} (h : Follows s x k) (horderly : Orderly s)
    (hstarted : k.progress.state ≠ .pending) (host : Host) (events : List (Timed c)) :
    Follows (s.run host events) x (k.run host x events) := by
  induction events generalizing s k with
  | nil => exact h
  | cons timed events ih =>
      have hpending : (s.shared.execution x).state ≠ .pending := by
        rw [← state_progress, h.1]
        exact hstarted
      refine ih (h.step horderly hpending host timed) (horderly.step host timed) ?_
      intro hstate
      exact hstarted ((k.step_keeps host x timed).started hstate)

end SctpConformance
