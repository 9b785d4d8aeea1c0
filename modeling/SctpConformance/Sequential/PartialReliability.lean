import SctpConformance.Sequential.Course

/-!
# Partially reliable features

`run_pr_receive_worker` takes silence for success: it ends with the receive
timeout that follows the final message.  The timeout of the socket is that of
the feature and starts anew with every message, while the deadline was fixed at
the start.  So a worker never succeeds before the deadline, and a feature that
still waits for its worker at the deadline is timed out by the first request
that looks at it.

Main results:

- Definition `ConformingRun`: what the client and the kernel contribute.
- Theorem `Waiting.run`: until its receive times out, the worker waits.
- Theorem `neverTimedOut_iff`: a conforming run is never timed out exactly if the
  feature does not need its worker, is withdrawn in time, or is not looked at
  between its deadline and the receive timeout.
-/

namespace SctpConformance

open Library

variable {c : Catalog} {host : Host} {s : Sequential c} {x : Target c} {timed : Timed c}
  {k : Course} {t₀ : TimePoint}

/-! ## What the kernel returns -/

/-- What an event returns to the worker of `x`. -/
def Timed.returned (timed : Timed c) (x : Target c) : Option WorkerInput :=
  match timed.event with
  | .worker y input => if y = x then some input else none
  | .request _ _ => none

/-- A receive of the worker of `x` runs into its timeout. -/
def Timed.TimesOut (timed : Timed c) (x : Target c) : Prop :=
  timed.returned x = some (.received (.error .eagain)) ∨
    timed.returned x = some (.received (.error .ewouldblock))

instance (timed : Timed c) : DecidablePred timed.TimesOut := fun _ =>
  inferInstanceAs (Decidable (_ ∨ _))

/-- The final payload that a feature expects. -/
def FeatureDefinition.finalPayload (feature : FeatureDefinition) : Option CppString :=
  feature.clientSendMessages.getLast?.map materializePayload

/-- The payload that the client lets the network drop. -/
def FeatureDefinition.droppablePayload (feature : FeatureDefinition) : Option CppString :=
  feature.clientSendMessages.head?.map materializePayload

/-- The worker of `x` receives the final payload, which is not the droppable one. -/
def Timed.DeliversFinal (timed : Timed c) (x : Target c) : Prop :=
  match timed.returned x with
  | some (.received (.data payload _ _ _ _ _)) =>
      some payload = (c.definition x.feature).finalPayload ∧
        some payload ≠ (c.definition x.feature).droppablePayload
  | _ => False

instance (timed : Timed c) : DecidablePred timed.DeliversFinal := by
  intro x
  unfold Timed.DeliversFinal
  split <;> infer_instance

/-- The worker of `x` receives nothing but notifications, the final payload and
receive timeouts. -/
def Timed.Conforms (timed : Timed c) (x : Target c) : Prop :=
  ∀ input ∈ timed.returned x,
    input = .received .notification ∨ timed.DeliversFinal x ∨ timed.TimesOut x

instance (timed : Timed c) : DecidablePred timed.Conforms := fun x =>
  inferInstanceAs (Decidable (∀ input ∈ timed.returned x,
    input = .received .notification ∨ timed.DeliversFinal x ∨ timed.TimesOut x))

/-- A receive that was begun at the given time runs into its timeout `T` later.
The worker begins the next receive as soon as the last one has returned. -/
def TimesOutAfter (T : Int) (x : Target c) : TimePoint → List (Timed c) → Prop
  | _, [] => True
  | begun, timed :: rest =>
      (timed.TimesOut x → timed.now = begun + T) ∧
        TimesOutAfter T x (if (timed.returned x).isSome then timed.now else begun) rest

instance TimesOutAfter.decidable (T : Int) (x : Target c) :
    (begun : TimePoint) → (events : List (Timed c)) → Decidable (TimesOutAfter T x begun events)
  | _, [] => isTrue trivial
  | begun, timed :: rest =>
      have := TimesOutAfter.decidable T x
        (if (timed.returned x).isSome then timed.now else begun) rest
      inferInstanceAs (Decidable ((timed.TimesOut x → timed.now = begun + T) ∧
        TimesOutAfter T x (if (timed.returned x).isSome then timed.now else begun) rest))

/-- No receive times out earlier than `T` after the first was begun. -/
theorem TimesOutAfter.le {T : Int} {begun : TimePoint} {events front back : List (Timed c)}
    (h : TimesOutAfter T x begun events) (hlater : ∀ timed ∈ events, begun ≤ timed.now)
    (hsorted : events.Pairwise fun e f => e.now ≤ f.now)
    (hevents : events = front ++ timed :: back) (htimeout : timed.TimesOut x) :
    begun + T ≤ timed.now := by
  induction front generalizing events begun with
  | nil =>
      subst hevents
      exact (h.1 htimeout).ge
  | cons first front ih =>
      subst hevents
      rcases List.pairwise_cons.mp hsorted with ⟨hfirst, hsorted⟩
      have hbegun : begun ≤ if (first.returned x).isSome then first.now else begun := by
        split
        · exact hlater first List.mem_cons_self
        · exact le_rfl
      have hrest := ih h.2 ?_ hsorted rfl
      · exact (Int.add_le_add_right hbegun T).trans hrest
      · intro later hmem
        split
        · exact hfirst later hmem
        · exact hlater later (List.mem_cons_of_mem _ hmem)

/-! ## Waiting -/

/-- The worker of a partially reliable feature waits, and knows whether the final
message has come.  Nothing is said about the worker of a feature with a verdict. -/
structure Waiting (x : Target c) (deadline : TimePoint) (k : Course) (sawFinal : Bool) :
    Prop where
  deadline : k.progress.deadlineAt = deadline
  started : k.progress.state ≠ .pending
  unobserved : k.progress.state = .active → k.progress.networkComplete = false
  worker : k.progress.state = .active → ∃ fd, k.worker =
    some (.receive (.prReceive fd (c.definition x.feature).clientSendMessages false sawFinal))

namespace Waiting

variable {deadline : TimePoint} {sawFinal : Bool}

/-- The final message is remembered. -/
theorem advance_final {now : TimePoint} {input : WorkerInput}
    (h : (⟨now, .worker x input⟩ : Timed c).DeliversFinal x) (fd : Nat) (sawFinal : Bool) :
    (WorkerStep.receive (.prReceive fd (c.definition x.feature).clientSendMessages false
        sawFinal)).advance host (c.id x.feature) input =
      .receive (.prReceive fd (c.definition x.feature).clientSendMessages false true) := by
  cases input with
  | sent outcome => simp [Timed.DeliversFinal, Timed.returned] at h
  | received outcome =>
      cases outcome with
      | error errno => simp [Timed.DeliversFinal, Timed.returned] at h
      | notification => simp [Timed.DeliversFinal, Timed.returned] at h
      | data payload stream ppid assocId eor peerAddrs =>
          simp only [Timed.DeliversFinal, Timed.returned, if_true,
            FeatureDefinition.finalPayload, FeatureDefinition.droppablePayload] at h
          simp only [WorkerStep.advance, WorkerState.onReceive, if_neg h.2, if_pos h.1]

/-- What a worker that waits makes of a notification or of the final message. -/
theorem hears (h : Waiting x deadline k sawFinal) (hactive : k.progress.state = .active)
    {now : TimePoint} {input : WorkerInput}
    (hconforms : (⟨now, .worker x input⟩ : Timed c).Conforms x)
    (hwaits : ¬(⟨now, .worker x input⟩ : Timed c).TimesOut x) (host : Host) :
    ∃ fd, k.step host x ⟨now, .worker x input⟩ = { k with
      worker := some (.receive (.prReceive fd (c.definition x.feature).clientSendMessages false
        (sawFinal || decide ((⟨now, .worker x input⟩ : Timed c).DeliversFinal x)))) } := by
  rcases h.worker hactive with ⟨fd, hworker⟩
  have hnext : (WorkerStep.receive (.prReceive fd
        (c.definition x.feature).clientSendMessages false sawFinal)).advance host
          (c.id x.feature) input =
      .receive (.prReceive fd (c.definition x.feature).clientSendMessages false
        (sawFinal || decide ((⟨now, .worker x input⟩ : Timed c).DeliversFinal x))) := by
    rcases hconforms input (by simp [Timed.returned]) with rfl | hfinal | htimeout
    · have hnot : ¬(⟨now, .worker x (.received .notification)⟩ : Timed c).DeliversFinal x := by
        simp [Timed.DeliversFinal, Timed.returned]
      rw [decide_eq_false hnot, Bool.or_false]
      rfl
    · rw [decide_eq_true hfinal, Bool.or_true]
      exact advance_final hfinal fd sawFinal
    · exact absurd htimeout hwaits
  have hjudge : k.progress.hear host (c.definition x.feature) input k.worker = k.progress := by
    rw [hworker, Progress.hear, ← Catalog.id, hnext]
    rfl
  refine ⟨fd, ?_⟩
  unfold Course.step
  dsimp only
  rw [if_pos rfl, hjudge, hworker, Option.bind_some, hnext]
  rfl

/-- Until its receive times out, a worker waits. -/
theorem step (h : Waiting x deadline k sawFinal) (hconforms : timed.Conforms x)
    (hwaits : ¬timed.TimesOut x) (host : Host) :
    Waiting x deadline (k.step host x timed) (sawFinal || decide (timed.DeliversFinal x)) := by
  have hkeeps := k.step_keeps host x timed
  have hstarted : (k.step host x timed).progress.state ≠ .pending := by
    intro hpending
    exact h.started (hkeeps.started hpending)
  rcases timed with ⟨now, event⟩
  cases event with
  | request request calls =>
      have hfinal : decide ((⟨now, .request request calls⟩ : Timed c).DeliversFinal x) = false :=
        decide_eq_false not_false
      have hworker : (k.step host x ⟨now, .request request calls⟩).worker = k.worker := by
        unfold Course.step
        dsimp only
        split <;> rfl
      have hactive : (k.step host x ⟨now, .request request calls⟩).progress.state = .active →
          k.progress.state = .active ∧
            (k.step host x ⟨now, .request request calls⟩).progress.networkComplete =
              k.progress.networkComplete := by
        intro hactive
        by_cases hpolls : request.Polls x
        · simp only [Course.step, hpolls, if_true] at hactive ⊢
          rcases Progress.requested_active hactive with ⟨hbefore, -, hnetwork⟩
          exact ⟨hbefore, hnetwork⟩
        · simp only [Course.step, hpolls, if_false] at hactive ⊢
          exact ⟨hactive, trivial⟩
      rw [hfinal, Bool.or_false]
      refine ⟨hkeeps.deadline.trans h.deadline, hstarted, ?_, ?_⟩
      · intro hafter
        rcases hactive hafter with ⟨hbefore, hnetwork⟩
        rw [hnetwork]
        exact h.unobserved hbefore
      · intro hafter
        rw [hworker]
        exact h.worker (hactive hafter).1
  | worker y input =>
      by_cases hy : y = x
      · subst hy
        by_cases hactive : k.progress.state = .active
        · rcases h.hears hactive hconforms hwaits host with ⟨fd, hstep⟩
          rw [hstep]
          exact ⟨h.deadline, h.started, h.unobserved, fun _ => ⟨fd, rfl⟩⟩
        · have hprogress : (k.step host y ⟨now, .worker y input⟩).progress = k.progress :=
            Course.step_terminal ⟨h.started, hactive⟩ host y _
          refine ⟨hkeeps.deadline.trans h.deadline, hstarted, ?_, ?_⟩
          · intro hafter
            rw [hprogress] at hafter
            exact absurd hafter hactive
          · intro hafter
            rw [hprogress] at hafter
            exact absurd hafter hactive
      · have hfinal : ¬(⟨now, .worker y input⟩ : Timed c).DeliversFinal x := by
          simp [Timed.DeliversFinal, Timed.returned, hy]
        have hstep : k.step host x ⟨now, .worker y input⟩ = k := by
          simp [Course.step, hy]
        rw [hstep, decide_eq_false hfinal, Bool.or_false]
        exact h

/-- Until its receive times out, a worker waits, and the final message is not
forgotten. -/
theorem run (h : Waiting x deadline k sawFinal) {events : List (Timed c)}
    (hconforms : ∀ timed ∈ events, timed.Conforms x)
    (hwaits : ∀ timed ∈ events, ¬timed.TimesOut x) (host : Host) :
    ∃ sawFinal', Waiting x deadline (k.run host x events) sawFinal' ∧
      (sawFinal = true ∨ (∃ timed ∈ events, timed.DeliversFinal x) → sawFinal' = true) := by
  induction events generalizing k sawFinal with
  | nil =>
      refine ⟨sawFinal, h, ?_⟩
      rintro (hsaw | ⟨timed, hmem, -⟩)
      · exact hsaw
      · contradiction
  | cons timed events ih =>
      have hone := h.step (hconforms timed List.mem_cons_self)
        (hwaits timed List.mem_cons_self) host
      rcases ih hone (fun later hmem => hconforms later (List.mem_cons_of_mem _ hmem))
        (fun later hmem => hwaits later (List.mem_cons_of_mem _ hmem)) with
        ⟨sawFinal', hwaiting, hsaw⟩
      refine ⟨sawFinal', hwaiting, ?_⟩
      rintro (hbefore | ⟨later, hmem, hfinal⟩)
      · exact hsaw (Or.inl (by simp [hbefore]))
      · rcases List.mem_cons.mp hmem with rfl | hmem
        · exact hsaw (Or.inl (by simp [hfinal]))
        · exact hsaw (Or.inr ⟨later, hmem, hfinal⟩)

/-- The receive timeout after the final message completes the feature, if the
client has reported. -/
theorem passes (h : Waiting x deadline k true) (hactive : k.progress.state = .active)
    (hagent : k.progress.agentComplete = true) (htimeout : timed.TimesOut x) (host : Host) :
    (k.step host x timed).progress.state = .passed := by
  rcases h.worker hactive with ⟨fd, hworker⟩
  rcases timed with ⟨now, event⟩
  cases event with
  | request request calls =>
      rcases htimeout with htimeout | htimeout
      · simp [Timed.returned] at htimeout
      · simp [Timed.returned] at htimeout
  | worker y input =>
      by_cases hy : y = x
      · subst hy
        have hverdict : k.progress.hear host (c.definition y.feature) input k.worker =
            k.progress.observe (c.definition y.feature) := by
          rcases htimeout with htimeout | htimeout
          · simp only [Timed.returned, if_true, Option.some.injEq] at htimeout
            subst htimeout
            simp [hworker, Progress.hear, WorkerStep.advance, WorkerState.onReceive,
              Progress.judge]
          · simp only [Timed.returned, if_true, Option.some.injEq] at htimeout
            subst htimeout
            simp [hworker, Progress.hear, WorkerStep.advance, WorkerState.onReceive,
              Progress.judge]
        simp only [Course.step, if_true]
        rw [hverdict]
        simp [Progress.observe, hactive, hagent]
      · rcases htimeout with htimeout | htimeout
        · simp [Timed.returned, hy] at htimeout
        · simp [Timed.returned, hy] at htimeout

end Waiting

/-! ## From the start on -/

/-- A partially reliable feature that is pending is started. -/
structure Starts (host : Host) (s : Sequential c) (x : Target c) (t₀ : TimePoint)
    (calls : List SocketCalls) : Prop where
  kind : (c.definition x.feature).scenarioKind = .receivePRMessages
  pending : (s.shared.execution x).state = .pending
  active : ((s.step host ⟨t₀, .request (.feature x .start) calls⟩).shared.execution
    x).state = .active

/-- The deadline of a feature that is started at `t₀`. -/
def deadlineOf (x : Target c) (t₀ : TimePoint) : TimePoint :=
  t₀ + seconds (c.definition x.feature).timeoutSeconds

/-- The point at which a feature is on its course. -/
def Sequential.course (s : Sequential c) (x : Target c) : Course where
  progress := s.shared.progress x
  worker := s.workers x

/-- A start leaves the worker waiting. -/
theorem Starts.waiting {calls : List SocketCalls} (h : Starts host s x t₀ calls)
    (horderly : Orderly s) :
    Waiting x (deadlineOf x t₀)
      ((s.step host ⟨t₀, .request (.feature x .start) calls⟩).course x) false := by
  have hstep : s.step host ⟨t₀, .request (.feature x .start) calls⟩ =
      (s.handle host t₀ (.feature x .start) calls).1 := rfl
  have hactive := h.active
  rw [hstep, ← state_progress] at hactive
  by_cases hadmitted : Admitted host ((s.shared.openDescriptor .other).maybeTimeout t₀ x) x calls
  · rcases handle_start_admitted horderly hadmitted with
      ⟨sockets, hsockets, hprogress, -, hworker⟩
    have hcount : (c.definition x.feature).targetCount = 1 := by
      simp [FeatureDefinition.targetCount, h.kind]
    have hlength := createSockets_length hsockets
    rw [hcount, List.length_nil, Nat.zero_add] at hlength
    rcases List.length_eq_one_iff.mp hlength with ⟨socketInfo, rfl⟩
    have hfirst : (c.definition x.feature).worker [socketInfo] =
        some (.prReceive socketInfo.fd (c.definition x.feature).clientSendMessages) := by
      simp [FeatureDefinition.worker, h.kind]
    have hself := hprogress x
    rw [if_pos rfl, hfirst] at hself
    rw [hfirst, Option.bind_some] at hworker
    by_cases hshort : (c.definition x.feature).clientSendMessages.length < 2
    · rw [hself] at hactive
      simp [Progress.begin, Progress.judge, Worker.start, hshort, Progress.fail,
        Progress.activate] at hactive
    · have hbegun : (s.handle host t₀ (.feature x .start) calls).1.shared.progress x =
          (s.shared.progress x).activate (c.definition x.feature) t₀ := by
        rw [hself]
        simp [Progress.begin, Progress.judge, Worker.start, hshort]
      have hfresh : (s.shared.progress x).networkComplete = false := by
        rw [Shared.progress, horderly.tidy.pristine x h.pending]
        rfl
      refine ⟨?_, ?_, ?_, ?_⟩
      · rw [hstep, Sequential.course, hbegun]
        rfl
      · rw [hstep, Sequential.course, hactive]
        decide
      · intro _
        rw [hstep, Sequential.course, hbegun]
        exact hfresh
      · intro _
        refine ⟨socketInfo.fd, ?_⟩
        rw [hstep, Sequential.course, hworker]
        simp [Worker.start, hshort, WorkerStep.waiting]
  · have hkept := (handle_start_not_admitted hadmitted).2 x
    rw [if_pos rfl] at hkept
    rw [hkept] at hactive
    have hpending : (s.shared.progress x).state = .pending := h.pending
    have hstill := (Progress.poll_active hactive).1
    rw [hpending] at hstill
    contradiction

/-! ## Reports -/

/-- The server accepts a complete report on `x`. -/
def AcceptsReport (host : Host) (s : Sequential c) (x : Target c) (timed : Timed c) : Prop :=
  match timed.event with
  | .request (.feature y (.complete body)) calls =>
      y = x ∧ (s.handle host timed.now (.feature y (.complete body)) calls).2.status = 200
  | _ => False

instance (s : Sequential c) (x : Target c) (timed : Timed c) :
    Decidable (AcceptsReport host s x timed) :=
  match timed with
  | ⟨_, .request (.feature _ (.complete _)) _⟩ => inferInstanceAs (Decidable (_ ∧ _))
  | ⟨_, .request (.feature _ .start) _⟩ => isFalse not_false
  | ⟨_, .request (.feature _ .get) _⟩ => isFalse not_false
  | ⟨_, .request (.feature _ .unknown) _⟩ => isFalse not_false
  | ⟨_, .request (.feature _ (.unsupported _)) _⟩ => isFalse not_false
  | ⟨_, .request (.session _) _⟩ => isFalse not_false
  | ⟨_, .request (.summary _) _⟩ => isFalse not_false
  | ⟨_, .request (.summaryStream _) _⟩ => isFalse not_false
  | ⟨_, .request (.other _) _⟩ => isFalse not_false
  | ⟨_, .worker _ _⟩ => isFalse not_false

/-- An accepted report completes the part of the client. -/
theorem AcceptsReport.completes (h : AcceptsReport host s x timed) :
    ((s.step host timed).shared.progress x).agentComplete = true ∧
      ((c.definition x.feature).completionMode = .agentReported →
        ((s.step host timed).shared.progress x).state = .passed) := by
  rcases timed with ⟨now, event⟩
  unfold AcceptsReport at h
  split at h
  · rename_i y body calls hevent
    rcases h with ⟨rfl, hstatus⟩
    dsimp only at hevent hstatus
    subst hevent
    have hlaunched : (handleRequest host now (s.shared.openDescriptor .other)
        (.feature y (.complete body)) calls).launched = none :=
      launched_completeFeature now ((s.shared.openDescriptor .other).maybeTimeout now y) y body
    have hresponse : (s.handle host now (.feature y (.complete body)) calls).2 =
        (handleRequest host now (s.shared.openDescriptor .other)
          (.feature y (.complete body)) calls).response := by
      unfold Sequential.handle
      dsimp only
      rw [hlaunched]
    have hprogress : (s.step host ⟨now, .request (.feature y (.complete body)) calls⟩).shared.progress
        y = (handleRequest host now (s.shared.openDescriptor .other)
          (.feature y (.complete body)) calls).shared.progress y :=
      (handle_of_not_launched hlaunched).2 y
    rw [hresponse] at hstatus
    rw [hprogress]
    exact completeFeature_accepted hstatus
  · contradiction

/-- A client withdraws `x`: the server can read its unsupported report. -/
def Timed.Withdraws (timed : Timed c) (x : Target c) : Prop :=
  match timed.event with
  | .request (.feature y (.unsupported body)) _ => y = x ∧ (parseUnsupportedReport body).isOk
  | _ => False

instance (timed : Timed c) : DecidablePred timed.Withdraws := fun _ =>
  match timed with
  | ⟨_, .request (.feature _ (.unsupported _)) _⟩ => inferInstanceAs (Decidable (_ ∧ _))
  | ⟨_, .request (.feature _ .start) _⟩ => isFalse not_false
  | ⟨_, .request (.feature _ .get) _⟩ => isFalse not_false
  | ⟨_, .request (.feature _ .unknown) _⟩ => isFalse not_false
  | ⟨_, .request (.feature _ (.complete _)) _⟩ => isFalse not_false
  | ⟨_, .request (.session _) _⟩ => isFalse not_false
  | ⟨_, .request (.summary _) _⟩ => isFalse not_false
  | ⟨_, .request (.summaryStream _) _⟩ => isFalse not_false
  | ⟨_, .request (.other _) _⟩ => isFalse not_false
  | ⟨_, .worker _ _⟩ => isFalse not_false

/-- A feature that is withdrawn has a verdict. -/
theorem Timed.Withdraws.terminal (h : timed.Withdraws x) {k : Course}
    (hstarted : k.progress.state ≠ .pending) (host : Host) :
    (k.step host x timed).progress.state.Terminal := by
  rcases timed with ⟨now, event⟩
  unfold Timed.Withdraws at h
  split at h
  · rename_i y body calls hevent
    rcases h with ⟨rfl, hok⟩
    dsimp only at hevent
    subst hevent
    have hpolls : (Request.feature y (.unsupported body)).Polls y := rfl
    refine ⟨fun hpending => hstarted ((k.step_keeps host y _).started hpending), ?_⟩
    simp only [Course.step, hpolls, if_true, Progress.requested, Progress.unsupportedRequest]
    cases hreport : parseUnsupportedReport body with
    | error error =>
        rw [hreport] at hok
        contradiction
    | ok report =>
        dsimp only
        intro hactive
        rcases Progress.unsupport_cases (k.progress.poll now) with hkept | ⟨-, hended⟩
        · rw [hkept] at hactive
          rw [Progress.unsupport, if_pos (Or.inr hactive)] at hkept
          rw [← hkept] at hactive
          contradiction
        · rw [hended] at hactive
          contradiction
  · contradiction

/-! ## Lingering -/

namespace Waiting

variable {deadline : TimePoint} {sawFinal : Bool}

/-- A feature that needs its worker lingers: before its deadline it can only be
withdrawn, and from then on it can only be timed out. -/
theorem lingers (h : Waiting x deadline k sawFinal)
    (hmode : (c.definition x.feature).completionMode ≠ .agentReported)
    (hstate : k.progress.state = .active ∨ k.progress.state = .timedOut)
    (hconforms : timed.Conforms x) (hwaits : ¬timed.TimesOut x)
    (hwithdrawn : timed.Withdraws x → deadline ≤ timed.now) (host : Host) :
    (k.step host x timed).progress.state = .active ∨
      (k.step host x timed).progress.state = .timedOut := by
  rcases hstate with hactive | htimedOut
  · rcases timed with ⟨now, event⟩
    cases event with
    | worker y input =>
        left
        by_cases hy : y = x
        · subst hy
          rcases h.hears hactive hconforms hwaits host with ⟨fd, hstep⟩
          rw [hstep]
          exact hactive
        · simpa [Course.step, hy] using hactive
    | request request calls =>
        by_cases hpolls : request.Polls x
        · by_cases hlate : deadline ≤ now
          · right
            rw [← h.deadline] at hlate
            have hpolled : (⟨now, .request request calls⟩ : Timed c).Polls x := hpolls
            exact Course.step_polled hactive hpolled hlate host
          · left
            have hpoll : k.progress.poll now = k.progress := by
              rcases Progress.poll_cases k.progress now with hsame | ⟨-, hreached, -⟩
              · exact hsame
              · rw [h.deadline] at hreached
                exact absurd hreached hlate
            simp only [Course.step, hpolls, if_true, Progress.requested]
            split
            · rename_i y body
              unfold Progress.completeRequest
              split
              · rwa [hpoll]
              · rw [hpoll, Progress.complete]
                split
                · rw [if_neg]
                  · exact hactive
                  · simp [hmode, h.unobserved hactive]
                · exact hactive
            · rename_i y body
              unfold Progress.unsupportedRequest
              split
              · rwa [hpoll]
              · rename_i report hreport
                have hx : x = y := hpolls
                have hwithdraws : (⟨now, .request (.feature y (.unsupported body)) calls⟩ :
                    Timed c).Withdraws x := ⟨hx.symm, by rw [hreport]; rfl⟩
                exact absurd (hwithdrawn hwithdraws) hlate
            · rwa [hpoll]
        · left
          simpa [Course.step, hpolls] using hactive
  · right
    rw [Course.step_terminal (by rw [htimedOut]; decide), htimedOut]

/-- Such a feature is timed out by the first request that looks at it after its
deadline, unless a receive of its worker has timed out before. -/
theorem timedOut_of_polled (h : Waiting x deadline k sawFinal)
    (hmode : (c.definition x.feature).completionMode ≠ .agentReported)
    (hstate : k.progress.state = .active ∨ k.progress.state = .timedOut)
    {front : List (Timed c)} (hconforms : ∀ later ∈ front, later.Conforms x)
    (hwaits : ∀ later ∈ front, ¬later.TimesOut x)
    (hwithdrawn : ∀ later ∈ front, later.Withdraws x → deadline ≤ later.now)
    (hpolls : timed.Polls x) (hlate : deadline ≤ timed.now) (host : Host) :
    (k.run host x (front ++ [timed])).progress.state = .timedOut := by
  induction front generalizing k sawFinal with
  | nil =>
      rcases hstate with hactive | htimedOut
      · rw [← h.deadline] at hlate
        exact Course.step_polled hactive hpolls hlate host
      · have hkept := Course.run_terminal (k := k) (by rw [htimedOut]; decide) host x [timed]
        rwa [← hkept] at htimedOut
  | cons first front ih =>
      have hfirst : first ∈ first :: front := List.mem_cons_self
      exact ih
        (h.step (hconforms first hfirst) (hwaits first hfirst) host)
        (h.lingers hmode hstate (hconforms first hfirst) (hwaits first hfirst)
          (hwithdrawn first hfirst) host)
        (fun later hlater => hconforms later (List.mem_cons_of_mem _ hlater))
        (fun later hlater => hwaits later (List.mem_cons_of_mem _ hlater))
        (fun later hlater => hwithdrawn later (List.mem_cons_of_mem _ hlater))

end Waiting

/-! ## Conforming runs -/

/-- What the client and the kernel contribute after a start at `t₀` that has led
to `s`: the final message and an accepted report come in time, no other message
comes, and a receive times out only when its time has elapsed. -/
structure ConformingRun (host : Host) (s : Sequential c) (x : Target c) (t₀ : TimePoint)
    (events : List (Timed c)) : Prop where
  sorted : events.Pairwise fun e f => e.now ≤ f.now
  later : ∀ timed ∈ events, t₀ ≤ timed.now
  receives : ∀ timed ∈ events, timed.Conforms x
  kernel : TimesOutAfter (seconds (c.definition x.feature).timeoutSeconds) x t₀ events
  final : ∃ timed ∈ events, timed.DeliversFinal x ∧ t₀ < timed.now ∧
    timed.now < deadlineOf x t₀
  reported : ∃ front timed back, events = front ++ timed :: back ∧
    timed.now < deadlineOf x t₀ ∧ AcceptsReport host (s.run host front) x timed

/-- The feature is never found timed out. -/
def NeverTimedOut (host : Host) (s : Sequential c) (x : Target c) (events : List (Timed c)) :
    Prop :=
  ∀ front back, events = front ++ back →
    ((s.run host front).shared.execution x).state ≠ .timedOut

/-- The feature does not need its worker, it is withdrawn before its deadline, or
a request looks at it after its deadline only when the receive timeout of its
worker has been there. -/
def PolledInTime (x : Target c) (t₀ : TimePoint) (events : List (Timed c)) : Prop :=
  (c.definition x.feature).completionMode = .agentReported ∨
    (∃ timed ∈ events, timed.Withdraws x ∧ timed.now < deadlineOf x t₀) ∨
    ∀ front timed back, events = front ++ timed :: back → timed.Polls x →
      deadlineOf x t₀ ≤ timed.now → ∃ before ∈ front, before.TimesOut x

/-- The verdict of a started feature can be read off its course. -/
theorem state_run_course (horderly : Orderly s) (hstarted : (s.shared.execution x).state ≠ .pending)
    (host : Host) (events : List (Timed c)) :
    ((s.run host events).shared.progress x) = ((s.course x).run host x events).progress :=
  (Follows.run (k := s.course x) ⟨rfl, fun _ => rfl⟩ horderly hstarted host events).1

section

variable {calls : List SocketCalls} {s' : Sequential c} {events : List (Timed c)}

/-- A look after the deadline that comes before the receive timeout ends the feature. -/
theorem ConformingRun.timedOut_of_not_polledInTime
    (h : ConformingRun host s' x t₀ events) (horderly : Orderly s')
    (hwaiting : Waiting x (deadlineOf x t₀) (s'.course x) false)
    (hactive : (s'.shared.execution x).state = .active) (hpolled : ¬PolledInTime x t₀ events) :
    ¬NeverTimedOut host s' x events := by
  unfold PolledInTime at hpolled
  push Not at hpolled
  rcases hpolled with ⟨hmode, hwithdrawn, front, timed, back, hevents, hpolls, hlate, hwaits⟩
  have hmem : ∀ before ∈ front, before ∈ events := by
    intro before hbefore
    simp [hevents, hbefore]
  intro hnever
  refine hnever (front ++ [timed]) back (by simp [hevents]) ?_
  rw [← state_progress, state_run_course horderly hwaiting.started]
  exact hwaiting.timedOut_of_polled hmode (Or.inl hactive)
    (fun before hbefore => h.receives before (hmem before hbefore)) hwaits
    (fun before hbefore => hwithdrawn before (hmem before hbefore)) hpolls hlate host

/-- What comes before an event of a conforming run came no later. -/
theorem ConformingRun.le (h : ConformingRun host s' x t₀ events) {front back : List (Timed c)}
    (hevents : events = front ++ timed :: back) {before : Timed c} (hbefore : before ∈ front) :
    before.now ≤ timed.now := by
  have hsorted := h.sorted
  rw [hevents, List.pairwise_append] at hsorted
  exact hsorted.2.2 before hbefore timed List.mem_cons_self

/-- What came before a time at which another event has come stands before it. -/
theorem ConformingRun.split_of_lt (h : ConformingRun host s' x t₀ events)
    {front back front' back' : List (Timed c)} {before : Timed c}
    (hevents : events = front ++ timed :: back) (hsplit : events = front' ++ before :: back')
    (hlt : before.now < timed.now) : ∃ rest, front = front' ++ before :: rest := by
  rcases List.append_eq_append_iff.mp (hsplit.symm.trans hevents) with
    ⟨rest, hfront, hrest⟩ | ⟨rest, hfront, hrest⟩
  · cases rest with
    | nil =>
        have hsame : before = timed := (List.cons.inj hrest).1
        rw [hsame] at hlt
        exact absurd hlt (lt_irrefl _)
    | cons first rest =>
        rw [← (List.cons.inj hrest).1] at hfront
        exact ⟨rest, hfront⟩
  · cases rest with
    | nil =>
        have hsame : timed = before := (List.cons.inj hrest).1
        rw [hsame] at hlt
        exact absurd hlt (lt_irrefl _)
    | cons first rest =>
        have hmem : timed ∈ front' := by
          rw [hfront, ← (List.cons.inj hrest).1]
          simp
        exact absurd hlt (not_lt.mpr (h.le hsplit hmem))

/-- A verdict other than a timeout settles the run, if all requests before it
have come in time. -/
theorem neverTimedOut_of_verdict (horderly : Orderly s')
    (hwaiting : Waiting x (deadlineOf x t₀) (s'.course x) false)
    (hactive : (s'.shared.execution x).state = .active) {front back : List (Timed c)}
    (hevents : events = front ++ timed :: back)
    (hearly : ∀ before ∈ front, before.Polls x → before.now < deadlineOf x t₀)
    (hterminal : ((s'.course x).run host x (front ++ [timed])).progress.state.Terminal)
    (hverdict : ((s'.course x).run host x (front ++ [timed])).progress.state ≠ .timedOut) :
    NeverTimedOut host s' x events := by
  intro front' back' hsplit
  rw [← state_progress, state_run_course horderly hwaiting.started]
  have hstate : (s'.course x).progress.state ≠ .timedOut := by
    have hstate : (s'.course x).progress.state = .active := hactive
    rw [hstate]
    decide
  rw [← hwaiting.deadline] at hearly
  exact Course.run_settled hstate hearly hterminal hverdict (hevents.symm.trans hsplit)

/-- A feature that does not need its worker passes with its report. -/
theorem ConformingRun.neverTimedOut_of_agentReported
    (h : ConformingRun host s' x t₀ events) (horderly : Orderly s')
    (hwaiting : Waiting x (deadlineOf x t₀) (s'.course x) false)
    (hactive : (s'.shared.execution x).state = .active)
    (hmode : (c.definition x.feature).completionMode = .agentReported) :
    NeverTimedOut host s' x events := by
  rcases h.reported with ⟨front, timed, back, hevents, hintime, haccepts⟩
  have hpassed := haccepts.completes.2 hmode
  have hstep : (s'.run host front).step host timed = s'.run host (front ++ [timed]) := by
    simp [Sequential.run]
  rw [hstep, state_run_course horderly hwaiting.started] at hpassed
  refine neverTimedOut_of_verdict horderly hwaiting hactive hevents ?_ ?_ ?_
  · intro before hbefore _
    exact (h.le hevents hbefore).trans_lt hintime
  · rw [hpassed]
    decide
  · rw [hpassed]
    decide

/-- A feature that is withdrawn in time is not timed out. -/
theorem ConformingRun.neverTimedOut_of_withdrawn
    (h : ConformingRun host s' x t₀ events) (horderly : Orderly s')
    (hwaiting : Waiting x (deadlineOf x t₀) (s'.course x) false)
    (hactive : (s'.shared.execution x).state = .active) (hmem : timed ∈ events)
    (hwithdraws : timed.Withdraws x) (hintime : timed.now < deadlineOf x t₀) :
    NeverTimedOut host s' x events := by
  rcases List.append_of_mem hmem with ⟨front, back, hevents⟩
  have hearly : ∀ before ∈ front, before.now < deadlineOf x t₀ := by
    intro before hbefore
    exact (h.le hevents hbefore).trans_lt hintime
  have hstarted : ((s'.course x).run host x front).progress.state ≠ .pending := by
    intro hpending
    exact hwaiting.started (((s'.course x).run_keeps host x front).started hpending)
  refine neverTimedOut_of_verdict horderly hwaiting hactive hevents ?_ ?_ ?_
  · intro before hbefore _
    exact hearly before hbefore
  · rw [Course.run_append]
    exact hwithdraws.terminal hstarted host
  · refine Course.run_not_timedOut ?_ ?_
    · have hstate : (s'.course x).progress.state = .active := hactive
      rw [hstate]
      decide
    · intro before hbefore _
      rw [hwaiting.deadline]
      rcases List.mem_append.mp hbefore with hbefore | hbefore
      · exact hearly before hbefore
      · rwa [List.mem_singleton.mp hbefore]

/-- The final message is delivered before the deadline. -/
theorem ConformingRun.final_before (h : ConformingRun host s' x t₀ events)
    {front back : List (Timed c)} {timed : Timed c} (hevents : events = front ++ timed :: back)
    (hreached : deadlineOf x t₀ ≤ timed.now) : ∃ before ∈ front, before.DeliversFinal x := by
  rcases h.final with ⟨final, hmem, hdelivers, -, hintime⟩
  rcases List.append_of_mem hmem with ⟨front', back', hsplit⟩
  rcases h.split_of_lt hevents hsplit (hintime.trans_le hreached) with ⟨rest, hfront⟩
  exact ⟨final, by simp [hfront], hdelivers⟩

/-- So is the report of the agent accepted. -/
theorem ConformingRun.agent_before (h : ConformingRun host s' x t₀ events) (horderly : Orderly s')
    (hstarted : (s'.course x).progress.state ≠ .pending) {front back : List (Timed c)}
    {timed : Timed c} (hevents : events = front ++ timed :: back)
    (hreached : deadlineOf x t₀ ≤ timed.now) :
    ((s'.course x).run host x front).progress.agentComplete = true := by
  rcases h.reported with ⟨front', report, back', hsplit, hintime, haccepts⟩
  rcases h.split_of_lt hevents hsplit (hintime.trans_le hreached) with ⟨rest, hfront⟩
  have hcompletes := haccepts.completes.1
  have hstep : (s'.run host front').step host report = s'.run host (front' ++ [report]) := by
    simp [Sequential.run]
  rw [hstep, state_run_course horderly hstarted] at hcompletes
  have hrun : (s'.course x).run host x front =
      ((s'.course x).run host x (front' ++ [report])).run host x rest := by
    rw [← Course.run_append, hfront, List.append_assoc, List.singleton_append]
  rw [hrun]
  exact (Course.run_keeps _ host x rest).agent hcompletes

/-- A feature that is looked at in time is not timed out: its worker ends with
the first receive that times out. -/
theorem ConformingRun.neverTimedOut_of_polled
    (h : ConformingRun host s' x t₀ events) (horderly : Orderly s')
    (hwaiting : Waiting x (deadlineOf x t₀) (s'.course x) false)
    (hactive : (s'.shared.execution x).state = .active)
    (hpolled : ∀ front timed back, events = front ++ timed :: back → timed.Polls x →
      deadlineOf x t₀ ≤ timed.now → ∃ before ∈ front, before.TimesOut x) :
    NeverTimedOut host s' x events := by
  have hstate : (s'.course x).progress.state ≠ .timedOut := by
    have hstate : (s'.course x).progress.state = .active := hactive
    rw [hstate]
    decide
  by_cases htimeout : ∃ timed ∈ events, timed.TimesOut x
  · have hfind : ∃ timed, events.find? (fun e => e.TimesOut x) = some timed := by
      rcases htimeout with ⟨timed, hmem, htimeout⟩
      exact Option.isSome_iff_exists.mp
        (List.find?_isSome.mpr ⟨timed, hmem, decide_eq_true htimeout⟩)
    rcases hfind with ⟨timed, hfind⟩
    rcases List.find?_eq_some_iff_append.mp hfind with ⟨hfirst, front, back, hevents, hwaits⟩
    have hfirst : timed.TimesOut x := of_decide_eq_true hfirst
    have hwaits : ∀ before ∈ front, ¬before.TimesOut x := by
      intro before hbefore
      simpa using hwaits before hbefore
    -- the first receive that times out began after the start
    have hreached : deadlineOf x t₀ ≤ timed.now :=
      h.kernel.le h.later h.sorted hevents hfirst
    have hfinal := h.final_before hevents hreached
    rcases hwaiting.run
      (fun before hmem => h.receives before (by simp [hevents, hmem])) hwaits host with
      ⟨sawFinal, hwaiting', hsaw⟩
    rw [hsaw (Or.inr hfinal)] at hwaiting'
    have hearly : ∀ before ∈ front, before.Polls x → before.now < deadlineOf x t₀ := by
      intro before hmem hpolls
      by_contra hlate
      rcases List.append_of_mem hmem with ⟨front', back', hfront⟩
      rcases hpolled front' before (back' ++ timed :: back) (by simp [hevents, hfront]) hpolls
        (not_lt.mp hlate) with ⟨first, hmem', hfirst'⟩
      exact hwaits first (by simp [hfront, hmem']) hfirst'
    have hagent := h.agent_before horderly hwaiting.started hevents hreached
    have hverdict : ((s'.course x).run host x (front ++ [timed])).progress.state.Terminal ∧
        ((s'.course x).run host x (front ++ [timed])).progress.state ≠ .timedOut := by
      rw [Course.run_append]
      by_cases hlingers : ((s'.course x).run host x front).progress.state = .active
      · have hpassed := hwaiting'.passes hlingers hagent hfirst host
        exact ⟨by rw [Course.run, List.foldl_cons, List.foldl_nil, hpassed]; decide,
          by rw [Course.run, List.foldl_cons, List.foldl_nil, hpassed]; decide⟩
      · have hterminal : ((s'.course x).run host x front).progress.state.Terminal :=
          ⟨hwaiting'.started, hlingers⟩
        rw [Course.run_terminal hterminal]
        refine ⟨hterminal, Course.run_not_timedOut hstate ?_⟩
        rwa [hwaiting.deadline]
    exact neverTimedOut_of_verdict horderly hwaiting hactive hevents hearly hverdict.1 hverdict.2
  · intro front back hsplit
    rw [← state_progress, state_run_course horderly hwaiting.started]
    refine Course.run_not_timedOut hstate ?_
    intro before hbefore hpolls
    rw [hwaiting.deadline]
    by_contra hlate
    rcases List.append_of_mem hbefore with ⟨front', back', hfront⟩
    rcases hpolled front' before (back' ++ back) (by simp [hsplit, hfront]) hpolls
      (not_lt.mp hlate) with ⟨first, hmem, hfirst⟩
    exact htimeout ⟨first, by simp [hsplit, hfront, hmem], hfirst⟩

end

/-- A conforming run is never found timed out exactly if it is polled in time. -/
theorem neverTimedOut_iff (hinitial : s.Initial) (before events : List (Timed c))
    (calls : List SocketCalls) (hstart : Starts host (s.run host before) x t₀ calls)
    (hrun : ConformingRun host
      ((s.run host before).step host ⟨t₀, .request (.feature x .start) calls⟩) x t₀ events) :
    NeverTimedOut host
        ((s.run host before).step host ⟨t₀, .request (.feature x .start) calls⟩) x events ↔
      PolledInTime x t₀ events := by
  have horderly := Sequential.run_orderly (orderly_of_initial hinitial) host before
  have horderly' := horderly.step host ⟨t₀, .request (.feature x .start) calls⟩
  have hwaiting := hstart.waiting horderly
  constructor
  · intro hnever
    by_contra hpolled
    exact hrun.timedOut_of_not_polledInTime horderly' hwaiting hstart.active hpolled hnever
  · rintro (hmode | ⟨timed, hmem, hwithdraws, hintime⟩ | hpolled)
    · exact hrun.neverTimedOut_of_agentReported horderly' hwaiting hstart.active hmode
    · exact hrun.neverTimedOut_of_withdrawn horderly' hwaiting hstart.active hmem hwithdraws
        hintime
    · exact hrun.neverTimedOut_of_polled horderly' hwaiting hstart.active hpolled

/-! ## A run of pr_sctp_ttl -/

/-- pr_sctp_ttl has been started. -/
def ttlStarted : Sequential sampleCatalog :=
  sampleServer.step sampleHost ⟨0, .request (.feature prSctpTtl .start) []⟩

/-- The client reports, its final message comes, a poll is made at the given time,
and the receive times out 30 s after the message. -/
def ttlRun (polled : List (Timed sampleCatalog)) : List (Timed sampleCatalog) :=
  [⟨seconds 4, .request (.feature prSctpTtl (.complete (str "\x7b\x7d"))) []⟩,
    ⟨seconds 5, .worker prSctpTtl
      (.received (.data (str "pr-ttl-delivered") 17 1702 7 true []))⟩] ++ polled ++
  [⟨seconds 35, .worker prSctpTtl (.received (.error .eagain))⟩,
    ⟨seconds 40, .request (.summary 0) []⟩]

theorem ttlStarts : Starts sampleHost sampleServer prSctpTtl 0 [] where
  kind := rfl
  pending := rfl
  active := by decide

/-- The final message of pr_sctp_ttl is not the one that may be dropped. -/
theorem ttlDelivers : (⟨seconds 5, .worker prSctpTtl
    (.received (.data (str "pr-ttl-delivered") 17 1702 7 true []))⟩ :
      Timed sampleCatalog).DeliversFinal prSctpTtl := by
  refine ⟨rfl, ?_⟩
  intro hsame
  have hdropped : materializePayload ⟨str "pr-ttl-drop", 17, 1701, 32768, false, str "ttl", 250, 0⟩ =
      str "pr-ttl-delivered" := (Option.some.inj hsame).symm
  have hprefix := materializePayload_prefix
    ⟨str "pr-ttl-drop", 17, 1701, 32768, false, str "ttl", 250, 0⟩
  rw [hdropped] at hprefix
  exact absurd hprefix (by decide)

theorem ttlConforms {polled : List (Timed sampleCatalog)}
    (hsorted : (ttlRun polled).Pairwise fun e f => e.now ≤ f.now)
    (hkernel : TimesOutAfter (seconds 30) prSctpTtl 0 (ttlRun polled))
    (hpolled : ∀ timed ∈ polled, timed.returned prSctpTtl = none) :
    ConformingRun sampleHost ttlStarted prSctpTtl 0 (ttlRun polled) where
  sorted := hsorted
  later := by
    intro timed hmem
    rcases List.mem_cons.mp hmem with rfl | hmem
    · decide
    · have hfirst : seconds 4 ≤ timed.now := (List.pairwise_cons.mp hsorted).1 timed hmem
      exact le_trans (by decide) hfirst
  receives := by
    intro timed hmem input hinput
    simp only [ttlRun, List.mem_append, List.mem_cons, List.not_mem_nil, or_false] at hmem
    rcases hmem with ((rfl | rfl) | hmem) | rfl | rfl
    · contradiction
    · exact Or.inr (Or.inl ttlDelivers)
    · rw [hpolled timed hmem] at hinput
      contradiction
    · exact Or.inr (Or.inr (Or.inl rfl))
    · contradiction
  kernel := hkernel
  final := by
    refine ⟨_, ?_, ttlDelivers, by decide, by decide⟩
    simp [ttlRun]
  reported := ⟨[], _, _, rfl, by decide, by decide⟩

theorem neverTimedOut_polledLate :
    NeverTimedOut sampleHost ttlStarted prSctpTtl (ttlRun []) := by
  refine (neverTimedOut_iff sampleServer_initial [] (ttlRun []) [] ttlStarts
    (ttlConforms (by decide) (by decide) (by decide))).mpr (Or.inr (Or.inr ?_))
  intro front timed back hevents hpolls hlate
  rcases front with _ | ⟨first, _ | ⟨second, _ | ⟨third, front⟩⟩⟩
  · cases hevents
    exact absurd hlate (by decide)
  · cases hevents
    exact absurd hpolls not_false
  · cases hevents
    exact absurd hpolls not_false
  · have hthird := (List.cons.inj (List.cons.inj (List.cons.inj hevents).2).2).1
    refine ⟨third, by simp, ?_⟩
    rw [← hthird]
    exact Or.inl rfl

/-- A poll at 31 s, past the deadline and before the receive timeout. -/
theorem neverTimedOut_polledBetween :
    ¬∀ (c : Catalog) (host : Host) (s : Sequential c) (before events : List (Timed c))
      (x : Target c) (t₀ : TimePoint) (calls : List SocketCalls), s.Initial →
      Starts host (s.run host before) x t₀ calls →
      ConformingRun host
        ((s.run host before).step host ⟨t₀, .request (.feature x .start) calls⟩) x t₀ events →
      NeverTimedOut host
        ((s.run host before).step host ⟨t₀, .request (.feature x .start) calls⟩) x events := by
  intro hclaim
  have hconforms : ConformingRun sampleHost ttlStarted prSctpTtl 0
      (ttlRun [⟨seconds 31, .request (.feature prSctpTtl .get) []⟩]) :=
    ttlConforms (by decide) (by decide) (by decide)
  have hnever := hclaim sampleCatalog sampleHost sampleServer [] _ prSctpTtl 0 []
    sampleServer_initial ttlStarts hconforms
  have horderly := orderly_of_initial sampleServer_initial
  refine hconforms.timedOut_of_not_polledInTime
    (horderly.step sampleHost ⟨0, .request (.feature prSctpTtl .start) []⟩)
    (ttlStarts.waiting horderly) ttlStarts.active ?_ hnever
  rintro (hmode | ⟨timed, hmem, hwithdraws, -⟩ | hpolled)
  · revert hmode
    decide
  · revert hwithdraws
    simp only [ttlRun, List.mem_append, List.mem_cons, List.not_mem_nil, or_false] at hmem
    rcases hmem with ((rfl | rfl) | rfl) | rfl | rfl <;> decide
  · rcases hpolled [_, _] _ _ rfl (by decide) (by decide) with ⟨before, hmem, htimeout⟩
    revert htimeout
    simp only [List.mem_cons, List.not_mem_nil, or_false] at hmem
    rcases hmem with rfl | rfl <;> decide

end SctpConformance
