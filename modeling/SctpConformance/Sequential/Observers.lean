import SctpConformance.Sequential.Runs
import SctpConformance.Library.TwoRuns

/-!
# What observers can change

Two runs with the same starts, reports, deliveries and receive timeouts, but
with different polls.  A poll may end a feature that has reached its deadline;
the run without the poll finds it active later.  The two runs give the same
verdicts as long as nothing but a deadline ends such a feature: handlers apply
the deadline before they act, but a worker gives its verdict without looking at
it, and a start is refused while another feature is active, expired or not.

Main results:

- Definition `InTime`: the events that an expired feature does not mislead.
- Definition `Indistinct`: what two runs of events in time have in common.
- Theorem `sameVerdicts`: two runs that differ in observations, with all their
  events in time, give the same verdicts.
-/

namespace SctpConformance

open Library

variable {c : Catalog} {host : Host} {s s' : Sequential c} {x y : Target c}
  {now t : TimePoint} {calls : List SocketCalls}

/-! ## Workers without descriptor numbers -/

/-- A worker without the numbers of its sockets. -/
def WorkerState.anonymous : WorkerState → WorkerState
  | .receive _ expected count matched checked => .receive 0 expected count matched checked
  | .prReceive _ expected sawSkipped sawFinal => .prReceive 0 expected sawSkipped sawFinal
  | .receiveMultiTarget fds expected i => .receiveMultiTarget (fds.map fun _ => 0) expected i
  | .awaitTrigger _ trigger messages => .awaitTrigger 0 trigger messages
  | .sendMessages _ assocId messages => .sendMessages 0 assocId messages

/-- Its next step without them. -/
def WorkerStep.anonymous : WorkerStep → WorkerStep
  | .receive state => .receive state.anonymous
  | .send state => .send state.anonymous
  | .markFailed message => .markFailed message
  | .markNetworkComplete => .markNetworkComplete

/-- A worker that is to be started, without them. -/
def Worker.anonymous : Worker → Worker
  | .receive _ expected count => .receive 0 expected count
  | .prReceive _ expected => .prReceive 0 expected
  | .receiveMultiTarget fds expected => .receiveMultiTarget (fds.map fun _ => 0) expected
  | .sendAfterTrigger _ trigger messages => .sendAfterTrigger 0 trigger messages

/-- The loop does not look at the number of its socket. -/
theorem receiveLoop_anonymous (fd : Nat) (expected : List MessageSpec) (count matched : Nat)
    (checked : Bool) :
    (receiveLoop fd expected count matched checked).anonymous =
      receiveLoop 0 expected count matched checked := by
  unfold receiveLoop
  split <;> rfl

/-- Neither does the loop over several sockets. -/
theorem receiveMultiTargetLoop_anonymous (fds : List Nat) (expected : List MessageSpec)
    (i : Nat) :
    (receiveMultiTargetLoop fds expected i).anonymous =
      receiveMultiTargetLoop (fds.map fun _ => 0) expected i := by
  unfold receiveMultiTargetLoop
  split <;> rfl

/-- Nor does the one that sends. -/
theorem sendLoop_anonymous (fd : Nat) (assocId : UInt32) (messages : List MessageSpec) :
    (sendLoop fd assocId messages).anonymous = sendLoop 0 assocId messages := by
  cases messages <;> rfl

/-- The number of a descriptor decides nothing about what a worker starts with. -/
theorem Worker.start_anonymous (worker : Worker) :
    worker.start.anonymous = worker.anonymous.start := by
  cases worker with
  | receive fd expected count => exact receiveLoop_anonymous fd expected count 0 false
  | prReceive fd expected =>
      simp only [start, anonymous]
      split <;> rfl
  | receiveMultiTarget fds expected =>
      simp only [start, anonymous, List.length_map]
      split
      · rfl
      · exact receiveMultiTargetLoop_anonymous fds expected 0
  | sendAfterTrigger fd trigger messages => rfl

/-- What has been received decides, whatever the number of the socket. -/
theorem WorkerState.onReceive_anonymous (state : WorkerState) (featureId : CppString)
    (outcome : ReceiveOutcome) :
    (state.onReceive host featureId outcome).anonymous =
      state.anonymous.onReceive host featureId outcome := by
  cases state with
  | receive fd expected count matched checked =>
      cases outcome with
      | error errno => rfl
      | notification => rfl
      | data payload stream ppid assocId eor peerAddrs =>
          simp only [onReceive, anonymous]
          repeat' split
          all_goals first | rfl | exact receiveLoop_anonymous _ _ _ _ _
  | prReceive fd expected sawSkipped sawFinal =>
      cases outcome with
      | error errno =>
          simp only [onReceive, anonymous]
          repeat' split
          all_goals rfl
      | notification => rfl
      | data payload stream ppid assocId eor peerAddrs =>
          simp only [onReceive, anonymous]
          repeat' split
          all_goals rfl
  | receiveMultiTarget fds expected i =>
      cases outcome with
      | error errno => rfl
      | notification => rfl
      | data payload stream ppid assocId eor peerAddrs =>
          simp only [onReceive, anonymous]
          split
          · rfl
          · exact receiveMultiTargetLoop_anonymous fds expected (i + 1)
  | awaitTrigger fd trigger messages =>
      cases outcome with
      | error errno => rfl
      | notification => rfl
      | data payload stream ppid assocId eor peerAddrs =>
          simp only [onReceive, anonymous]
          split
          · rfl
          · exact sendLoop_anonymous fd assocId messages
  | sendMessages fd assocId messages => rfl

/-- So does the result of sending. -/
theorem WorkerState.onSend_anonymous (state : WorkerState) (outcome : SendOutcome) :
    (state.onSend host outcome).anonymous = state.anonymous.onSend host outcome := by
  cases state with
  | sendMessages fd assocId messages =>
      cases outcome with
      | none => exact sendLoop_anonymous fd assocId messages.tail
      | some errno => rfl
  | receive fd expected count matched checked => rfl
  | prReceive fd expected sawSkipped sawFinal => rfl
  | receiveMultiTarget fds expected i => rfl
  | awaitTrigger fd trigger messages => rfl

/-- The number of a descriptor decides nothing about what a worker does. -/
theorem WorkerStep.advance_anonymous (next : WorkerStep) (featureId : CppString)
    (input : WorkerInput) :
    (next.advance host featureId input).anonymous =
      next.anonymous.advance host featureId input := by
  cases next with
  | receive state =>
      cases input with
      | received outcome => exact state.onReceive_anonymous featureId outcome
      | sent outcome => rfl
  | send state =>
      cases input with
      | received outcome => rfl
      | sent outcome => exact state.onSend_anonymous outcome
  | markFailed message => rfl
  | markNetworkComplete => rfl

/-- The number of a descriptor decides nothing about which worker is launched. -/
theorem FeatureDefinition.worker_anonymous (feature : FeatureDefinition)
    (sockets : List ListeningSocket) :
    (feature.worker sockets).map Worker.anonymous =
      feature.worker (sockets.map ListeningSocket.anonymous) := by
  unfold worker
  split
  · rfl
  · cases sockets <;> rfl
  · cases sockets <;> rfl
  · simp [Worker.anonymous, ListeningSocket.anonymous]
  · cases sockets <;> rfl

/-! ## Lapsed features -/

namespace Progress

variable {v v' : Progress}

/-- The feature has timed out, or will as soon as anyone applies its deadline. -/
def Lapsed (t : TimePoint) (v : Progress) : Prop :=
  v.state = .timedOut ∨ (v.state = .active ∧ v.deadlineAt ≤ t)

/-- A feature whose time is over stays so. -/
theorem Lapsed.mono {t t' : TimePoint} (h : v.Lapsed t) (ht : t ≤ t') : v.Lapsed t' := by
  rcases h with htimedOut | ⟨hactive, hdeadline⟩
  · exact Or.inl htimedOut
  · exact Or.inr ⟨hactive, hdeadline.trans ht⟩

/-- A look at it changes nothing about that. -/
theorem Lapsed.poll (h : v.Lapsed t) (now : TimePoint) : (v.poll now).Lapsed t := by
  unfold Progress.poll
  split
  · exact Or.inl rfl
  · exact h

/-- Once its deadline is applied, a lapsed feature has timed out. -/
theorem Lapsed.poll_state (h : v.Lapsed t) (ht : t ≤ now) : (v.poll now).state = .timedOut := by
  unfold Progress.poll
  rcases h with htimedOut | ⟨hactive, hdeadline⟩
  · simp [htimedOut]
  · simp [hactive, hdeadline.trans ht]

/-- A worker without a verdict leaves a feature lapsed. -/
theorem Lapsed.judge (h : v.Lapsed t) {feature : FeatureDefinition} {next : WorkerStep}
    (hkept : v.state = .active → (v.judge feature next).state = v.state) :
    (v.judge feature next).Lapsed t := by
  rcases h with htimedOut | ⟨hactive, hdeadline⟩
  · left
    rw [judge_of_not_active (by simp [htimedOut]), htimedOut]
  · right
    refine ⟨(hkept hactive).trans hactive, ?_⟩
    have hsame : (v.judge feature next).deadlineAt = v.deadlineAt := by
      cases next with
      | markFailed message => simp [Progress.judge, fail, hactive]
      | markNetworkComplete =>
          simp only [Progress.judge, observe, hactive, if_true]
          split <;> rfl
      | receive state => rfl
      | send state => rfl
    rwa [hsame]

/-- The verdict does not depend on numbers of sockets. -/
theorem judge_anonymous (feature : FeatureDefinition) (next : WorkerStep) :
    v.judge feature next.anonymous = v.judge feature next := by
  cases next <;> rfl

/-- What a complete report does to a feature whose deadline has been applied. -/
def reported (v : Progress) (feature : FeatureDefinition) (body : CppString) : Progress :=
  match parseCompleteReport body with
  | .error _ => v
  | .ok report => v.complete feature report

/-- What an unsupported report does to such a feature. -/
def withdrawn (v : Progress) (body : CppString) : Progress :=
  match parseUnsupportedReport body with
  | .error _ => v
  | .ok _ => v.unsupport

/-- A request to complete is a look at the clock and a report. -/
theorem completeRequest_eq (v : Progress) (feature : FeatureDefinition) (body : CppString)
    (now : TimePoint) : v.completeRequest feature body now = (v.poll now).reported feature body := by
  unfold completeRequest reported
  cases parseCompleteReport body <;> rfl

/-- So is a request to withdraw. -/
theorem unsupportedRequest_eq (v : Progress) (body : CppString) (now : TimePoint) :
    v.unsupportedRequest body now = (v.poll now).withdrawn body := by
  unfold unsupportedRequest withdrawn
  cases parseUnsupportedReport body <;> rfl

end Progress

/-- Whether a worker waits does not depend on numbers of sockets. -/
theorem waiting_anonymous (next : WorkerStep) :
    next.waiting.map WorkerStep.anonymous = next.anonymous.waiting := by
  cases next <;> rfl

/-! ## Matched features -/

/-- A feature in two runs, with its workers: it has lapsed in both, or it has
the same progress in both, and, while it is active, the same worker but for the
numbers of its descriptors. -/
def Matched (t : TimePoint) (v v' : Progress) (worker worker' : Option WorkerStep) : Prop :=
  (v.Lapsed t ∧ v'.Lapsed t) ∨
    (v = v' ∧ (v.state = .active →
      worker.map WorkerStep.anonymous = worker'.map WorkerStep.anonymous))

namespace Matched

variable {v v' : Progress} {worker worker' : Option WorkerStep}

/-- Neither feature comes first. -/
theorem symm (h : Matched t v v' worker worker') : Matched t v' v worker' worker := by
  rcases h with ⟨hlapsed, hlapsed'⟩ | ⟨rfl, hworker⟩
  · exact Or.inl ⟨hlapsed', hlapsed⟩
  · exact Or.inr ⟨rfl, fun hactive => (hworker hactive).symm⟩

/-- A pending feature has not lapsed. -/
theorem eq_of_pending (h : Matched t v v' worker worker') (hpending : v.state = .pending) :
    v = v' := by
  rcases h with ⟨htimedOut | ⟨hactive, -⟩, -⟩ | ⟨hsame, -⟩
  · rw [hpending] at htimedOut
    contradiction
  · rw [hpending] at hactive
    contradiction
  · exact hsame

/-- What matches goes on matching. -/
theorem mono {t' : TimePoint} (h : Matched t v v' worker worker') (ht : t ≤ t') :
    Matched t' v v' worker worker' := by
  rcases h with ⟨hlapsed, hlapsed'⟩ | hsame
  · exact Or.inl ⟨hlapsed.mono ht, hlapsed'.mono ht⟩
  · exact Or.inr hsame

/-- A poll in one run leaves the feature matched up to the time of the poll. -/
theorem poll_left (h : Matched t v v' worker worker') (now : TimePoint) :
    Matched (max t now) (v.poll now) v' worker worker' := by
  rcases h with ⟨hlapsed, hlapsed'⟩ | ⟨rfl, hworker⟩
  · exact Or.inl ⟨(hlapsed.poll now).mono (le_max_left t now), hlapsed'.mono (le_max_left t now)⟩
  · by_cases hlate : v.state = .active ∧ v.deadlineAt ≤ now
    · left
      refine ⟨Or.inl ?_, Or.inr ⟨hlate.1, hlate.2.trans (le_max_right t now)⟩⟩
      rw [Progress.poll, if_pos hlate]
    · right
      rw [Progress.poll, if_neg hlate]
      exact ⟨rfl, hworker⟩

/-- A request in both runs, if it applies the deadline first and does nothing to
a feature that has timed out. -/
theorem request (h : Matched t v v' worker worker') (ht : t ≤ now) {f : Progress → Progress}
    (htimedOut : ∀ v : Progress, v.state = .timedOut → f v = v)
    (hactive : ∀ v : Progress, (f v).state = .active → v.state = .active) :
    Matched now (f (v.poll now)) (f (v'.poll now)) worker worker' := by
  rcases h with ⟨hlapsed, hlapsed'⟩ | ⟨rfl, hworker⟩
  · left
    rw [htimedOut _ (hlapsed.poll_state ht), htimedOut _ (hlapsed'.poll_state ht)]
    exact ⟨Or.inl (hlapsed.poll_state ht), Or.inl (hlapsed'.poll_state ht)⟩
  · exact Or.inr ⟨rfl, fun hf => hworker (Progress.poll_active (hactive _ hf)).1⟩

end Matched

/-! ## Events in time -/

/-- The worker is about to end its feature. -/
def WorkerStep.Judges (feature : FeatureDefinition) (e : FeatureExecution) : WorkerStep → Prop
  | .markFailed _ => True
  | .markNetworkComplete => feature.completionMode = .serverObserved ∨ e.agentComplete = true
  | _ => False

instance (feature : FeatureDefinition) (e : FeatureExecution) :
    DecidablePred (WorkerStep.Judges feature e)
  | .receive _ => isFalse not_false
  | .send _ => isFalse not_false
  | .markFailed _ => isTrue trivial
  | .markNetworkComplete => inferInstanceAs (Decidable (_ ∨ _))

/-- A worker gives its verdict on an active feature before the deadline of the
feature, and a start is made while no other active feature of the session has
reached its deadline. -/
def InTime (host : Host) (s : Sequential c) (timed : Timed c) : Prop :=
  match timed.event with
  | .worker x input => ∀ next ∈ s.workers x, (s.shared.execution x).state = .active →
      (next.advance host (c.id x.feature) input).Judges (c.definition x.feature)
        (s.shared.execution x) →
      timed.now < (s.shared.execution x).deadlineAt
  | .request (.feature x .start) _ => ∀ r, r ≠ x.feature →
      (s.shared.execution ⟨x.session, r⟩).state = .active →
      timed.now < (s.shared.execution ⟨x.session, r⟩).deadlineAt
  | .request _ _ => True

instance (host : Host) (s : Sequential c) : DecidablePred (InTime host s) := fun timed =>
  match timed with
  | ⟨_, .worker x _⟩ => inferInstanceAs (Decidable (∀ next ∈ s.workers x, _ → _ → _))
  | ⟨_, .request (.feature x .start) _⟩ =>
      inferInstanceAs (Decidable (∀ r, r ≠ x.feature → _ → _))
  | ⟨_, .request (.feature _ .get) _⟩ => isTrue trivial
  | ⟨_, .request (.feature _ .unknown) _⟩ => isTrue trivial
  | ⟨_, .request (.feature _ (.complete _)) _⟩ => isTrue trivial
  | ⟨_, .request (.feature _ (.unsupported _)) _⟩ => isTrue trivial
  | ⟨_, .request (.session _) _⟩ => isTrue trivial
  | ⟨_, .request (.summary _) _⟩ => isTrue trivial
  | ⟨_, .request (.summaryStream _) _⟩ => isTrue trivial
  | ⟨_, .request (.other _) _⟩ => isTrue trivial

/-- The events that two runs have to share. -/
def Timed.Visible (timed : Timed c) : Prop :=
  match timed.event with
  | .request request _ => ¬request.Observes
  | .worker _ _ => True

instance : DecidablePred (Timed.Visible (c := c)) := fun timed =>
  match timed with
  | ⟨_, .request request _⟩ => inferInstanceAs (Decidable (¬request.Observes))
  | ⟨_, .worker _ _⟩ => isTrue trivial

/-- A worker that does not end its feature leaves it active. -/
theorem judge_of_not_judges {e : FeatureExecution} {feature : FeatureDefinition}
    {next : WorkerStep} (h : ¬next.Judges feature e) :
    (e.progress.judge feature next).state = e.progress.state := by
  cases next with
  | receive state => rfl
  | send state => rfl
  | markFailed message => exact absurd trivial h
  | markNetworkComplete =>
      have hopen : ¬(feature.completionMode = .serverObserved ∨
          e.progress.agentComplete = true) := h
      simp only [Progress.judge, Progress.observe, if_neg hopen]
      split <;> rfl

/-- A lapsed feature stays lapsed when a call of its worker returns in time. -/
theorem hear_lapsed {input : WorkerInput} (h : (s.shared.progress x).Lapsed now)
    (hintime : InTime host s ⟨now, .worker x input⟩) :
    ((s.shared.progress x).hear host (c.definition x.feature) input (s.workers x)).Lapsed
      now := by
  cases hnext : s.workers x with
  | none => exact h
  | some next =>
      refine h.judge ?_
      intro hactive
      apply judge_of_not_judges
      intro hjudges
      have hearly := hintime next (by simp [hnext]) hactive hjudges
      rcases h with htimedOut | ⟨-, hlate⟩
      · rw [htimedOut] at hactive
        contradiction
      · exact absurd hearly (not_lt.mpr hlate)

/-! ## Indistinct runs -/

/-- Two runs whose features match, up to the given time. -/
structure Indistinct (t : TimePoint) (s s' : Sequential c) : Prop where
  orderly : Orderly s
  orderly' : Orderly s'
  matched : ∀ x, Matched t (s.shared.progress x) (s'.shared.progress x) (s.workers x)
    (s'.workers x)

namespace Indistinct

/-- Neither server comes first. -/
theorem symm (h : Indistinct t s s') : Indistinct t s' s where
  orderly := h.orderly'
  orderly' := h.orderly
  matched x := (h.matched x).symm

/-- An observation in one run. -/
theorem left (h : Indistinct t s s') {timed : Timed c} (hhidden : ¬timed.Visible) :
    Indistinct (max t timed.now) (s.step host timed) s' := by
  rcases timed with ⟨now, event⟩
  cases event with
  | worker x input => exact absurd trivial hhidden
  | request request calls =>
      have hobserves : request.Observes := not_not.mp hhidden
      have hhandled := handle_observation hobserves host now s calls
      refine ⟨h.orderly.step host _, h.orderly', ?_⟩
      intro x
      have hprogress : (s.step host ⟨now, .request request calls⟩).shared.progress x =
          if request.Polls x then (s.shared.progress x).poll now else s.shared.progress x :=
        hhandled.2 x
      have hworkers : (s.step host ⟨now, .request request calls⟩).workers x = s.workers x :=
        congrFun hhandled.1 x
      rw [hprogress, hworkers]
      by_cases hpolls : request.Polls x
      · rw [if_pos hpolls]
        exact (h.matched x).poll_left now
      · rw [if_neg hpolls]
        exact (h.matched x).mono (le_max_left t now)

/-- A return of a call of a worker in both runs. -/
theorem worker (h : Indistinct t s s') (ht : t ≤ now) {input : WorkerInput}
    (hintime : InTime host s ⟨now, .worker x input⟩)
    (hintime' : InTime host s' ⟨now, .worker x input⟩) :
    Indistinct now (s.step host ⟨now, .worker x input⟩)
      (s'.step host ⟨now, .worker x input⟩) := by
  rcases step_worker h.orderly host now x input with
    ⟨hprogress, hothers, hself⟩
  rcases step_worker h.orderly' host now x input with
    ⟨hprogress', hothers', hself'⟩
  refine ⟨h.orderly.step host _, h.orderly'.step host _, ?_⟩
  intro y
  rw [hprogress, hprogress']
  by_cases hy : y = x
  · subst hy
    rw [if_pos rfl, if_pos rfl]
    rcases h.matched y with ⟨hlapsed, hlapsed'⟩ | ⟨hsame, hworker⟩
    · left
      exact ⟨hear_lapsed (hlapsed.mono ht) hintime, hear_lapsed (hlapsed'.mono ht) hintime'⟩
    · right
      by_cases hactive : (s.shared.progress y).state = .active
      · have hactive' : (s'.shared.progress y).state = .active := by rwa [← hsame]
        have halike := hworker hactive
        rw [hself hactive, hself' hactive', ← hsame]
        cases hnext : s.workers y with
        | none =>
            cases hnext' : s'.workers y with
            | none => exact ⟨rfl, fun _ => rfl⟩
            | some next' =>
                rw [hnext, hnext'] at halike
                contradiction
        | some next =>
            cases hnext' : s'.workers y with
            | none =>
                rw [hnext, hnext'] at halike
                contradiction
            | some next' =>
                rw [hnext, hnext', Option.map_some, Option.map_some, Option.some.injEq] at halike
                have hadvanced :
                    (next.advance host (c.id y.feature) input).anonymous =
                      (next'.advance host (c.id y.feature) input).anonymous := by
                  rw [WorkerStep.advance_anonymous, WorkerStep.advance_anonymous, halike]
                refine ⟨?_, ?_⟩
                · simp only [Progress.hear]
                  rw [← Progress.judge_anonymous, ← Progress.judge_anonymous _ (next'.advance _ _ _)]
                  exact congrArg _ hadvanced
                · intro _
                  rw [Option.bind_some, Option.bind_some, waiting_anonymous, waiting_anonymous,
                    hadvanced]
      · have hidle : ∀ worker : Option WorkerStep, (s.shared.progress y).hear host
            (c.definition y.feature) input worker = s.shared.progress y := by
          intro worker
          cases worker with
          | none => rfl
          | some next => exact Progress.judge_of_not_active hactive _ _
        rw [← hsame, hidle, hidle]
        exact ⟨rfl, fun h => absurd h hactive⟩
  · rw [if_neg hy, if_neg hy, hothers y hy, hothers' y hy]
    exact (h.matched y).mono ht

/-- A report in both runs. -/
theorem report (h : Indistinct t s s') (ht : t ≤ now) {request : Request c}
    (horderly : Orderly (s.handle host now request calls).1)
    (horderly' : Orderly (s'.handle host now request calls).1) {f : Progress → Progress}
    (htimedOut : ∀ v : Progress, v.state = .timedOut → f v = v)
    (hactive : ∀ v : Progress, (f v).state = .active → v.state = .active)
    (hhandled : ∀ s : Sequential c, (s.handle host now request calls).1.workers = s.workers ∧
      ∀ y, (s.handle host now request calls).1.shared.progress y =
        if y = x then f ((s.shared.progress x).poll now) else s.shared.progress y) :
    Indistinct now (s.handle host now request calls).1 (s'.handle host now request calls).1 := by
  refine ⟨horderly, horderly', ?_⟩
  intro y
  rw [(hhandled s).1, (hhandled s').1, (hhandled s).2, (hhandled s').2]
  by_cases hy : y = x
  · subst hy
    rw [if_pos rfl, if_pos rfl]
    exact (h.matched y).request ht htimedOut hactive
  · rw [if_neg hy, if_neg hy]
    exact (h.matched y).mono ht

/-- A start that is made in time is admitted in one run only if it is in the other. -/
theorem admitted (h : Indistinct t s s') (ht : t ≤ now)
    (hintime' : InTime host s' ⟨now, .request (.feature x .start) calls⟩)
    (hadmitted : Admitted host ((s.shared.openDescriptor .other).maybeTimeout now x) x calls) :
    Admitted host ((s'.shared.openDescriptor .other).maybeTimeout now x) x calls := by
  rcases (admitted_iff h.orderly.tidy calls).mp hadmitted with ⟨hpending, hnone, hrest⟩
  have hsame : ∀ y, ¬(s.shared.progress y).Lapsed t ∨ ¬(s'.shared.progress y).Lapsed t →
      s'.shared.progress y = s.shared.progress y := by
    intro y hlive
    rcases h.matched y with ⟨hlapsed, hlapsed'⟩ | ⟨hsame, -⟩
    · rcases hlive with hlive | hlive
      · exact absurd hlapsed hlive
      · exact absurd hlapsed' hlive
    · exact hsame.symm
  have hstate : (s.shared.progress x).state = .pending := hpending
  have hpending' : (s'.shared.progress x).state = .pending := by
    rw [hsame x (Or.inl ?_), hstate]
    rintro (htimedOut | ⟨hactive, -⟩)
    · rw [hstate] at htimedOut
      contradiction
    · rw [hstate] at hactive
      contradiction
  refine (admitted_iff h.orderly'.tidy calls).mpr ⟨hpending', ?_, hrest⟩
  intro r hactive
  by_cases hr : r = x.feature
  · subst hr
    have hstate' := hactive.symm.trans hpending'
    contradiction
  · have hearly := hintime' r hr hactive
    have hlive : ¬(s'.shared.progress ⟨x.session, r⟩).Lapsed t := by
      rintro (htimedOut | ⟨-, hlate⟩)
      · have hstate' := hactive.symm.trans htimedOut
        contradiction
      · exact absurd hearly (not_lt.mpr (hlate.trans ht))
    have hequal := congrArg Progress.state (hsame ⟨x.session, r⟩ (Or.inr hlive))
    exact hnone r (hequal.symm.trans hactive)

/-- Two starts on sockets of the same addresses start the same worker, but for the numbers
of its descriptors. -/
theorem startWorkers_anonymous {σ σ' : Shared c} {calls : List SocketCalls}
    {sockets sockets' : List ListeningSocket}
    (hopened : (createSockets host σ x (c.definition x.feature).targetCount calls []).2 =
      .ok sockets)
    (hopened' : (createSockets host σ' x (c.definition x.feature).targetCount calls []).2 =
      .ok sockets') :
    ((c.definition x.feature).worker sockets).map Worker.anonymous =
      ((c.definition x.feature).worker sockets').map Worker.anonymous := by
  have hsockets : sockets.map ListeningSocket.anonymous =
      sockets'.map ListeningSocket.anonymous := by
    have hsame := createSockets_anonymous host σ σ' x (c.definition x.feature).targetCount calls
      (rfl : List.map ListeningSocket.anonymous [] = List.map ListeningSocket.anonymous [])
    rw [hopened, hopened'] at hsame
    simpa [Except.map] using hsame
  rw [FeatureDefinition.worker_anonymous, FeatureDefinition.worker_anonymous, hsockets]

/-- Such a worker makes no difference to the beginning of a feature. -/
theorem begin_anonymous (v : Progress) (feature : FeatureDefinition) (now : TimePoint)
    {worker worker' : Option Worker}
    (h : worker.map Worker.anonymous = worker'.map Worker.anonymous) :
    v.begin feature now worker = v.begin feature now worker' ∧
      (worker.bind fun worker => worker.start.waiting).map WorkerStep.anonymous =
        (worker'.bind fun worker => worker.start.waiting).map WorkerStep.anonymous := by
  cases worker with
  | none =>
      cases worker' with
      | none => exact ⟨rfl, rfl⟩
      | some worker' => contradiction
  | some worker =>
      cases worker' with
      | none => contradiction
      | some worker' =>
          rw [Option.map_some, Option.map_some, Option.some.injEq] at h
          have hstart : worker.start.anonymous = worker'.start.anonymous := by
            rw [Worker.start_anonymous, Worker.start_anonymous, h]
          constructor
          · simp only [Progress.begin]
            rw [← Progress.judge_anonymous, ← Progress.judge_anonymous _ worker'.start, hstart]
          · rw [Option.bind_some, Option.bind_some, waiting_anonymous, waiting_anonymous, hstart]

/-- A start in both runs. -/
theorem start (h : Indistinct t s s') (ht : t ≤ now)
    (hintime : InTime host s ⟨now, .request (.feature x .start) calls⟩)
    (hintime' : InTime host s' ⟨now, .request (.feature x .start) calls⟩) :
    Indistinct now (s.handle host now (.feature x .start) calls).1
      (s'.handle host now (.feature x .start) calls).1 := by
  refine ⟨h.orderly.handle host now _ calls, h.orderly'.handle host now _ calls, ?_⟩
  by_cases hadmitted : Admitted host ((s.shared.openDescriptor .other).maybeTimeout now x) x calls
  · have hadmitted' := h.admitted ht hintime' hadmitted
    rcases handle_start_admitted h.orderly hadmitted with
      ⟨sockets, hopened, hprogress, hothers, hself⟩
    rcases handle_start_admitted h.orderly' hadmitted' with
      ⟨sockets', hopened', hprogress', hothers', hself'⟩
    have hpending : (s.shared.progress x).state = .pending :=
      ((admitted_iff h.orderly.tidy calls).mp hadmitted).1
    have hsame := (h.matched x).eq_of_pending hpending
    have hbegin := begin_anonymous (s.shared.progress x) (c.definition x.feature) now
      (startWorkers_anonymous hopened hopened')
    intro y
    rw [hprogress, hprogress']
    by_cases hy : y = x
    · subst hy
      rw [if_pos rfl, if_pos rfl, hself, hself', ← hsame]
      exact Or.inr ⟨hbegin.1, fun _ => hbegin.2⟩
    · rw [if_neg hy, if_neg hy, hothers y hy, hothers' y hy]
      exact (h.matched y).mono ht
  · have hadmitted' : ¬Admitted host ((s'.shared.openDescriptor .other).maybeTimeout now x) x
        calls := by
      intro hadmitted'
      exact hadmitted (h.symm.admitted ht hintime hadmitted')
    rcases handle_start_not_admitted hadmitted with ⟨hworkers, hprogress⟩
    rcases handle_start_not_admitted hadmitted' with ⟨hworkers', hprogress'⟩
    intro y
    rw [hworkers, hworkers', hprogress, hprogress']
    by_cases hy : y = x
    · subst hy
      rw [if_pos rfl, if_pos rfl]
      have hpolled := ((h.matched y).poll_left now).symm.poll_left now
      rw [max_eq_right ht, max_self] at hpolled
      exact hpolled.symm
    · rw [if_neg hy, if_neg hy]
      exact (h.matched y).mono ht

/-- A complete report in both runs. -/
theorem complete (h : Indistinct t s s') (ht : t ≤ now) (body : CppString) :
    Indistinct now (s.handle host now (.feature x (.complete body)) calls).1
      (s'.handle host now (.feature x (.complete body)) calls).1 := by
  refine h.report (x := x) ht (h.orderly.handle host now _ calls)
    (h.orderly'.handle host now _ calls)
    (f := fun v => v.reported (c.definition x.feature) body) ?_ ?_ ?_
  · intro v htimedOut
    unfold Progress.reported
    cases parseCompleteReport body with
    | error error => rfl
    | ok report => simp [Progress.complete, htimedOut]
  · intro v hactive
    unfold Progress.reported at hactive
    cases hreport : parseCompleteReport body with
    | error error => simpa [hreport] using hactive
    | ok report =>
        simp only [hreport, Progress.complete] at hactive
        split at hactive
        · rename_i haccepted
          exact haccepted.1
        · exact hactive
  · intro s
    refine ⟨(handle_complete host now s x body calls).1, ?_⟩
    intro y
    rw [(handle_complete host now s x body calls).2, Progress.completeRequest_eq]

/-- An unsupported report in both runs. -/
theorem unsupported (h : Indistinct t s s') (ht : t ≤ now) (body : CppString) :
    Indistinct now (s.handle host now (.feature x (.unsupported body)) calls).1
      (s'.handle host now (.feature x (.unsupported body)) calls).1 := by
  refine h.report (x := x) ht (h.orderly.handle host now _ calls)
    (h.orderly'.handle host now _ calls) (f := fun v => v.withdrawn body) ?_ ?_ ?_
  · intro v htimedOut
    unfold Progress.withdrawn
    cases parseUnsupportedReport body with
    | error error => rfl
    | ok report => simp [Progress.unsupport, htimedOut]
  · intro v hactive
    unfold Progress.withdrawn at hactive
    cases hreport : parseUnsupportedReport body with
    | error error => simpa [hreport] using hactive
    | ok report =>
        simp only [hreport, Progress.unsupport] at hactive
        split at hactive
        · contradiction
        · exact hactive
  · intro s
    refine ⟨(handle_unsupported host now s x body calls).1, ?_⟩
    intro y
    rw [(handle_unsupported host now s x body calls).2, Progress.unsupportedRequest_eq]

/-- A visible event in both runs. -/
theorem both (h : Indistinct t s s') {timed : Timed c} (hshown : timed.Visible)
    (ht : t ≤ timed.now) (hintime : InTime host s timed) (hintime' : InTime host s' timed) :
    Indistinct timed.now (s.step host timed) (s'.step host timed) := by
  rcases timed with ⟨now, event⟩
  cases event with
  | worker x input => exact h.worker ht hintime hintime'
  | request request calls =>
      cases request with
      | feature x request =>
          cases request with
          | start => exact h.start ht hintime hintime'
          | complete body => exact h.complete ht body
          | unsupported body => exact h.unsupported ht body
          | get => exact absurd trivial hshown
          | unknown => exact absurd trivial hshown
      | session n => exact absurd trivial hshown
      | summary n => exact absurd trivial hshown
      | summaryStream n => exact absurd trivial hshown
      | other response => exact absurd trivial hshown

end Indistinct

/-! ## Verdicts -/

/-- Two servers that cannot be told apart stay so, step by step. -/
theorem indistinct_rule (host : Host) :
    TwoRunRule (Sequential.step host) (Timed.Visible (c := c)) Timed.now (InTime host)
      Indistinct where
  left _ _ _ _ hhidden _ h := h.left hhidden
  right _ _ _ _ hhidden _ h := (h.symm.left hhidden).symm
  both _ _ _ _ hshown ht hintime hintime' h := h.both hshown ht hintime hintime'

/-- A feature that has a verdict in both states has the same in both. -/
def SameVerdicts (s s' : Sequential c) : Prop :=
  ∀ x, (s.shared.execution x).state.Terminal → (s'.shared.execution x).state.Terminal →
    (s.shared.execution x).state = (s'.shared.execution x).state

/-- Two runs that differ in observations give the same verdicts, if all events
of both are in time. -/
theorem sameVerdicts (hinitial : s.Initial) {events events' : List (Timed c)}
    (hsorted : events.Pairwise fun e f => e.now ≤ f.now)
    (hsorted' : events'.Pairwise fun e f => e.now ≤ f.now)
    (hsame : events.filter (fun e => e.Visible) = events'.filter fun e => e.Visible)
    (hintime : Along (Sequential.step host) (InTime host) s events)
    (hintime' : Along (Sequential.step host) (InTime host) s events') :
    SameVerdicts (s.run host events) (s.run host events') := by
  have hstart : ∀ t, Indistinct t s s := by
    intro t
    refine ⟨orderly_of_initial hinitial, orderly_of_initial hinitial, ?_⟩
    intro x
    exact Or.inr ⟨rfl, fun _ => rfl⟩
  rcases (indistinct_rule host).related (agree_of_filter_eq hsame) hsorted hsorted' hintime
    hintime' hstart with ⟨t, hend⟩
  intro x hterminal hterminal'
  rcases hend.matched x with ⟨hlapsed, hlapsed'⟩ | ⟨hprogress, -⟩
  · have htimedOut : ((s.run host events).shared.execution x).state = .timedOut :=
      hlapsed.resolve_right fun hactive => hterminal.2 hactive.1
    have htimedOut' : ((s.run host events').shared.execution x).state = .timedOut :=
      hlapsed'.resolve_right fun hactive => hterminal'.2 hactive.1
    rw [htimedOut, htimedOut']
  · exact congrArg Progress.state hprogress

/-- multi_message_boundary is started, its two messages come at the given times,
and polls are made between them and after them. -/
def twoMessages (first second : TimePoint) (between after : List (Timed sampleCatalog)) :
    List (Timed sampleCatalog) :=
  [⟨0, .request (.feature multiMessage .start) []⟩,
    ⟨first, .worker multiMessage (.received (.data (str "alpha") 1 100 7 true []))⟩] ++ between ++
  [⟨second, .worker multiMessage (.received (.data (str "beta") 1 101 7 true []))⟩] ++ after

theorem sameVerdicts_deliveredInTime :
    SameVerdicts
      (sampleServer.run sampleHost (twoMessages (seconds 5) (seconds 10)
        [⟨seconds 7, .request (.feature multiMessage .get) []⟩] []))
      (sampleServer.run sampleHost (twoMessages (seconds 5) (seconds 10)
        [] [⟨seconds 40, .request (.summary 0) []⟩])) :=
  sameVerdicts sampleServer_initial (by decide) (by decide) rfl (by decide) (by decide)

/-- The second message comes at 25 s, past the deadline of the feature but within
the receive timeout of its worker; one of the runs has polled at 21 s. -/
theorem sameVerdicts_deliveredLate :
    ¬∀ (c : Catalog) (host : Host) (s : Sequential c) (events events' : List (Timed c)),
      s.Initial → (events.Pairwise fun e f => e.now ≤ f.now) →
      (events'.Pairwise fun e f => e.now ≤ f.now) →
      (events.filter (fun e => e.Visible) = events'.filter fun e => e.Visible) →
      SameVerdicts (s.run host events) (s.run host events') := by
  intro hclaim
  have hsame := hclaim sampleCatalog sampleHost sampleServer
    (twoMessages (seconds 15) (seconds 25)
      [⟨seconds 21, .request (.feature multiMessage .get) []⟩] [])
    (twoMessages (seconds 15) (seconds 25) [] [])
    sampleServer_initial (by decide) (by decide) rfl multiMessage
  have htimedOut : ((sampleServer.run sampleHost (twoMessages (seconds 15) (seconds 25)
      [⟨seconds 21, .request (.feature multiMessage .get) []⟩] [])).shared.execution
        multiMessage).state = .timedOut := by decide
  have hpassed : ((sampleServer.run sampleHost (twoMessages (seconds 15) (seconds 25)
      [] [])).shared.execution multiMessage).state = .passed := by decide
  rw [htimedOut, hpassed] at hsame
  exact absurd (hsame (by decide) (by decide)) (by decide)

end SctpConformance
