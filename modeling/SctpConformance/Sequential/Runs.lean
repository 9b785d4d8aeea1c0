import SctpConformance.Sequential.Handlers

/-!
# The invariant over timed events

A worker of an active feature makes its calls on descriptors that the feature
lists, so none of its calls finds a closed descriptor.  This holds after every
list of events, and it makes the step of a worker a function of the progress of
its feature.

Main results:

- Definition `Orderly`: the invariant.
- Theorem `Sequential.run_orderly`: it holds after every list of events.
- Theorem `progress_advance`: what the step of a worker does to the features.
-/

namespace SctpConformance

open Library

variable {c : Catalog} {host : Host} {σ τ : Shared c} {s : Sequential c} {x : Target c}
  {now : TimePoint} {next : WorkerStep}

/-- What a worker does next if its feature is active: a call on a descriptor
that the feature lists, or its verdict. -/
def Employed (σ : Shared c) (x : Target c) (next : WorkerStep) : Prop :=
  (σ.execution x).state = .active → next.Sound ∧ next.fds ⊆ (σ.execution x).activeFds

/-- The state is tidy, and a worker belongs to a feature that has been started. -/
structure Orderly (s : Sequential c) : Prop where
  tidy : Tidy s.shared
  started : ∀ x next, s.workers x = some next → (s.shared.execution x).state ≠ .pending
  employed : ∀ x next, s.workers x = some next → Employed s.shared x next

/-- A server without requests is tidy. -/
theorem tidy_of_initial (h : s.Initial) : Tidy s.shared where
  ids session := Or.inl (h.fresh session).1
  named y := by
    have hid : s.shared.activeId y.session = [] := (h.fresh y.session).1
    have hrecord : s.shared.execution y = {} := (h.fresh y.session).2 y.feature
    simp [hid, hrecord, (Catalog.id_ne_nil y.feature).symm]
  listed y fd hfd := by
    have hrecord : s.shared.execution y = {} := (h.fresh y.session).2 y.feature
    rw [hrecord] at hfd
    exact absurd hfd List.not_mem_nil
  pristine y _ := (h.fresh y.session).2 y.feature

/-- It has no workers. -/
theorem orderly_of_initial (h : s.Initial) : Orderly s where
  tidy := tidy_of_initial h
  started x next hnext := by
    rw [h.idle x] at hnext
    contradiction
  employed x next hnext := by
    rw [h.idle x] at hnext
    contradiction

/-! ## Workers -/

/-- The call of a worker that its feature employs finds its descriptor open. -/
theorem Employed.closedCall (h : Tidy σ) (hemployed : Employed σ x next)
    (hactive : (σ.execution x).state = .active) (featureId : CppString) :
    next.closedCall host featureId σ = next := by
  rcases hemployed hactive with ⟨hsound, hfds⟩
  cases next with
  | receive state =>
      rcases h.listed x state.fd (hfds (WorkerState.fd_mem_fds hsound)) with ⟨serial, hserial⟩
      simp [WorkerStep.closedCall, hserial]
  | send state =>
      rcases h.listed x state.fd (hfds (WorkerState.fd_mem_fds hsound)) with ⟨serial, hserial⟩
      simp [WorkerStep.closedCall, hserial]
  | markFailed message => rfl
  | markNetworkComplete => rfl

/-- A worker that goes on keeps its sockets. -/
theorem Employed.advance (h : Employed σ x next) (host : Host) (featureId : CppString)
    (input : WorkerInput) : Employed σ x (next.advance host featureId input) := by
  intro hactive
  rcases h hactive with ⟨hsound, hfds⟩
  rcases WorkerStep.play_fds host featureId [input] hsound with ⟨hfds', hsound'⟩
  exact ⟨hsound', fun fd hfd => hfds (hfds' hfd)⟩

/-- What remains of a worker once it has given its verdict. -/
def WorkerStep.waiting : WorkerStep → Option WorkerStep
  | .markFailed _ => none
  | .markNetworkComplete => none
  | next => some next

/-- The verdict that a worker is about to give, on the progress of its feature. -/
def Progress.judge (v : Progress) (feature : FeatureDefinition) : WorkerStep → Progress
  | .markFailed _ => v.fail
  | .markNetworkComplete => v.observe feature
  | _ => v

/-- A decision comes too late for a feature that has ended. -/
theorem Progress.judge_of_not_active {v : Progress} (h : v.state ≠ .active)
    (feature : FeatureDefinition) (next : WorkerStep) : v.judge feature next = v := by
  cases next <;> simp [judge, fail, observe, h]

/-- Only this worker goes on. -/
theorem workers_advance (s : Sequential c) (now : TimePoint) (x : Target c) (next : WorkerStep) :
    (s.advance host now x next).workers = Function.update s.workers x
      (next.closedCall host (c.id x.feature) s.shared).waiting := by
  unfold Sequential.advance
  cases next.closedCall host (c.id x.feature) s.shared <;> rfl

/-- The step of a worker gives its verdict, if it has one, and moves no other
feature. -/
theorem progress_advance (h : Tidy s.shared) (hemployed : Employed s.shared x next)
    (y : Target c) :
    (s.advance host now x next).shared.progress y =
      if y = x then (s.shared.progress x).judge (c.definition x.feature) next
      else s.shared.progress y := by
  have hcalled : (s.advance host now x next).shared.progress y =
      if y = x then (s.shared.progress x).judge (c.definition x.feature)
        (next.closedCall host (c.id x.feature) s.shared)
      else s.shared.progress y := by
    unfold Sequential.advance
    cases next.closedCall host (c.id x.feature) s.shared with
    | markFailed message => exact progress_markFailed s.shared now x y message
    | markNetworkComplete => exact progress_markNetworkComplete s.shared now x y
    | receive state => by_cases hy : y = x <;> simp [hy, Progress.judge]
    | send state => by_cases hy : y = x <;> simp [hy, Progress.judge]
  by_cases hactive : (s.shared.execution x).state = .active
  · rw [hcalled, hemployed.closedCall h hactive]
  · have hidle : (s.shared.progress x).state ≠ .active := hactive
    rw [hcalled, Progress.judge_of_not_active hidle, Progress.judge_of_not_active hidle]

/-- The other executions stay. -/
theorem execution_markNetworkComplete_of_ne {y : Target c} (hy : y ≠ x) :
    (σ.markNetworkComplete now x).execution y = σ.execution y := by
  unfold Shared.markNetworkComplete
  split
  · rfl
  · rename_i e finished he
    cases finished <;> simp [hy]

/-- A worker whose call is closed is employed as it was. -/
theorem Employed.of_closedCall (h : Tidy σ) (hemployed : Employed σ x next) (host : Host)
    (featureId : CppString) : Employed σ x (next.closedCall host featureId σ) := by
  intro hactive
  rw [hemployed.closedCall h hactive]
  exact hemployed hactive

namespace Orderly

/-- A worker waits for its next call. -/
theorem wait (h : Orderly s) (hstarted : (s.shared.execution x).state ≠ .pending)
    (hemployed : Employed s.shared x next) :
    Orderly { s with workers := Function.update s.workers x (some next) } := by
  refine ⟨h.tidy, ?_, ?_⟩
  · intro y waiting hwaiting
    dsimp only at hwaiting ⊢
    by_cases hy : y = x
    · rwa [hy]
    · rw [Function.update_of_ne hy] at hwaiting
      exact h.started y waiting hwaiting
  · intro y waiting hwaiting
    dsimp only at hwaiting ⊢
    by_cases hy : y = x
    · subst hy
      rw [Function.update_self] at hwaiting
      cases hwaiting
      exact hemployed
    · rw [Function.update_of_ne hy] at hwaiting
      exact h.employed y waiting hwaiting

/-- A worker ends, and the shared state moves on without it. -/
theorem retire (h : Orderly s) (htidy : Tidy τ)
    (hothers : ∀ y, y ≠ x → (s.shared.execution y).state ≠ .pending →
      (τ.execution y).state ≠ .pending ∧ ((τ.execution y).state = .active →
        (s.shared.execution y).state = .active ∧
          (τ.execution y).activeFds = (s.shared.execution y).activeFds)) :
    Orderly { shared := τ, workers := Function.update s.workers x none } := by
  have hworker : ∀ y waiting, Function.update s.workers x none y = some waiting →
      y ≠ x ∧ s.workers y = some waiting := by
    intro y waiting hwaiting
    by_cases hy : y = x
    · subst hy
      simp at hwaiting
    · rw [Function.update_of_ne hy] at hwaiting
      exact ⟨hy, hwaiting⟩
  refine ⟨htidy, ?_, ?_⟩
  · intro y waiting hwaiting
    rcases hworker y waiting hwaiting with ⟨hy, hold⟩
    exact (hothers y hy (h.started y waiting hold)).1
  · intro y waiting hwaiting hactive
    rcases hworker y waiting hwaiting with ⟨hy, hold⟩
    rcases (hothers y hy (h.started y waiting hold)).2 hactive with ⟨hactive', hfds⟩
    rw [hfds]
    exact h.employed y waiting hold hactive'

/-- The step of a worker keeps the invariant. -/
theorem advance (h : Orderly s) (hstarted : (s.shared.execution x).state ≠ .pending)
    (hemployed : Employed s.shared x next) (host : Host) (now : TimePoint) :
    Orderly (s.advance host now x next) := by
  have hclosed := hemployed.of_closedCall h.tidy host (c.id x.feature)
  unfold Sequential.advance
  cases hcall : next.closedCall host (c.id x.feature) s.shared with
  | markFailed message =>
      have hkept := h.tidy.markFailed now x message
      refine h.retire hkept.tidy ?_
      intro y hy hold
      refine ⟨fun hpending => hold (hkept.pending y hpending), ?_⟩
      intro hactive
      exact (hkept.active y hactive).resolve_left hold
  | markNetworkComplete =>
      refine h.retire (h.tidy.markNetworkComplete now x) ?_
      intro y hy hold
      rw [execution_markNetworkComplete_of_ne hy]
      exact ⟨hold, fun hactive => ⟨hactive, rfl⟩⟩
  | receive state =>
      rw [hcall] at hclosed
      exact h.wait hstarted hclosed
  | send state =>
      rw [hcall] at hclosed
      exact h.wait hstarted hclosed

/-! ## Requests -/

/-- The shared state that a request leaves, before a worker that it has launched
makes its first call. -/
theorem handled (h : Orderly s) (host : Host) (now : TimePoint) (request : Request c)
    (calls : List SocketCalls) :
    Kept s.shared ((handleRequest host now (s.shared.openDescriptor .other) request
      calls).shared.closeDescriptor s.shared.descriptors.lowestFree) := by
  have haccepted : Kept s.shared (s.shared.openDescriptor .other) := by
    refine h.tidy.extend rfl ?_
    intro n d hd
    rw [Shared.openDescriptor, Slots.lookup_acquire, if_neg (Slots.ne_lowestFree hd), hd]
  have hhandled := haccepted.tidy.handleRequest host now request calls
  have hclient : (handleRequest host now (s.shared.openDescriptor .other) request
      calls).shared.descriptors.lookup s.shared.descriptors.lowestFree = some .other := by
    apply hhandled.others
    rw [Shared.openDescriptor, Slots.lookup_acquire, if_pos rfl]
  have hkept := haccepted.trans hhandled
  refine ⟨⟨hkept.tidy.ids, hkept.tidy.named, ?_, hkept.tidy.pristine⟩, ?_, hkept.pending,
    hkept.active⟩
  · intro y fd hfd
    rcases hkept.tidy.listed y fd hfd with ⟨serial, hserial⟩
    refine ⟨serial, ?_⟩
    have hne : fd ≠ s.shared.descriptors.lowestFree := by
      rintro rfl
      rw [hclient] at hserial
      cases hserial
    rw [Shared.closeDescriptor, Slots.lookup_release, if_neg hne, hserial]
  · intro n hn
    rw [Shared.closeDescriptor, Slots.lookup_release, if_neg (Slots.ne_lowestFree hn)]
    exact hkept.others n hn

/-- A request keeps the invariant. -/
theorem handle (h : Orderly s) (host : Host) (now : TimePoint) (request : Request c)
    (calls : List SocketCalls) : Orderly (s.handle host now request calls).1 := by
  have hkept := h.handled host now request calls
  have horderly : Orderly { s with
      shared := (handleRequest host now (s.shared.openDescriptor .other) request
        calls).shared.closeDescriptor s.shared.descriptors.lowestFree } := by
    refine ⟨hkept.tidy, ?_, ?_⟩
    · intro y waiting hwaiting hpending
      exact h.started y waiting hwaiting (hkept.pending y hpending)
    · intro y waiting hwaiting hactive
      rcases hkept.active y hactive with hpending | ⟨hactive', hfds⟩
      · exact absurd hpending (h.started y waiting hwaiting)
      · rw [hfds]
        exact h.employed y waiting hwaiting hactive'
  unfold Sequential.handle
  dsimp only
  cases hlaunched : (handleRequest host now (s.shared.openDescriptor .other) request
      calls).launched with
  | none => exact horderly
  | some launched =>
      rcases launched with ⟨x, next⟩
      rcases handleRequest_launched hlaunched with ⟨-, hactive, hsound, hfds⟩
      refine horderly.advance ?_ ?_ host now
      · intro hpending
        have hstate := hactive.symm.trans hpending
        contradiction
      · intro _
        exact ⟨hsound, hfds⟩

/-- Every event keeps the state orderly. -/
theorem step (h : Orderly s) (host : Host) (timed : Timed c) :
    Orderly (s.step host timed) := by
  unfold Sequential.step
  cases timed.event with
  | request request calls => exact h.handle host timed.now request calls
  | worker x input =>
      cases hnext : s.workers x with
      | none => simpa [hnext] using h
      | some next =>
          simp only [hnext]
          exact h.advance (h.started x next hnext)
            ((h.employed x next hnext).advance host (c.id x.feature) input) host timed.now

end Orderly

/-! ## What an event does to the features -/

/-- A request that launches no worker. -/
theorem handle_of_not_launched {request : Request c} {calls : List SocketCalls}
    (h : (handleRequest host now (s.shared.openDescriptor .other) request calls).launched =
      none) :
    (s.handle host now request calls).1.workers = s.workers ∧
      ∀ y, (s.handle host now request calls).1.shared.progress y =
        (handleRequest host now (s.shared.openDescriptor .other) request
          calls).shared.progress y := by
  unfold Sequential.handle
  dsimp only
  rw [h]
  exact ⟨rfl, fun y => progress_closeDescriptor _ y _⟩

/-- A request that only looks leaves the workers alone. -/
theorem handle_observation {request : Request c} (h : request.Observes) (host : Host)
    (now : TimePoint) (s : Sequential c) (calls : List SocketCalls) :
    (s.handle host now request calls).1.workers = s.workers ∧
      ∀ y, (s.handle host now request calls).1.shared.progress y =
        if request.Polls y then (s.shared.progress y).poll now else s.shared.progress y := by
  rcases handle_of_not_launched (launched_observation h host now
    (s.shared.openDescriptor .other) calls) with ⟨hworkers, hprogress⟩
  refine ⟨hworkers, ?_⟩
  intro y
  rw [hprogress, progress_observation h, progress_openDescriptor]

/-- A completion leaves the workers alone. -/
theorem handle_complete (host : Host) (now : TimePoint) (s : Sequential c) (x : Target c)
    (body : CppString) (calls : List SocketCalls) :
    (s.handle host now (.feature x (.complete body)) calls).1.workers = s.workers ∧
      ∀ y, (s.handle host now (.feature x (.complete body)) calls).1.shared.progress y =
        if y = x then (s.shared.progress x).completeRequest (c.definition x.feature) body now
        else s.shared.progress y := by
  have hlaunched : (handleRequest host now (s.shared.openDescriptor .other)
      (.feature x (.complete body)) calls).launched = none :=
    launched_completeFeature now ((s.shared.openDescriptor .other).maybeTimeout now x) x body
  rcases handle_of_not_launched hlaunched with ⟨hworkers, hprogress⟩
  refine ⟨hworkers, ?_⟩
  intro y
  rw [hprogress, handleRequest, progress_completeFeature, progress_maybeTimeout,
    progress_maybeTimeout, if_pos rfl, progress_openDescriptor, progress_openDescriptor]
  by_cases hy : y = x
  · simp [hy, Progress.completeRequest]
  · simp [hy]

/-- So does a withdrawal. -/
theorem handle_unsupported (host : Host) (now : TimePoint) (s : Sequential c) (x : Target c)
    (body : CppString) (calls : List SocketCalls) :
    (s.handle host now (.feature x (.unsupported body)) calls).1.workers = s.workers ∧
      ∀ y, (s.handle host now (.feature x (.unsupported body)) calls).1.shared.progress y =
        if y = x then (s.shared.progress x).unsupportedRequest body now
        else s.shared.progress y := by
  have hlaunched : (handleRequest host now (s.shared.openDescriptor .other)
      (.feature x (.unsupported body)) calls).launched = none :=
    launched_unsupportedFeature now ((s.shared.openDescriptor .other).maybeTimeout now x) x body
  rcases handle_of_not_launched hlaunched with ⟨hworkers, hprogress⟩
  refine ⟨hworkers, ?_⟩
  intro y
  rw [hprogress, handleRequest, progress_unsupportedFeature, progress_maybeTimeout,
    progress_maybeTimeout, if_pos rfl, progress_openDescriptor, progress_openDescriptor]
  by_cases hy : y = x
  · simp [hy, Progress.unsupportedRequest]
  · simp [hy]

/-! ## Starts -/

/-- The sockets of a start of `x` can be opened. -/
def Opens (host : Host) (x : Target c) (calls : List SocketCalls) : Prop :=
  ∀ σ : Shared c, ∃ sockets,
    (createSockets host σ x (c.definition x.feature).targetCount calls []).2 = .ok sockets

/-- Whether they can does not depend on the state. -/
theorem opens_iff (host : Host) (σ : Shared c) (x : Target c) (calls : List SocketCalls) :
    Opens host x calls ↔ ∃ sockets,
      (createSockets host σ x (c.definition x.feature).targetCount calls []).2 =
        .ok sockets := by
  constructor
  · intro hopens
    exact hopens σ
  · rintro ⟨sockets, hsockets⟩ τ
    have hsame := createSockets_anonymous host σ τ x (c.definition x.feature).targetCount calls
      (rfl : List.map ListeningSocket.anonymous [] = List.map ListeningSocket.anonymous [])
    rw [hsockets] at hsame
    cases hopened : (createSockets host τ x (c.definition x.feature).targetCount calls []).2 with
    | ok opened => exact ⟨opened, rfl⟩
    | error error =>
        rw [hopened] at hsame
        contradiction

/-- A start is admitted if its feature is pending, no feature of the session is
active, and its sockets can be opened. -/
theorem admitted_iff (h : Tidy s.shared) (calls : List SocketCalls) :
    Admitted host ((s.shared.openDescriptor .other).maybeTimeout now x) x calls ↔
      (s.shared.execution x).state = .pending ∧
      (∀ r, (s.shared.execution ⟨x.session, r⟩).state ≠ .active) ∧
      ¬((c.definition x.feature).scenarioKind ≠ .agentOnly ∧
        (c.definition x.feature).targetCount = 0) ∧ Opens host x calls := by
  have hpolled : (s.shared.execution x).state = .pending →
      (s.shared.openDescriptor .other).maybeTimeout now x = s.shared.openDescriptor .other := by
    intro hpending
    apply maybeTimeout_of_not_active
    simp [hpending]
  constructor
  · rintro ⟨hfree, hpending, hprovided, hopens⟩
    have hpending' : (s.shared.execution x).state = .pending := by
      rw [← state_progress, progress_maybeTimeout, if_pos rfl, Progress.poll] at hpending
      split at hpending
      · contradiction
      · exact hpending
    rw [hpolled hpending', Shared.activeId_openDescriptor] at hfree
    refine ⟨hpending', ?_, hprovided, (opens_iff host _ x calls).mpr hopens⟩
    intro r hactive
    have hnamed := (h.named ⟨x.session, r⟩).mpr hactive
    rw [hfree] at hnamed
    exact Catalog.id_ne_nil r hnamed.symm
  · rintro ⟨hpending, hnone, hprovided, hopens⟩
    rw [hpolled hpending]
    refine ⟨?_, hpending, hprovided, hopens _⟩
    rw [Shared.activeId_openDescriptor]
    exact h.activeId_eq_nil hnone

/-- A start that is not admitted launches no worker. -/
theorem handle_start_not_admitted {calls : List SocketCalls}
    (h : ¬Admitted host ((s.shared.openDescriptor .other).maybeTimeout now x) x calls) :
    (s.handle host now (.feature x .start) calls).1.workers = s.workers ∧
      ∀ y, (s.handle host now (.feature x .start) calls).1.shared.progress y =
        if y = x then (s.shared.progress x).poll now else s.shared.progress y := by
  rw [← maybeTimeout_maybeTimeout] at h
  have hlaunched : (handleRequest host now (s.shared.openDescriptor .other)
      (.feature x .start) calls).launched = none :=
    (startFeature_not_admitted host _ x now calls h).1
  rcases handle_of_not_launched hlaunched with ⟨hworkers, hprogress⟩
  refine ⟨hworkers, ?_⟩
  intro y
  rw [hprogress, handleRequest, progress_startFeature_not_admitted h, progress_maybeTimeout,
    progress_maybeTimeout, if_pos rfl, progress_openDescriptor, progress_openDescriptor]
  by_cases hy : y = x
  · simp [hy]
  · simp [hy]

/-- The progress of a feature that is started, and whose worker has taken its
first step. -/
def Progress.begin (v : Progress) (feature : FeatureDefinition) (now : TimePoint) :
    Option Worker → Progress
  | none => v.activate feature now
  | some worker => (v.activate feature now).judge feature worker.start

/-- A start that is admitted launches the worker of its feature. -/
theorem handle_start_admitted (h : Orderly s) {calls : List SocketCalls}
    (hadmitted : Admitted host ((s.shared.openDescriptor .other).maybeTimeout now x) x calls) :
    ∃ sockets, (createSockets host ((s.shared.openDescriptor .other).maybeTimeout now x) x
        (c.definition x.feature).targetCount calls []).2 = .ok sockets ∧
      (∀ y, (s.handle host now (.feature x .start) calls).1.shared.progress y =
        if y = x then (s.shared.progress x).begin (c.definition x.feature) now
          ((c.definition x.feature).worker sockets)
        else s.shared.progress y) ∧
      (∀ y, y ≠ x → (s.handle host now (.feature x .start) calls).1.workers y = s.workers y) ∧
      (s.handle host now (.feature x .start) calls).1.workers x =
        ((c.definition x.feature).worker sockets).bind fun worker => worker.start.waiting := by
  have hkept := h.handled host now (.feature x .start) calls
  have hpending := ((admitted_iff h.tidy calls).mp hadmitted).1
  have hpolled : (s.shared.openDescriptor .other).maybeTimeout now x =
      s.shared.openDescriptor .other := by
    apply maybeTimeout_of_not_active
    simp [hpending]
  have hidle : s.workers x = none := by
    cases hworker : s.workers x with
    | none => rfl
    | some next => exact absurd hpending (h.started x next hworker)
  rw [← maybeTimeout_maybeTimeout] at hadmitted
  rcases startFeature_admitted host _ x now calls hadmitted with ⟨τ, sockets, hcreated, hstart⟩
  rw [maybeTimeout_maybeTimeout] at hcreated
  have hprogress : ∀ y, ((handleRequest host now (s.shared.openDescriptor .other)
      (.feature x .start) calls).shared.closeDescriptor
        s.shared.descriptors.lowestFree).progress y =
      if y = x then (s.shared.progress x).activate (c.definition x.feature) now
      else s.shared.progress y := by
    intro y
    rw [progress_closeDescriptor, handleRequest, progress_startFeature_admitted hadmitted,
      hpolled, progress_openDescriptor, progress_openDescriptor]
  have hlaunched : (handleRequest host now (s.shared.openDescriptor .other)
      (.feature x .start) calls).launched =
      ((c.definition x.feature).worker sockets).map fun worker => (x, worker.start) := by
    rw [handleRequest, hstart]
  refine ⟨sockets, by rw [hcreated], ?_⟩
  unfold Sequential.handle
  dsimp only
  cases hworker : (c.definition x.feature).worker sockets with
  | none =>
      rw [hworker, Option.map_none] at hlaunched
      rw [hlaunched]
      refine ⟨?_, fun _ _ => rfl, hidle⟩
      intro y
      rw [hprogress]
      rfl
  | some worker =>
      rw [hworker, Option.map_some] at hlaunched
      rw [hlaunched]
      rcases handleRequest_launched hlaunched with ⟨-, hactive, hsound, hfds⟩
      have hemployed : Employed ((handleRequest host now (s.shared.openDescriptor .other)
          (.feature x .start) calls).shared.closeDescriptor
            s.shared.descriptors.lowestFree) x worker.start := fun _ => ⟨hsound, hfds⟩
      refine ⟨?_, ?_, ?_⟩
      · intro y
        rw [progress_advance hkept.tidy hemployed, hprogress, hprogress, if_pos rfl]
        by_cases hy : y = x
        · simp [hy, Progress.begin]
        · simp [hy]
      · intro y hy
        rw [workers_advance, Function.update_of_ne hy]
      · rw [workers_advance, Function.update_self, hemployed.closedCall hkept.tidy hactive]
        rfl

/-! ## Returning calls -/

/-- What the return of a call makes of the progress of a feature. -/
def Progress.hear (v : Progress) (host : Host) (feature : FeatureDefinition)
    (input : WorkerInput) : Option WorkerStep → Progress
  | none => v
  | some next => v.judge feature (next.advance host feature.id input)

/-- What a worker gets concerns its own feature. -/
theorem step_worker (h : Orderly s) (host : Host) (now : TimePoint) (x : Target c)
    (input : WorkerInput) :
    (∀ y, (s.step host ⟨now, .worker x input⟩).shared.progress y =
      if y = x then (s.shared.progress x).hear host (c.definition x.feature) input (s.workers x)
      else s.shared.progress y) ∧
    (∀ y, y ≠ x → (s.step host ⟨now, .worker x input⟩).workers y = s.workers y) ∧
    ((s.shared.execution x).state = .active →
      (s.step host ⟨now, .worker x input⟩).workers x =
        (s.workers x).bind fun next =>
          (next.advance host (c.id x.feature) input).waiting) := by
  cases hnext : s.workers x with
  | none =>
      have hstep : s.step host ⟨now, .worker x input⟩ = s := by
        simp [Sequential.step, hnext]
      rw [hstep]
      refine ⟨?_, fun _ _ => rfl, fun _ => hnext⟩
      intro y
      by_cases hy : y = x <;> simp [hy, Progress.hear]
  | some next =>
      have hstep : s.step host ⟨now, .worker x input⟩ =
          s.advance host now x (next.advance host (c.id x.feature) input) := by
        simp [Sequential.step, hnext]
      have hemployed := (h.employed x next hnext).advance host (c.id x.feature) input
      rw [hstep]
      refine ⟨?_, ?_, ?_⟩
      · intro y
        exact progress_advance h.tidy hemployed y
      · intro y hy
        rw [workers_advance, Function.update_of_ne hy]
      · intro hactive
        rw [workers_advance, Function.update_self, hemployed.closedCall h.tidy hactive]
        rfl

/-- The invariant holds after every list of events. -/
theorem Sequential.run_orderly (h : Orderly s) (host : Host) (events : List (Timed c)) :
    Orderly (s.run host events) := by
  induction events generalizing s with
  | nil => exact h
  | cons timed events ih => exact ih (h.step host timed)

end SctpConformance
