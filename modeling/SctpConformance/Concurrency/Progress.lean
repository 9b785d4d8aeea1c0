import SctpConformance.Concurrency.Activation
import Mathlib.Data.List.FinRange
import Mathlib.Algebra.GroupWithZero.Nat

/-!
# How long a handler runs

Every section of a handler goes on with sections that are closer to the response, whatever
the other threads do in between.  Only the worker of a feature and the loop of a summary
stream go round.

Main results:

- Definition `Request.stepBound`: how many sections the handler of a request runs.
- Theorem `exec_weight`: each section brings its thread closer to the end.
- Theorem `handler_ends`: no handler but that of a summary stream runs more sections, in any
  interleaving.
-/

namespace SctpConformance

open Library

variable {c : Catalog} {host : Host} {start last : ServerState c} {run : List (ServerTransition c)}

/-! ## The weight of a section -/

/-- The number of sockets of an execution. -/
def Target.sockets (x : Target c) : Nat :=
  (c.definition x.feature).targetCount

/-- What the summary of a session reads feature after feature. -/
def summaryWeight (session : Nat) (left : List c.Ref) : Nat :=
  (left.map fun r => (Target.mk session r : Target c).sockets + 5).sum

/-- How many sections a thread runs from a section on. -/
def Section.weight : Section c → Nat
  | .maybeTimeout x => x.sockets + 3
  | .takeActiveFds x => x.sockets + 1
  | .closeFd _ _ => 1
  | .clearActiveFeature _ => 1
  | .startGuard h => 3 * h.target.sockets + 11
  | .startPending h => 3 * h.target.sockets + 10
  | .openSocket h sockets => 2 * (h.target.sockets - sockets.length) + h.target.sockets + 9
  | .setupSocket h sockets _ => 2 * (h.target.sockets - sockets.length) + h.target.sockets + 8
  | .activate _ _ => 8
  | .setActiveFds _ _ => 7
  | .setActiveFeature _ _ => 6
  | .launchWorker _ _ => 5
  | .setContract _ _ => 4
  | .adjustMessage _ => 3
  | .complete h _ => h.target.sockets + 5
  | .unsupported h _ => h.target.sockets + 5
  | .readFeature _ => 2
  | .readSession _ _ => 2
  | .summary session _ _ left _ => summaryWeight session left + 2
  | .summaryEntry session _ _ _ left _ => summaryWeight session left + 3
  | .respond _ _ => 1
  | _ => 0

/-- How many sections a thread has still to run. -/
def weightOf (todo : List (Section c)) : Nat :=
  (todo.map Section.weight).sum

@[simp]
theorem weightOf_nil : weightOf ([] : List (Section c)) = 0 :=
  rfl

@[simp]
theorem weightOf_cons (s : Section c) (todo : List (Section c)) :
    weightOf (s :: todo) = s.weight + weightOf todo := by
  simp [weightOf]

/-- The sections of a program are those of its parts. -/
@[simp]
theorem weightOf_append (todo todo' : List (Section c)) :
    weightOf (todo ++ todo') = weightOf todo + weightOf todo' := by
  simp [weightOf]

/-- One section for each socket. -/
@[simp]
theorem weightOf_closeFd (x : Target c) (fds : List Nat) :
    weightOf (fds.map (.closeFd x)) = fds.length := by
  induction fds with
  | nil => rfl
  | cons fd fds ih =>
      rw [List.map_cons, weightOf_cons, ih, List.length_cons]
      exact Nat.add_comm 1 _

/-- The end of a feature closes all its sockets. -/
theorem weightOf_finish (x : Target c) : weightOf (finish x) = x.sockets + 2 := by
  simp [finish, Section.weight]

/-- A start that has gone wrong closes what it has opened and responds. -/
theorem weightOf_rollback (h : Handler c) (fds : List Nat) (error : CppString) :
    weightOf (rollback h fds error) = fds.length + 1 := by
  simp [rollback, Section.weight]

/-- The sections of handlers that come to an end. -/
def Section.Ending : Section c → Prop
  | .summary _ _ stream _ _ => stream = false
  | .summaryEntry _ _ stream _ _ _ => stream = false
  | .writeEvent _ _ _ => False
  | .hangUp _ => False
  | .receive _ _ => False
  | .receiving _ _ => False
  | .send _ _ => False
  | .markFailed _ _ => False
  | .markNetworkComplete _ => False
  | _ => True

/-- A start opens no more sockets than its scenario has. -/
def Section.Fits : Section c → Prop
  | .openSocket h sockets => sockets.length < h.target.sockets
  | .setupSocket h sockets _ => sockets.length < h.target.sockets
  | .activate h sockets => sockets.length ≤ h.target.sockets
  | .setActiveFds h sockets => sockets.length ≤ h.target.sockets
  | _ => True

/-- No execution lists more sockets than its scenario has. -/
def Shared.Fits (σ : Shared c) : Prop :=
  ∀ x, (σ.execution x).activeFds.length ≤ x.sockets

/-! ## One section -/

/-- Each section brings its thread closer to the end. -/
theorem exec_weight {σ : Shared c} (hσ : σ.Fits) {s : Section c} (hfits : s.Fits)
    (hending : s.Ending) (input : Input) :
    weightOf (exec host σ s input).next + 1 ≤ s.weight := by
  cases s with
  | maybeTimeout x =>
      simp only [exec]
      split
      · simp [Section.weight]
      · simp [weightOf_finish, Section.weight]
  | takeActiveFds x => simpa [exec, Section.weight] using hσ x
  | closeFd x fd => simp [exec, Section.weight]
  | clearActiveFeature x => simp [exec, Section.weight]
  | startGuard h =>
      simp only [exec]
      split <;> simp [Section.weight]
  | startPending h =>
      simp only [exec]
      (repeat' split) <;> simp only [weightOf_cons, weightOf_nil, Section.weight, List.length_nil]
      all_goals omega
  | openSocket h sockets =>
      have hlt : sockets.length < h.target.sockets := hfits
      simp only [exec]
      (repeat' split) <;>
        simp only [weightOf_rollback, weightOf_cons, weightOf_nil, Section.weight,
          List.length_map] <;> omega
  | setupSocket h sockets fd =>
      have hlt : sockets.length < h.target.sockets := hfits
      simp only [exec]
      split
      · simp only [weightOf_rollback, Section.weight, List.length_cons, List.length_map]
        omega
      · split <;>
          simp only [weightOf_cons, weightOf_nil, Section.weight, List.length_append,
            List.length_singleton] <;> omega
  | activate h sockets =>
      simp only [exec]
      split <;> simp [Section.weight]
  | complete h body =>
      simp only [exec]
      split
      · simp [Section.weight]
      · split
        · simp [Section.weight]
        · split <;> simp [weightOf_finish, Section.weight]
  | unsupported h body =>
      simp only [exec]
      split
      · simp [Section.weight]
      · split <;> simp [weightOf_finish, Section.weight]
  | summary session client stream left entries =>
      have hstream : stream = false := hending
      subst hstream
      cases left with
      | nil => simp [exec, Section.weight]
      | cons r left =>
          simp [exec, Section.weight, summaryWeight]
          omega
  | summaryEntry session client stream r left entries => simp [exec, Section.weight]
  | writeEvent session client event => exact absurd hending id
  | hangUp client => exact absurd hending id
  | receive x state => exact absurd hending id
  | receiving x state => exact absurd hending id
  | send x state => exact absurd hending id
  | markFailed x message => exact absurd hending id
  | markNetworkComplete x => exact absurd hending id
  | _ => simp [exec, Section.weight]

/-- A start that has gone wrong comes to an end. -/
theorem ending_rollback (h : Handler c) (fds : List Nat) (error : CppString) :
    ∀ s ∈ rollback h fds error, s.Ending := by
  intro s hs
  rcases List.mem_append.mp hs with hclose | hrespond
  · rcases List.mem_map.mp hclose with ⟨fd, -, rfl⟩
    trivial
  · rw [List.mem_singleton.mp hrespond]
    trivial

/-- A handler that comes to an end goes on with sections that do. -/
theorem exec_ending (σ : Shared c) {s : Section c} (hending : s.Ending) (input : Input) :
    ∀ t ∈ (exec host σ s input).next, t.Ending := by
  cases s with
  | takeActiveFds x => simp [exec, Section.Ending]
  | openSocket h sockets =>
      simp only [exec]
      (repeat' split) <;> first | exact ending_rollback _ _ _ | simp [Section.Ending]
  | setupSocket h sockets fd =>
      simp only [exec]
      (repeat' split) <;> first | exact ending_rollback _ _ _ | simp [Section.Ending]
  | summary session client stream left entries =>
      have hstream : stream = false := hending
      subst hstream
      cases left <;> simp [exec, Section.Ending]
  | summaryEntry session client stream r left entries =>
      have hstream : stream = false := hending
      subst hstream
      simp [exec, Section.Ending]
  | writeEvent session client event => exact absurd hending id
  | hangUp client => exact absurd hending id
  | receive x state => exact absurd hending id
  | receiving x state => exact absurd hending id
  | send x state => exact absurd hending id
  | markFailed x message => exact absurd hending id
  | markNetworkComplete x => exact absurd hending id
  | _ =>
      simp only [exec]
      (repeat' split) <;> simp [finish, Section.Ending]

/-- A worker opens no sockets. -/
theorem WorkerStep.fits_toSection (next : WorkerStep) (x : Target c) :
    (next.toSection x).Fits := by
  cases next <;> trivial

/-- Neither does a start that has gone wrong. -/
theorem fits_rollback (h : Handler c) (fds : List Nat) (error : CppString) :
    ∀ s ∈ rollback h fds error, s.Fits := by
  intro s hs
  rcases List.mem_append.mp hs with hclose | hrespond
  · rcases List.mem_map.mp hclose with ⟨fd, -, rfl⟩
    trivial
  · rw [List.mem_singleton.mp hrespond]
    trivial

theorem fits_singleton {s : Section c} (h : s.Fits) : ∀ t ∈ [s], t.Fits := by
  intro t ht
  rw [List.mem_singleton.mp ht]
  exact h

/-- A section that fits is followed by ones that fit. -/
theorem exec_next_fits (σ : Shared c) {s : Section c} (hfits : s.Fits) (input : Input) :
    ∀ t ∈ (exec host σ s input).next, t.Fits := by
  cases s with
  | takeActiveFds x => simp [exec, Section.Fits]
  | startPending h =>
      simp only [exec]
      split
      · exact fits_singleton trivial
      · split
        · exact fits_singleton (Nat.zero_le _)
        · split
          · exact fits_singleton trivial
          · rename_i hsockets
            exact fits_singleton (Nat.pos_of_ne_zero hsockets)
  | openSocket h sockets =>
      simp only [exec]
      (repeat' split) <;> first | exact fits_rollback _ _ _ | exact fits_singleton hfits
  | setupSocket h sockets fd =>
      have hlt : sockets.length < h.target.sockets := hfits
      simp only [exec]
      split
      · exact fits_rollback _ _ _
      · split
        · rename_i hmore
          exact fits_singleton hmore
        · refine fits_singleton ?_
          rw [Section.Fits, List.length_append, List.length_singleton]
          exact hlt
  | activate h sockets =>
      simp only [exec]
      split
      · exact fits_singleton trivial
      · exact fits_singleton hfits
  | receive x state =>
      simp only [exec]
      split
      · exact fits_singleton (WorkerStep.fits_toSection _ _)
      · exact fits_singleton trivial
  | receiving x state => exact fits_singleton (WorkerStep.fits_toSection _ _)
  | send x state =>
      simp only [exec]
      split <;> exact fits_singleton (WorkerStep.fits_toSection _ _)
  | summary session client stream left entries =>
      cases left with
      | nil =>
          simp only [exec]
          split <;> exact fits_singleton trivial
      | cons r left => simp [exec, Section.Fits]
  | _ =>
      simp only [exec]
      (repeat' split) <;> simp [finish, Section.Fits]

/-- Whatever a section does, what the executions list still fits. -/
theorem exec_fits {σ : Shared c} (hσ : σ.Fits) {s : Section c} (hfits : s.Fits) (input : Input) :
    (exec host σ s input).All Shared.Fits Section.Fits := by
  refine ⟨?_, exec_next_fits σ hfits input, ?_⟩
  · intro x
    rcases exec_activeFds host σ s input x with hsame | ⟨h, sockets, rfl, rfl, hnew⟩ |
      ⟨rfl, hnew, -⟩
    · rw [hsame]
      exact hσ x
    · rw [hnew, List.length_map]
      exact hfits
    · rw [hnew]
      exact Nat.zero_le _
  · intro program hlaunch
    rcases exec_launch hlaunch with ⟨handler, sockets, worker, -, -, rfl⟩
    exact fits_singleton (WorkerStep.fits_toSection _ _)

/-! ## Requests -/

/-- How many sections the handler of a request runs at most; the loop of a summary stream
has no bound. -/
def Request.stepBound : Request c → Nat
  | .feature x .get => x.sockets + 5
  | .feature x .start => 5 * x.sockets + 17
  | .feature x (.complete _) => 3 * x.sockets + 11
  | .feature x (.unsupported _) => 3 * x.sockets + 11
  | .feature x .unknown => x.sockets + 4
  | .session _ => 2
  | .summary _ => (c.features.map fun feature => feature.targetCount + 5).sum + 2
  | .summaryStream _ => 0
  | .other _ => 1

/-- The weight of a summary is that of all features. -/
theorem summaryWeight_finRange (session : Nat) :
    summaryWeight session (List.finRange c.features.length) =
      (c.features.map fun feature => feature.targetCount + 5).sum := by
  have hfeatures : (List.finRange c.features.length).map c.features.get = c.features := by
    rw [← List.ofFn_eq_map, List.ofFn_get]
  calc
    _ = ((List.finRange c.features.length).map
          ((fun feature => feature.targetCount + 5) ∘ c.features.get)).sum := rfl
    _ = _ := by rw [← List.map_map, hfeatures]

/-- The bound is the weight of the program. -/
theorem weightOf_handlerProgram (client : Nat) {request : Request c}
    (h : ∀ session, request ≠ .summaryStream session) :
    weightOf (handlerProgram client request) = request.stepBound := by
  cases request with
  | feature x request =>
      cases request <;> simp [handlerProgram, Section.weight, Request.stepBound] <;> omega
  | summary session =>
      simp [handlerProgram, Section.weight, Request.stepBound, summaryWeight_finRange]
  | summaryStream session => exact absurd rfl (h session)
  | _ => simp [handlerProgram, Section.weight, Request.stepBound]

/-- All handlers but the stream come to an end. -/
theorem handlerProgram_ending (client : Nat) {request : Request c}
    (h : ∀ session, request ≠ .summaryStream session) :
    ∀ s ∈ handlerProgram client request, s.Ending := by
  cases request with
  | feature x request => cases request <;> simp [handlerProgram, Section.Ending]
  | summaryStream session => exact absurd rfl (h session)
  | _ => simp [handlerProgram, Section.Ending]

/-- The handlers begin without sockets. -/
theorem handlerProgram_fits (client : Nat) (request : Request c) :
    ∀ s ∈ handlerProgram client request, s.Fits := by
  cases request with
  | feature x request => cases request <;> simp [handlerProgram, Section.Fits]
  | _ => simp [handlerProgram, Section.Fits]

/-- A section that comes to an end has not come to it yet. -/
theorem Section.Ending.weight_pos {s : Section c} (h : s.Ending) : 0 < s.weight := by
  cases s <;> simp_all [Section.Ending, Section.weight]

/-! ## Runs -/

/-- In every reachable state the executions list no more sockets than they have. -/
theorem all_fits (hstart : Initial start) (hrun : ServerRun host start run last) :
    last.All Shared.Fits Section.Fits := by
  have hinitial : start.All Shared.Fits Section.Fits := by
    constructor
    · intro x
      have hfresh := (hstart.fresh x.session).2 x.feature
      simp [Shared.execution, hfresh]
    · intro i s hs
      rw [hstart.quiet i] at hs
      contradiction
  refine Run.invariant (C := fun _ => True) ?_ hrun (fun _ _ => trivial) hinitial
  intro τ hstep _ h
  refine System.step_all hstep h ?_ ?_
  · exact fun request _ => ⟨h.shared, handlerProgram_fits _ request⟩
  · exact fun i input head rest _ _ hfits => exec_fits h.shared hfits input

/-- The thread that a step runs. -/
def ranThread (τ : ServerTransition c) : Option Nat :=
  match τ.action with
  | .arrive _ => none
  | .run i _ => some i

/-- How many steps of a run are those of one thread. -/
def stepsOf (i : Nat) (run : List (ServerTransition c)) : Nat :=
  (run.filterMap ranThread).count i

/-- A thread that comes to an end has at most so many steps left. -/
structure EndsWithin (i bound : Nat) (run : List (ServerTransition c)) (p : ServerState c) :
    Prop where
  known : i < p.count
  ending : ∀ s ∈ p.threads i, s.Ending
  weight : stepsOf i run + weightOf (p.threads i) ≤ bound

/-- A step of its own brings a thread closer to the end, and one of another thread leaves
it where it is. -/
theorem EndsWithin.step {τ : ServerTransition c} {i bound : Nat}
    (hstep : (server host).step τ.source τ.action = some τ.target)
    (hfits : τ.source.All Shared.Fits Section.Fits) (h : EndsWithin i bound run τ.source) :
    EndsWithin i bound (run ++ [τ]) τ.target := by
  have hsteps : stepsOf i (run ++ [τ]) = stepsOf i run + (ranThread τ).toList.count i := by
    cases hran : ranThread τ <;> simp [stepsOf, List.filterMap_append, hran]
  rcases server_step_cases hstep with ⟨request, haction, htarget⟩ |
    ⟨j, input, s, rest, hj, haction, hhead, htarget⟩
  · have hsame : τ.target.threads i = τ.source.threads i := by
      rw [htarget]
      exact Pool.threads_launch_of_lt (p := τ.source.withShared _) h.known
    constructor
    · rw [htarget]
      exact Nat.lt_succ_of_lt h.known
    · rw [hsame]
      exact h.ending
    · rw [hsame, hsteps, ranThread, haction]
      exact h.weight
  · have hknown : i < τ.target.count := by
      rw [htarget]
      exact Nat.lt_of_lt_of_le h.known (Pool.count_le_advance _ _ hj _ _)
    by_cases hi : i = j
    · subst hi
      have hthread : τ.target.threads i = (exec host τ.source.shared s input).next ++ rest := by
        rw [htarget]
        exact Pool.threads_advance_self _ _ _ _ _
      have hs : s ∈ τ.source.threads i := by
        rw [hhead]
        exact List.mem_cons_self
      have hone : weightOf (exec host τ.source.shared s input).next + 1 ≤ s.weight :=
        exec_weight hfits.shared (hfits.threads i s hs) (h.ending s hs) input
      have hweight := h.weight
      rw [hhead, weightOf_cons] at hweight
      refine ⟨hknown, ?_, ?_⟩
      · rw [hthread]
        refine List.forall_mem_append.mpr ⟨exec_ending _ (h.ending s hs) input, ?_⟩
        intro t ht
        apply h.ending t
        rw [hhead]
        exact List.mem_cons_of_mem s ht
      · rw [hthread, hsteps, ranThread, haction, weightOf_append]
        simp only [Option.toList_some, List.count_singleton_self]
        omega
    · have hsame : τ.target.threads i = τ.source.threads i := by
        rw [htarget]
        exact Pool.threads_advance_of_ne _ _ _ _ _ hi h.known
      refine ⟨hknown, ?_, ?_⟩
      · rw [hsame]
        exact h.ending
      · rw [hsame, hsteps, ranThread, haction]
        simpa [Ne.symm hi] using h.weight

/-- In every interleaving the handler of a request, unless it is that of a summary stream,
runs no more sections than its bound, and fewer as long as it has not ended. -/
theorem handler_ends (hstart : Initial start) {front back : List (ServerTransition c)}
    {τ : ServerTransition c} {request : Request c}
    (hrun : ServerRun host start (front ++ τ :: back) last) (harrive : τ.action = .arrive request)
    (hstream : ∀ session, request ≠ .summaryStream session) :
    stepsOf τ.source.count back ≤ request.stepBound ∧
      (last.threads τ.source.count ≠ [] → stepsOf τ.source.count back < request.stepBound) := by
  have hwhole : ServerRun host start ((front ++ [τ]) ++ back) last := by simpa using hrun
  rcases hwhole.split with ⟨next, hfront, hback⟩
  have hnext : next = τ.target := by
    simpa using hfront.last_eq
  subst hnext
  have hstep := hrun.enabled (List.mem_append_right front List.mem_cons_self)
  have hbegin : EndsWithin τ.source.count request.stepBound ([] : List (ServerTransition c))
      τ.target := by
    rcases server_step_cases hstep with ⟨request', haction, htarget⟩ |
      ⟨j, input, s, rest, hj, haction, -, -⟩
    · rw [harrive] at haction
      cases haction
      have hthread : τ.target.threads τ.source.count =
          handlerProgram τ.source.shared.descriptors.lowestFree request := by
        rw [htarget]
        exact Pool.threads_launch_count (p := τ.source.withShared _)
      refine ⟨?_, ?_, ?_⟩
      · rw [htarget]
        exact Nat.lt_succ_self _
      · rw [hthread]
        exact handlerProgram_ending _ hstream
      · rw [hthread, weightOf_handlerProgram _ hstream]
        exact Nat.le_of_eq (Nat.zero_add _)
    · rw [harrive] at haction
      contradiction
  have hends : EndsWithin τ.source.count request.stepBound back last := by
    refine Run.history (I := fun run p => EndsWithin τ.source.count request.stepBound run p)
      ?_ hback hbegin
    intro run υ hυ hstep' h
    exact h.step hstep' (all_fits hstart (hfront.append hυ))
  have hweight := hends.weight
  refine ⟨by omega, ?_⟩
  intro hne
  cases hthread : last.threads τ.source.count with
  | nil => exact absurd hthread hne
  | cons s rest =>
      have hpos := (hends.ending s (by simp [hthread])).weight_pos
      rw [hthread, weightOf_cons] at hweight
      omega

/-- A client starts a feature, and another one asks for the session in between. -/
def startAmongOthers : List (ServerAction sampleCatalog) :=
  [.arrive (.feature multiMessage .start), .arrive (.session 0)] ++
    List.replicate 12 (.run 0 {}) ++ [.run 1 {}, .run 2 {}, .run 0 {}, .run 0 {}, .run 1 {}]

theorem handler_ends_startAmongOthers : ∃ τ back last,
    ServerRun sampleHost sampleStart (τ :: back) last ∧
      back.map Transition.action = startAmongOthers.tail ∧
      stepsOf τ.source.count back ≤ 22 := by
  have hrun : ∃ last, ServerRun sampleHost sampleStart
      (record (server sampleHost).step sampleStart startAmongOthers) last ∧ last.count = 3 :=
    exists_run (by decide)
  have hactions : (record (server sampleHost).step sampleStart startAmongOthers).map
      Transition.action = startAmongOthers := rfl
  rcases hrun with ⟨last, hrun, -⟩
  cases hrecord : record (server sampleHost).step sampleStart startAmongOthers with
  | nil =>
      rw [hrecord] at hactions
      contradiction
  | cons τ back =>
      rw [hrecord] at hrun hactions
      rcases List.cons_eq_cons.mp hactions with ⟨harrive, hback⟩
      have hfront : ServerRun sampleHost sampleStart ([] ++ τ :: back) last := hrun
      exact ⟨τ, back, last, hrun, hback,
        (handler_ends sampleStart_initial hfront harrive (by simp)).1⟩

end SctpConformance
