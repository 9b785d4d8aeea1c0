import SctpConformance.Concurrency.Effects

/-!
# Where the threads stand

The shape of the threads of the server and the origin of the sections found in
them.  A thread consists of calls of the four helpers, which return to their
caller, and of one last section that stands for the rest of the handler or the
worker.

Main results:

- Theorem `chained`: in every reachable state a section that is not a call is
  the last of its thread.
- Theorems `clear_mem_next` and `announces_mem_next`: which sections lead to
  those that the invariants speak of.
- Theorem `exec_launch`: a thread is launched only for a worker.
-/

namespace SctpConformance

open Library

variable {c : Catalog} {host : Host} {σ : Shared c} {s t : Section c} {input : Input}

/-! ## Calls and last sections -/

/-- The helpers that return to their caller. -/
def Section.isCall : Section c → Bool
  | .maybeTimeout _ => true
  | .takeActiveFds _ => true
  | .closeFd _ _ => true
  | .clearActiveFeature _ => true
  | _ => false

/-- Only the last section of a thread is not a call. -/
def Chained (todo : List (Section c)) : Prop :=
  todo.Pairwise fun s _ => s.isCall = true

/-- A worker's section is no helper that returns. -/
@[simp]
theorem WorkerStep.isCall_toSection (next : WorkerStep) (x : Target c) :
    (next.toSection x).isCall = false := by
  cases next <;> rfl

/-- A call leads to calls only. -/
theorem exec_next_of_isCall (hs : s.isCall = true) (ht : t ∈ (exec host σ s input).next) :
    t.isCall = true := by
  cases s with
  | maybeTimeout x =>
      simp only [exec] at ht
      split at ht
      · simp at ht
      · simp only [finish, List.mem_cons, List.not_mem_nil, or_false] at ht
        rcases ht with rfl | rfl <;> rfl
  | takeActiveFds x =>
      simp only [exec, List.mem_map] at ht
      rcases ht with ⟨fd, -, rfl⟩
      rfl
  | closeFd x fd => simp [exec] at ht
  | clearActiveFeature x => simp [exec] at ht
  | _ => simp [Section.isCall] at hs

/-- What a section puts in front of the rest has the shape of a thread. -/
theorem exec_next_chained : Chained (exec host σ s input).next := by
  have hcloses : ∀ (x : Target c) (fds : List Nat) (last : List (Section c)),
      last.length ≤ 1 → Chained (fds.map (.closeFd x) ++ last) := by
    intro x fds last hlast
    induction fds with
    | nil =>
        match last, hlast with
        | [], _ => exact List.Pairwise.nil
        | [_], _ => exact List.pairwise_singleton _ _
    | cons fd fds ih => exact List.pairwise_cons.mpr ⟨fun _ _ => rfl, ih⟩
  cases s with
  | takeActiveFds x => simpa [exec] using hcloses x _ [] (by simp)
  | openSocket h sockets =>
      simp only [exec]
      (repeat' split)
      · exact hcloses _ _ _ (by simp)
      · exact hcloses _ _ _ (by simp)
      · exact List.pairwise_singleton _ _
  | setupSocket h sockets fd =>
      simp only [exec]
      (repeat' split)
      · exact hcloses _ _ _ (by simp)
      · exact List.pairwise_singleton _ _
      · exact List.pairwise_singleton _ _
  | _ =>
      simp only [exec]
      (repeat' split) <;> simp [Chained, finish, Section.isCall]

/-- A thread is launched only for the worker of a feature. -/
theorem exec_launch {program : List (Section c)}
    (h : (exec host σ s input).launch = some program) :
    ∃ handler sockets worker, s = .launchWorker handler sockets ∧
      (c.definition handler.target.feature).worker sockets = some worker ∧
      program = [worker.start.toSection handler.target] := by
  cases s with
  | launchWorker handler sockets =>
      simp only [exec, Option.map_eq_some_iff] at h
      rcases h with ⟨worker, hworker, rfl⟩
      exact ⟨handler, sockets, worker, rfl, hworker, rfl⟩
  | _ =>
      exfalso
      revert h
      simp only [exec]
      (repeat' split) <;> simp

/-- The program of a handler has the shape of a thread. -/
theorem handlerProgram_chained (client : Nat) (request : Request c) :
    Chained (handlerProgram client request) := by
  cases request with
  | feature x request => cases request <;> simp [handlerProgram, Chained, Section.isCall]
  | _ => simp [handlerProgram, Chained]

/-- A step of the server accepts a request or runs a section. -/
theorem server_step_cases {p p' : ServerState c} {a : ServerAction c}
    (hstep : (server host).step p a = some p') :
    (∃ request, a = .arrive request ∧
      p' = (p.withShared (p.shared.openDescriptor .other)).launch
        (handlerProgram p.shared.descriptors.lowestFree request)) ∨
    (∃ (i : Nat) (input : Input) (s : Section c) (rest : List (Section c)) (hi : i < p.count),
      a = .run i input ∧ p.threads i = s :: rest ∧
        p' = p.advance i hi (exec host p.shared s input) rest) :=
  System.step_cases hstep

/-- A step keeps the shape of the threads. -/
theorem step_chained {p p' : ServerState c} {a : ServerAction c}
    (hstep : (server host).step p a = some p') (hp : ∀ i, Chained (p.threads i)) (j : Nat) :
    Chained (p'.threads j) := by
  rcases server_step_cases hstep with ⟨request, rfl, rfl⟩ |
    ⟨i, input, s, rest, hi, rfl, hhead, rfl⟩
  · rcases Pool.threads_launch_cases (p.withShared _) _ j with ⟨-, ht⟩ | ⟨-, ht⟩
    · rw [ht]
      exact handlerProgram_chained _ _
    · rw [ht]
      exact hp j
  · rcases Pool.threads_advance_cases p i hi (exec host p.shared s input) rest j with
      ⟨-, ht⟩ | ⟨-, ht⟩ | ⟨-, program, hlaunch, ht⟩
    · rw [ht]
      have hthread := hp i
      rw [hhead] at hthread
      rcases List.pairwise_cons.mp hthread with ⟨hs, hrest⟩
      refine List.pairwise_append.mpr ⟨exec_next_chained, hrest, ?_⟩
      intro t ht u hu
      exact exec_next_of_isCall (hs u hu) ht
    · rw [ht]
      exact hp j
    · rw [ht]
      rcases exec_launch hlaunch with ⟨_, _, _, -, -, rfl⟩
      exact List.pairwise_singleton _ _

/-- In every reachable state a section that is not a call is the last of its thread. -/
theorem chained {start last : ServerState c} {run : List (ServerTransition c)}
    (hstart : Initial start) (hrun : ServerRun host start run last) (i : Nat) :
    Chained (last.threads i) := by
  refine Run.invariant (C := fun _ => True) (I := fun p => ∀ i, Chained (p.threads i)) ?_ hrun
    (fun _ _ => trivial) ?_ i
  · intro τ hstep _ hp j
    exact step_chained hstep hp j
  · intro j
    rw [hstart.quiet j]
    exact List.Pairwise.nil

/-! ## Where sections come from -/

/-- The execution that a start has activated and not yet announced as the
active feature of its session. -/
def Section.announces : Section c → Option (Target c)
  | .setActiveFds h _ => some h.target
  | .setActiveFeature h _ => some h.target
  | _ => none

/-- A worker announces no feature. -/
@[simp]
theorem WorkerStep.announces_toSection (next : WorkerStep) (x : Target c) :
    (next.toSection x).announces = none := by
  cases next <;> rfl

/-- Neither does a handler that has not activated one. -/
theorem announces_not_mem_handlerProgram {client : Nat} {request : Request c} {x : Target c}
    (hs : s ∈ handlerProgram client request) : s.announces ≠ some x := by
  cases request with
  | feature y request =>
      cases request <;> simp only [handlerProgram, List.mem_cons, List.not_mem_nil, or_false] at hs
        <;> rcases hs with rfl | rfl | rfl <;> simp [Section.announces]
  | _ =>
      simp only [handlerProgram, List.mem_singleton] at hs
      subst hs
      simp [Section.announces]

/-- A start announces a feature that it has activated. -/
theorem announces_mem_next {x : Target c} (ht : t ∈ (exec host σ s input).next)
    (hx : t.announces = some x) :
    ∃ h sockets, h.target = x ∧ (s = .activate h sockets ∨ s = .setActiveFds h sockets) := by
  cases s with
  | activate h sockets =>
      refine ⟨h, sockets, ?_, Or.inl rfl⟩
      simp only [exec] at ht
      split at ht
      all_goals
        cases List.mem_singleton.mp ht
        simpa [Section.announces] using hx
  | setActiveFds h sockets =>
      refine ⟨h, sockets, ?_, Or.inr rfl⟩
      simp only [exec] at ht
      cases List.mem_singleton.mp ht
      simpa [Section.announces] using hx
  | takeActiveFds y =>
      simp only [exec, List.mem_map] at ht
      rcases ht with ⟨fd, -, rfl⟩
      simp [Section.announces] at hx
  | _ =>
      exfalso
      revert ht
      simp only [exec]
      (repeat' split) <;> intro ht <;>
        simp only [finish, rollback, List.mem_append, List.mem_map, List.mem_cons,
          List.not_mem_nil, or_false, false_or] at ht <;>
        grind [Section.announces, WorkerStep.announces_toSection]

variable (host σ input) in
/-- An announcement goes on until `active_feature_id` names the feature. -/
theorem announces_exec {x : Target c} (hx : s.announces = some x) :
    (∃ t ∈ (exec host σ s input).next, t.announces = some x) ∨
      (exec host σ s input).shared.activeId x.session = c.id x.feature := by
  cases s with
  | setActiveFds h sockets =>
      simp only [Section.announces, Option.some.injEq] at hx
      subst hx
      exact Or.inl ⟨.setActiveFeature h sockets, by simp [exec], rfl⟩
  | setActiveFeature h sockets =>
      simp only [Section.announces, Option.some.injEq] at hx
      subst hx
      exact Or.inr (by simp [exec])
  | _ => simp [Section.announces] at hx

variable (host σ input) in
/-- A feature is announced as soon as it has been activated. -/
theorem announces_activate (h : Handler c) (sockets : List ListeningSocket) :
    ∃ t ∈ (exec host σ (.activate h sockets) input).next, t.announces = some h.target := by
  simp only [exec]
  split <;> simp [Section.announces]

/-- A call of `clear_active_feature` is made by whoever has just ended the feature. -/
theorem clear_mem_next {x : Target c}
    (ht : .clearActiveFeature x ∈ (exec host σ s input).next) :
    ((exec host σ s input).shared.execution x).state.Terminal := by
  have hend : ∀ (y : Target c) (e : FeatureExecution) (tail : List (Section c)),
      e.state.Terminal → .clearActiveFeature x ∈ finish y ++ tail →
      .clearActiveFeature x ∉ tail → ((σ.setExecution y e).execution x).state.Terminal := by
    intro y e tail he hmem htail
    have hx : x = y := by
      simpa [finish, htail] using hmem
    simpa [hx] using he
  cases s with
  | maybeTimeout y =>
      simp only [exec] at ht ⊢
      split at ht
      · simp at ht
      · rename_i e htimeout
        rcases FeatureExecution.timeOut_eq_some_iff.mp htimeout with ⟨-, -, rfl⟩
        exact hend y _ [] (by simp [FeatureState.Terminal]) (by simpa using ht) (by simp)
  | markFailed y message =>
      simp only [exec] at ht ⊢
      split at ht
      · simp at ht
      · rename_i e hfail
        rcases FeatureExecution.fail_eq_some_iff.mp hfail with ⟨-, rfl⟩
        exact hend y _ [] (by simp [FeatureState.Terminal]) (by simpa using ht) (by simp)
  | markNetworkComplete y =>
      simp only [exec] at ht ⊢
      split at ht
      · simp at ht
      · rename_i e finished hobserve
        have hobserved := FeatureExecution.observe_eq_some hobserve
        rcases hobserved.2.2.2.2.2 with ⟨rfl, hstate, -⟩ | ⟨rfl, -, -⟩
        · exact hend y e [] (by simp [hstate, FeatureState.Terminal]) (by simpa using ht) (by simp)
        · simp at ht
  | complete h body =>
      simp only [exec] at ht ⊢
      split at ht
      · simp at ht
      · split at ht
        · simp at ht
        · rename_i e finished hcomplete
          have haccepted := FeatureExecution.complete_accepted hcomplete
          rcases haccepted.2.2.2.2.2.2.2 with ⟨rfl, hstate, -⟩ | ⟨rfl, -, -⟩
          · exact hend h.target e [.readFeature h] (by simp [hstate, FeatureState.Terminal])
              (by simpa using ht) (by simp)
          · simp at ht
  | unsupported h body =>
      simp only [exec] at ht ⊢
      split at ht
      · simp at ht
      · split at ht
        · simp at ht
        · rename_i e hunsupported
          rcases FeatureExecution.markUnsupported_accepted hunsupported with ⟨-, rfl⟩
          exact hend h.target _ [.readFeature h] (by simp [FeatureState.Terminal])
            (by simpa using ht) (by simp)
  | _ =>
      exfalso
      revert ht
      simp only [exec]
      (repeat' split) <;> intro ht <;>
        simp only [rollback, List.mem_append, List.mem_map, List.mem_cons,
          List.not_mem_nil, or_false] at ht <;>
        grind [WorkerStep.isCall_toSection, Section.isCall]

/-- Handlers do not begin with a clean-up. -/
theorem clear_not_mem_handlerProgram {client : Nat} {request : Request c} {x : Target c} :
    .clearActiveFeature x ∉ handlerProgram client request := by
  cases request with
  | feature y request => cases request <;> simp [handlerProgram]
  | _ => simp [handlerProgram]

end SctpConformance
