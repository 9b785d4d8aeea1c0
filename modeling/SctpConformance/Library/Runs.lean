import Mathlib.Data.List.Basic

/-!
# Runs of a partial step function

A labelled transition system is given by a partial step function: an action is
either enabled, and then has exactly one successor, or it is not.  A run keeps
the list of its transitions, so that a property of the history (some earlier
step did this, every step met that condition) is a property of one list.

Main results:

- Theorem `Run.invariant`: an invariant kept by every step that meets a side
  condition holds after every run whose steps meet it.
- Theorem `Run.history`: the same for a property of the state together with
  the transitions that led to it.
- Theorem `run_record`: executing a list of enabled actions is a run.
-/

namespace SctpConformance.Library

variable {State Action : Type*}

/-- One executed step. -/
structure Transition (State Action : Type*) where
  source : State
  action : Action
  target : State

/-- `Run step s run t`: the transitions of `run` lead from `s` to `t`. -/
inductive Run (step : State → Action → Option State) :
    State → List (Transition State Action) → State → Prop
  | nil (s : State) : Run step s [] s
  | snoc {s t u : State} {run : List (Transition State Action)} {a : Action}
      (front : Run step s run t) (last : step t a = some u) :
      Run step s (run ++ [⟨t, a, u⟩]) u

namespace Run

variable {step : State → Action → Option State}
variable {s t u : State} {run run' : List (Transition State Action)}

/-- Runs compose. -/
theorem append (h : Run step s run t) (h' : Run step t run' u) :
    Run step s (run ++ run') u := by
  induction h' with
  | nil => simpa using h
  | snoc _ last ih =>
      rw [← List.append_assoc]
      exact .snoc ih last

/-- A run of a concatenation passes through an intermediate state. -/
theorem split (h : Run step s (run ++ run') u) :
    ∃ t, Run step s run t ∧ Run step t run' u := by
  generalize hall : run ++ run' = all at h
  induction h generalizing run' with
  | nil =>
      rcases List.append_eq_nil_iff.mp hall with ⟨rfl, rfl⟩
      exact ⟨s, .nil s, .nil s⟩
  | @snoc t u front a hfront last ih =>
      rcases List.eq_nil_or_concat run' with rfl | ⟨back, τ, rfl⟩
      · rw [List.append_nil] at hall
        subst hall
        exact ⟨u, .snoc hfront last, .nil u⟩
      · rw [List.concat_eq_append, ← List.append_assoc] at hall
        rcases List.append_inj' hall rfl with ⟨hinit, hlast⟩
        cases List.singleton_inj.mp hlast
        rcases ih hinit with ⟨m, hm, hback⟩
        exact ⟨m, hm, by simpa using Run.snoc hback last⟩

/-- The transitions before one lead to its source. -/
theorem upTo {τ : Transition State Action} (h : Run step s (run ++ τ :: run') t) :
    Run step s run τ.source := by
  have hsplit : Run step s ((run ++ [τ]) ++ run') t := by simpa using h
  rcases hsplit.split with ⟨m, hm, -⟩
  generalize hall : run ++ [τ] = all at hm
  cases hm with
  | nil => simp at hall
  | snoc front last =>
      rcases List.append_inj' hall rfl with ⟨rfl, hτ⟩
      cases List.singleton_inj.mp hτ
      exact front

/-- Every transition of a run is a step of the system. -/
theorem enabled (h : Run step s run t) {τ : Transition State Action} (hτ : τ ∈ run) :
    step τ.source τ.action = some τ.target := by
  induction h with
  | nil => simp at hτ
  | snoc _ last ih =>
      rcases List.mem_append.mp hτ with hτ | hτ
      · exact ih hτ
      · cases List.mem_singleton.mp hτ
        exact last

/-- The source of a transition of a run is reached by the transitions before it. -/
theorem before (h : Run step s run t) {τ : Transition State Action} (hτ : τ ∈ run) :
    ∃ front back, run = front ++ τ :: back ∧ Run step s front τ.source := by
  induction h with
  | nil => simp at hτ
  | @snoc t u front a hfront last ih =>
      rcases List.mem_append.mp hτ with hτ | hτ
      · rcases ih hτ with ⟨front', back, rfl, hrun⟩
        exact ⟨front', back ++ [⟨t, a, u⟩], by simp, hrun⟩
      · cases List.mem_singleton.mp hτ
        exact ⟨front, [], rfl, hfront⟩

/-- The invariant rule.  `C` is a condition that every step of the run meets;
take `fun _ => True` for an unconditional invariant. -/
theorem invariant {C : Transition State Action → Prop} {I : State → Prop}
    (hstep : ∀ τ : Transition State Action, step τ.source τ.action = some τ.target →
      C τ → I τ.source → I τ.target)
    (h : Run step s run t) (hC : ∀ τ ∈ run, C τ) (hs : I s) : I t := by
  induction h with
  | nil => exact hs
  | snoc front last ih =>
      have hrest := ih fun τ hτ => hC τ (List.mem_append_left _ hτ)
      exact hstep _ last (hC _ (List.mem_append_right _ (List.mem_singleton_self _))) hrest

/-- The invariant rule for a property of the state and of its history. -/
theorem history {I : List (Transition State Action) → State → Prop}
    (hstep : ∀ (front : List (Transition State Action)) (τ : Transition State Action),
      Run step s front τ.source → step τ.source τ.action = some τ.target →
      I front τ.source → I (front ++ [τ]) τ.target)
    (h : Run step s run t) (hs : I [] s) : I run t := by
  induction h with
  | nil => exact hs
  | @snoc t u run a front last ih => exact hstep run ⟨t, a, u⟩ front last ih

/-- A property of states that no step of the run destroys is kept by the run. -/
theorem preserve {P : State → Prop} (hP : ∀ τ ∈ run, P τ.source → P τ.target)
    (h : Run step s run t) (hs : P s) : P t := by
  induction h with
  | nil => exact hs
  | @snoc t u run a front last ih =>
      have hrest := ih fun τ hτ => hP τ (List.mem_append_left _ hτ)
      exact hP ⟨t, a, u⟩ (List.mem_append_right _ (List.mem_singleton_self _)) hrest

/-- A property of states that no step of the run destroys holds after each of them. -/
theorem ever_after {P : State → Prop} (hP : ∀ τ ∈ run, P τ.source → P τ.target)
    (h : Run step s run t) (hs : P s) {τ : Transition State Action} (hτ : τ ∈ run) :
    P τ.target := by
  rcases h.before hτ with ⟨front, back, rfl, hfront⟩
  have hsource : P τ.source := by
    refine hfront.preserve ?_ hs
    intro τ' hτ'
    exact hP τ' (List.mem_append_left _ hτ')
  exact hP τ hτ hsource

/-- A run ends where its last transition does. -/
theorem last_eq (h : Run step s run t) : t = (run.getLast?.map Transition.target).getD s := by
  cases h with
  | nil => rfl
  | snoc front last => simp

/-- The transitions of a run determine where it ends. -/
theorem unique (h : Run step s run t) (h' : Run step s run u) : t = u := by
  rw [h.last_eq, ← h'.last_eq]

end Run

/-! ## Executing a list of actions -/

/-- The state reached by a list of actions, if each is enabled in its turn. -/
def execute (step : State → Action → Option State) (s : State) : List Action → Option State
  | [] => some s
  | a :: as => (step s a).bind fun t => execute step t as

/-- The transitions made by a list of actions, up to the first disabled one. -/
def record (step : State → Action → Option State) (s : State) :
    List Action → List (Transition State Action)
  | [] => []
  | a :: as =>
      match step s a with
      | none => []
      | some t => ⟨s, a, t⟩ :: record step t as

/-- An enabled list of actions is a run, with its record as transitions. -/
theorem run_record {step : State → Action → Option State} {s t : State} {as : List Action}
    (h : execute step s as = some t) : Run step s (record step s as) t := by
  induction as generalizing s with
  | nil =>
      simp only [execute, Option.some.injEq] at h
      subst h
      exact .nil s
  | cons a as ih =>
      simp only [execute, Option.bind_eq_some_iff] at h
      rcases h with ⟨m, hm, hrest⟩
      have hone : Run step s [⟨s, a, m⟩] m := .snoc (.nil s) hm
      simpa [record, hm] using hone.append (ih hrest)

/-- A list of actions that leads to a state with a property makes a run to one. -/
theorem exists_run {step : State → Action → Option State} {s : State} {P : State → Prop}
    [DecidablePred P] {as : List Action} (h : (execute step s as).any fun t => decide (P t)) :
    ∃ t, Run step s (record step s as) t ∧ P t := by
  cases ht : execute step s as with
  | none => simp [ht] at h
  | some t =>
      have hP : P t := by simpa [ht] using h
      exact ⟨t, run_record ht, hP⟩

end SctpConformance.Library
