import Mathlib.Tactic.Basic

/-!
# Stateful computations that may raise

A computation changes a state and either returns a value or raises an exception.  The
state survives an exception, so that what is run on the way out of a failed block, as by
`finally`, sees the changes made before the exception.

Main results:

- Definition `Raising.Gives`: a computation returns a value from a given state.
- Theorem `Raising.gives_bind`: what a sequence gives, from what its two parts give.
- Theorem `Raising.gives_finally`: a block with a `finally` part returns if and only if
  both parts do.
- Theorems `Outcome.bind_eq_ok`, `Outcome.check_eq_ok`: the same for computations without a
  state.
-/

namespace SctpConformance.Library

/-- A computation on states of type `σ` that may raise an `ε`. -/
abbrev Raising (ε σ α : Type) : Type :=
  ExceptT ε (StateM σ) α

namespace Raising

variable {ε σ α β : Type}

/-- From state `s` the computation returns `a` and leaves state `t`. -/
def Gives (x : Raising ε σ α) (s : σ) (a : α) (t : σ) : Prop :=
  x.run.run s = (.ok a, t)

/-- A computation gives at most one value and one state. -/
theorem Gives.unique {x : Raising ε σ α} {s t t' : σ} {a a' : α}
    (h : x.Gives s a t) (h' : x.Gives s a' t') : a = a' ∧ t = t' := by
  unfold Gives at h h'
  rw [h] at h'
  cases h'
  exact ⟨rfl, rfl⟩

/-- A value is given back, and the state stays. -/
@[simp]
theorem gives_pure {a b : α} {s t : σ} :
    (pure a : Raising ε σ α).Gives s b t ↔ b = a ∧ t = s := by
  constructor
  · intro h
    cases h
    exact ⟨rfl, rfl⟩
  · rintro ⟨rfl, rfl⟩
    rfl

/-- An exception is no result. -/
@[simp]
theorem not_gives_throw {e : ε} {s t : σ} {a : α} :
    ¬ (throw e : Raising ε σ α).Gives s a t := by
  intro h
  cases h

/-- An outcome that was computed without the state. -/
@[simp]
theorem gives_liftExcept {x : Except ε α} {s t : σ} {a : α} :
    (liftM x : Raising ε σ α).Gives s a t ↔ x = .ok a ∧ t = s := by
  constructor
  · intro h
    cases x with
    | ok b =>
        cases h
        exact ⟨rfl, rfl⟩
    | error e => cases h
  · rintro ⟨rfl, rfl⟩
    rfl

/-- The state is given back. -/
@[simp]
theorem gives_get {s t a : σ} :
    (get : Raising ε σ σ).Gives s a t ↔ a = s ∧ t = s := by
  constructor
  · intro h
    cases h
    exact ⟨rfl, rfl⟩
  · rintro ⟨rfl, rfl⟩
    rfl

/-- Only the state changes. -/
@[simp]
theorem gives_modify {f : σ → σ} {s t : σ} {a : Unit} :
    (modify f : Raising ε σ Unit).Gives s a t ↔ t = f s := by
  constructor
  · intro h
    cases h
    rfl
  · rintro rfl
    rfl

/-- An exception of the first computation is one of both. -/
theorem run_bind (x : Raising ε σ α) (f : α → Raising ε σ β) (s : σ) :
    (x >>= f).run.run s =
      match x.run.run s with
      | (.ok a, t) => (f a).run.run t
      | (.error e, t) => (.error e, t) := by
  unfold ExceptT.run StateT.run
  simp only [bind, ExceptT.bind, ExceptT.mk, StateT.bind, ExceptT.bindCont]
  rcases x s with ⟨outcome, t⟩
  cases outcome <;> rfl

/-- A sequence gives what its second part gives on the value and state of the first. -/
@[simp]
theorem gives_bind {x : Raising ε σ α} {f : α → Raising ε σ β} {s u : σ} {b : β} :
    (x >>= f).Gives s b u ↔ ∃ a t, x.Gives s a t ∧ (f a).Gives t b u := by
  unfold Gives
  rw [run_bind]
  rcases x.run.run s with ⟨outcome, t⟩
  constructor
  · intro h
    cases outcome with
    | ok a => exact ⟨a, t, rfl, h⟩
    | error e => cases h
  · rintro ⟨a, t', hx, h⟩
    cases hx
    exact h

/-- A function of the result leaves the effects as they are. -/
@[simp]
theorem gives_map {x : Raising ε σ α} {f : α → β} {s t : σ} {b : β} :
    (f <$> x).Gives s b t ↔ ∃ a, x.Gives s a t ∧ b = f a := by
  rw [map_eq_pure_bind, gives_bind]
  constructor
  · rintro ⟨a, u, hx, hpure⟩
    obtain ⟨rfl, rfl⟩ := gives_pure.mp hpure
    exact ⟨a, hx, rfl⟩
  · rintro ⟨a, hx, rfl⟩
    exact ⟨a, t, hx, gives_pure.mpr ⟨rfl, rfl⟩⟩

/-- A sequence that begins by reading the state. -/
@[simp high]
theorem gives_get_bind {f : σ → Raising ε σ β} {s u : σ} {b : β} :
    ((get : Raising ε σ σ) >>= f).Gives s b u ↔ (f s).Gives s b u := by
  rw [gives_bind]
  constructor
  · rintro ⟨a, t, hget, h⟩
    obtain ⟨rfl, rfl⟩ := gives_get.mp hget
    exact h
  · intro h
    exact ⟨s, s, gives_get.mpr ⟨rfl, rfl⟩, h⟩

/-- A choice is made before either branch runs. -/
@[simp]
theorem gives_ite {p : Prop} [Decidable p] {x y : Raising ε σ α} {s t : σ} {a : α} :
    (if p then x else y).Gives s a t ↔ if p then x.Gives s a t else y.Gives s a t := by
  split <;> rfl

/-- The second computation runs in any case, and its exception is the one that counts. -/
theorem run_finally (x : Raising ε σ α) (y : Raising ε σ Unit) (s : σ) :
    (tryFinally x y).run.run s =
      match x.run.run s with
      | (first, t) =>
          match first, y.run.run t with
          | .ok a, (.ok _, u) => (.ok a, u)
          | .error e, (.ok _, u) => (.error e, u)
          | _, (.error e, u) => (.error e, u) := by
  unfold ExceptT.run StateT.run
  rcases hx : x s with ⟨outcome, t⟩
  rcases hy : y t with ⟨outcome', u⟩
  cases outcome <;> cases outcome' <;>
    simp [tryFinally, tryFinally', Functor.map, ExceptT.map, ExceptT.mk, StateT.bind, bind,
      pure, hx, hy] <;> rfl

/-- A block with a `finally` part returns what the block gives when both parts return; an
exception in either part is an exception of the whole. -/
@[simp]
theorem gives_finally {x : Raising ε σ α} {y : Raising ε σ Unit} {s u : σ} {a : α} :
    (tryFinally x y).Gives s a u ↔ ∃ t, x.Gives s a t ∧ y.Gives t () u := by
  unfold Gives
  rw [run_finally]
  rcases x.run.run s with ⟨outcome, t⟩
  constructor
  · intro h
    refine ⟨t, ?_⟩
    rcases hy : y.run.run t with ⟨outcome', u'⟩
    simp only [hy] at h
    cases outcome <;> cases outcome' <;> cases h
    exact ⟨rfl, rfl⟩
  · rintro ⟨t', hx, hy⟩
    cases hx
    simp only [hy]

end Raising

/-! ## Outcomes alone

The part of a computation that does not touch the state. -/

namespace Outcome

variable {ε α β : Type}

/-- A sequence returns if its first part returns a value on which the second part returns. -/
theorem bind_eq_ok {x : Except ε α} {f : α → Except ε β} {b : β} :
    x >>= f = .ok b ↔ ∃ a, x = .ok a ∧ f a = .ok b := by
  cases x with
  | error e =>
      constructor
      · intro h
        cases h
      · rintro ⟨a, ha, -⟩
        cases ha
  | ok a =>
      constructor
      · intro h
        exact ⟨a, rfl, h⟩
      · rintro ⟨a', ha, h⟩
        cases ha
        exact h

/-- The second part of a sequence may not need the value of the first. -/
theorem seq_eq_ok {x : Except ε Unit} {y : Except ε β} {b : β} :
    (x >>= fun _ => y) = .ok b ↔ x = .ok () ∧ y = .ok b := by
  rw [bind_eq_ok]
  constructor
  · rintro ⟨_, hx, hy⟩
    exact ⟨hx, hy⟩
  · rintro ⟨hx, hy⟩
    exact ⟨(), hx, hy⟩

theorem pure_eq_ok {a b : α} : (pure a : Except ε α) = .ok b ↔ b = a := by
  constructor
  · intro h
    cases h
    rfl
  · rintro rfl
    rfl

/-- A check returns if and only if its condition holds. -/
theorem check_eq_ok {p : Prop} [Decidable p] {x : Except ε α} {e : ε} {a : α} :
    (if p then x else throw e) = .ok a ↔ p ∧ x = .ok a := by
  by_cases h : p
  · rw [if_pos h]
    exact ⟨fun hx => ⟨h, hx⟩, fun hx => hx.2⟩
  · rw [if_neg h]
    constructor
    · intro hthrow
      cases hthrow
    · rintro ⟨hp, -⟩
      contradiction

end Outcome

end SctpConformance.Library
