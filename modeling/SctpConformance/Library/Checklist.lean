import Mathlib.Data.List.Basic

/-!
# Checklists

A reader goes through a list of outcomes with a cursor.  Outcomes of a kind it
skips leave the cursor where it is; every other outcome is checked against the
entry under the cursor, which then moves on, or the reader gives up for good.
The reader is done when the cursor has passed the last entry.

The verdict of such a reader is compared with what can be said about the list
of outcomes as a whole: all entries are checked off in order, or some outcome
is the first to deviate.

Main results:

- Definition `Checklist.run`: the stage reached by a list of outcomes.
- Theorem `Checklist.run_relevant`: skipped outcomes make no difference.
- Theorem `Checklist.run_eq_done_iff`: the reader is done exactly if the relevant
  outcomes begin with one for each entry that passes its check.
- Theorem `Checklist.run_eq_failed_iff`: it has given up exactly if some relevant
  outcome deviates and none before it does.
-/

namespace SctpConformance.Library

/-- `size` entries; `check i x` is `none` if `x` passes as entry `i`. -/
structure Checklist (Outcome Reason : Type*) where
  size : Nat
  skip : Outcome → Bool
  check : Nat → Outcome → Option Reason

namespace Checklist

/-- Where a reader stands. -/
inductive Stage (Reason : Type*) where
  | waiting (i : Nat)
  | done
  | failed (reason : Reason)

variable {Outcome Reason : Type*} (l : Checklist Outcome Reason)

/-- The stage of a reader whose cursor is at `i`. -/
def stage (i : Nat) : Stage Reason :=
  if i < l.size then .waiting i else .done

/-- An outcome that counts is checked against the entry under the cursor. -/
def step : Stage Reason → Outcome → Stage Reason
  | .waiting i, x =>
      if l.skip x then .waiting i
      else
        match l.check i x with
        | none => l.stage (i + 1)
        | some reason => .failed reason
  | s, _ => s

/-- The stage after a list of outcomes. -/
def run (s : Stage Reason) (xs : List Outcome) : Stage Reason :=
  xs.foldl l.step s

/-- The outcomes that are not skipped. -/
def relevant (xs : List Outcome) : List Outcome :=
  xs.filter fun x => !l.skip x

/-- Entry `i` is checked off by the relevant outcome at its place. -/
def ChecksOff (xs : List Outcome) (i : Nat) : Prop :=
  ∃ x ∈ xs[i]?, l.check i x = none

/-- Every entry is checked off. -/
def Passes (xs : List Outcome) : Prop :=
  ∀ i < l.size, l.ChecksOff xs i

/-- Outcome `k` is the first to deviate. -/
structure Deviates (xs : List Outcome) (k : Nat) (reason : Reason) : Prop where
  inRange : k < l.size
  deviant : ∃ x ∈ xs[k]?, l.check k x = some reason
  first : ∀ i < k, l.ChecksOff xs i

variable {l}

@[simp]
theorem run_nil (s : Stage Reason) : l.run s [] = s :=
  rfl

@[simp]
theorem run_cons (s : Stage Reason) (x : Outcome) (xs : List Outcome) :
    l.run s (x :: xs) = l.run (l.step s x) xs :=
  rfl

/-- A reader that is done stays done. -/
@[simp]
theorem run_done (xs : List Outcome) : l.run .done xs = .done := by
  induction xs with
  | nil => rfl
  | cons x xs ih => exact ih

/-- A reader that has given up does not go on. -/
@[simp]
theorem run_failed (reason : Reason) (xs : List Outcome) :
    l.run (.failed reason) xs = .failed reason := by
  induction xs with
  | nil => rfl
  | cons x xs ih => exact ih

/-- An outcome that is skipped leaves the reader where it is. -/
theorem step_skip {s : Stage Reason} {x : Outcome} (h : l.skip x = true) : l.step s x = s := by
  cases s <;> simp [step, h]

/-- An outcome that passes its check moves the cursor on. -/
theorem step_eq_stage {i : Nat} {x : Outcome} (hskip : l.skip x = false)
    (hcheck : l.check i x = none) : l.step (.waiting i) x = l.stage (i + 1) := by
  simp [step, hskip, hcheck]

/-- An outcome that deviates makes the reader give up. -/
theorem step_eq_failed {i : Nat} {x : Outcome} {reason : Reason} (hskip : l.skip x = false)
    (hcheck : l.check i x = some reason) : l.step (.waiting i) x = .failed reason := by
  simp [step, hskip, hcheck]

/-- Skipped outcomes make no difference. -/
theorem run_relevant (s : Stage Reason) (xs : List Outcome) :
    l.run s (l.relevant xs) = l.run s xs := by
  induction xs generalizing s with
  | nil => rfl
  | cons x xs ih =>
      cases h : l.skip x with
      | true => simpa [relevant, h, step_skip h] using ih s
      | false => simpa [relevant, h] using ih (l.step s x)

/-- None of the relevant outcomes is skipped. -/
theorem relevant_skip {xs : List Outcome} {x : Outcome} (h : x ∈ l.relevant xs) :
    l.skip x = false := by
  simpa using (List.mem_filter.mp h).2

/-! ## The verdict from a cursor -/

/-- From cursor `i` the relevant outcomes are those for the entries from `i` on. -/
theorem run_stage_cons {i : Nat} (hi : i < l.size) {x : Outcome} (hx : l.skip x = false)
    (xs : List Outcome) :
    l.run (l.stage i) (x :: xs) =
      match l.check i x with
      | none => l.run (l.stage (i + 1)) xs
      | some reason => .failed reason := by
  rw [run_cons, stage, if_pos hi]
  cases hcheck : l.check i x with
  | none => rw [step_eq_stage hx hcheck]
  | some reason => rw [step_eq_failed hx hcheck, run_failed]

/-- The reader is done exactly if the outcomes check off the entries that are left. -/
theorem run_stage_eq_done_iff {xs : List Outcome} (hxs : ∀ x ∈ xs, l.skip x = false) (i : Nat) :
    l.run (l.stage i) xs = .done ↔
      ∀ j, i + j < l.size → ∃ x ∈ xs[j]?, l.check (i + j) x = none := by
  induction xs generalizing i with
  | nil =>
      by_cases hi : i < l.size
      · simpa [stage, hi] using ⟨0, hi⟩
      · simpa [stage, hi] using fun j => by omega
  | cons x xs ih =>
      by_cases hi : i < l.size
      · rw [run_stage_cons hi (hxs x List.mem_cons_self)]
        cases hcheck : l.check i x with
        | some reason =>
            simp only [reduceCtorEq, false_iff]
            intro hall
            rcases hall 0 hi with ⟨y, hy, hnone⟩
            cases hy
            simp [hcheck] at hnone
        | none =>
            rw [ih (fun y hy => hxs y (List.mem_cons_of_mem _ hy)) (i + 1)]
            constructor
            · intro hall j hj
              cases j with
              | zero => exact ⟨x, rfl, hcheck⟩
              | succ j =>
                  rw [show i + (j + 1) = i + 1 + j by omega] at hj ⊢
                  exact hall j hj
            · intro hall j hj
              have hnext := hall (j + 1) (by omega)
              rwa [show i + (j + 1) = i + 1 + j by omega] at hnext
      · rw [stage, if_neg hi, run_done]
        simpa using fun j => by omega

/-- The reader has given up exactly if an outcome deviates from its entry and the
ones before it do not. -/
theorem run_stage_eq_failed_iff {xs : List Outcome} (hxs : ∀ x ∈ xs, l.skip x = false)
    (i : Nat) (reason : Reason) :
    l.run (l.stage i) xs = .failed reason ↔
      ∃ k, i + k < l.size ∧ (∃ x ∈ xs[k]?, l.check (i + k) x = some reason) ∧
        ∀ j < k, ∃ x ∈ xs[j]?, l.check (i + j) x = none := by
  induction xs generalizing i with
  | nil =>
      rw [run_nil, stage]
      split <;> simp
  | cons x xs ih =>
      by_cases hi : i < l.size
      · rw [run_stage_cons hi (hxs x List.mem_cons_self)]
        cases hcheck : l.check i x with
        | some reason' =>
            simp only [Stage.failed.injEq]
            constructor
            · rintro rfl
              exact ⟨0, hi, ⟨x, rfl, hcheck⟩, fun j hj => absurd hj (Nat.not_lt_zero j)⟩
            · rintro ⟨k, -, ⟨y, hy, hdeviant⟩, hfirst⟩
              cases k with
              | zero =>
                  cases hy
                  exact Option.some.inj (hcheck.symm.trans hdeviant)
              | succ k =>
                  rcases hfirst 0 (Nat.succ_pos k) with ⟨z, hz, hnone⟩
                  cases hz
                  simp [hcheck] at hnone
        | none =>
            rw [ih (fun y hy => hxs y (List.mem_cons_of_mem _ hy)) (i + 1)]
            constructor
            · rintro ⟨k, hk, hdeviant, hfirst⟩
              refine ⟨k + 1, by omega, ?_, ?_⟩
              · rwa [show i + (k + 1) = i + 1 + k by omega]
              · intro j hj
                cases j with
                | zero => exact ⟨x, rfl, hcheck⟩
                | succ j =>
                    rw [show i + (j + 1) = i + 1 + j by omega]
                    exact hfirst j (by omega)
            · rintro ⟨k, hk, hdeviant, hfirst⟩
              cases k with
              | zero =>
                  rcases hdeviant with ⟨y, hy, hdeviant⟩
                  cases hy
                  simp [hcheck] at hdeviant
              | succ k =>
                  refine ⟨k, by omega, ?_, ?_⟩
                  · rwa [show i + 1 + k = i + (k + 1) by omega]
                  · intro j hj
                    have hnext := hfirst (j + 1) (by omega)
                    rwa [show i + (j + 1) = i + 1 + j by omega] at hnext
      · rw [stage, if_neg hi, run_done]
        simp only [reduceCtorEq, false_iff]
        rintro ⟨k, hk, -⟩
        omega

/-! ## The verdict of a whole run -/

/-- The reader is done exactly if the relevant outcomes check off every entry. -/
theorem run_eq_done_iff (xs : List Outcome) :
    l.run (l.stage 0) xs = .done ↔ l.Passes (l.relevant xs) := by
  rw [← run_relevant, run_stage_eq_done_iff fun x hx => relevant_skip hx]
  simp only [Nat.zero_add, Passes, ChecksOff]

/-- The reader has given up exactly if a relevant outcome is the first to deviate. -/
theorem run_eq_failed_iff (xs : List Outcome) (reason : Reason) :
    l.run (l.stage 0) xs = .failed reason ↔ ∃ k, l.Deviates (l.relevant xs) k reason := by
  rw [← run_relevant, run_stage_eq_failed_iff fun x hx => relevant_skip hx]
  simp only [Nat.zero_add]
  constructor
  · rintro ⟨k, hk, hdeviant, hfirst⟩
    exact ⟨k, hk, hdeviant, hfirst⟩
  · rintro ⟨k, hk, hdeviant, hfirst⟩
    exact ⟨k, hk, hdeviant, hfirst⟩

end Checklist

end SctpConformance.Library
