import Mathlib.Data.List.Infix

/-!
# Loops that fill a list

A loop is given by its condition and its body, and run for a bounded number of turns; it
has a result if it ends within them.  The loops that this is for fill a list with copies
of another one.

Main results:

- Theorem `runLoop_ends`: a loop ends within as many turns as its measure says.
- Theorem `runLoop_keeps`: what holds before a loop and is kept by its body holds at its
  end, where the condition does not.
- Theorems `Copies.append` and `Copies.copy_append`: copies stay copies with one more of
  them, or a part of it.
- Theorem `Copies.unique`: the length determines them.
-/

namespace SctpConformance.Library

/-! ## Loops -/

section

variable {σ : Type*} (continues : σ → Prop) [DecidablePred continues] (body : σ → σ)

/-- `while (continues) body`, if it ends within so many turns. -/
def runLoop : Nat → σ → Option σ
  | 0, s => if continues s then none else some s
  | turns + 1, s => if continues s then runLoop turns (body s) else some s

variable {continues body}

/-- A loop that does not go on has its result, whatever the number of turns. -/
theorem runLoop_done {s : σ} (h : ¬continues s) (turns : Nat) :
    runLoop continues body turns s = some s := by
  cases turns with
  | zero => rw [runLoop, if_neg h]
  | succ turns => rw [runLoop, if_neg h]

/-- As long as the condition holds, a turn is the body and the turns that remain. -/
theorem runLoop_turn {s : σ} (h : continues s) (turns : Nat) :
    runLoop continues body (turns + 1) s = runLoop continues body turns (body s) := by
  rw [runLoop, if_pos h]

/-- A loop ends whose measure gets smaller in every turn, on the states that its body
leads through. -/
theorem runLoop_ends {Keeps : σ → Prop} (hkeeps : ∀ s, Keeps s → continues s → Keeps (body s))
    (measure : σ → Nat) (hsmaller : ∀ s, Keeps s → continues s → measure (body s) < measure s)
    {turns : Nat} {s : σ} (hs : Keeps s) (hturns : measure s ≤ turns) :
    ∃ t, runLoop continues body turns s = some t := by
  induction turns generalizing s with
  | zero =>
      by_cases hcontinues : continues s
      · have hless := hsmaller s hs hcontinues
        omega
      · exact ⟨s, runLoop_done hcontinues 0⟩
  | succ turns ih =>
      by_cases hcontinues : continues s
      · rw [runLoop_turn hcontinues]
        have hless := hsmaller s hs hcontinues
        exact ih (hkeeps s hs hcontinues) (by omega)
      · exact ⟨s, runLoop_done hcontinues _⟩

/-- What the body keeps holds at the end, and the loop does not go on there. -/
theorem runLoop_keeps {Keeps : σ → Prop} (hkeeps : ∀ s, Keeps s → continues s → Keeps (body s))
    {turns : Nat} {s t : σ} (hs : Keeps s) (h : runLoop continues body turns s = some t) :
    Keeps t ∧ ¬continues t := by
  induction turns generalizing s with
  | zero =>
      by_cases hcontinues : continues s
      · rw [runLoop, if_pos hcontinues] at h
        contradiction
      · rw [runLoop_done hcontinues] at h
        cases h
        exact ⟨hs, hcontinues⟩
  | succ turns ih =>
      by_cases hcontinues : continues s
      · rw [runLoop_turn hcontinues] at h
        exact ih (hkeeps s hs hcontinues) h
      · rw [runLoop_done hcontinues] at h
        cases h
        exact ⟨hs, hcontinues⟩

end

/-! ## Copies -/

section

variable {α : Type*} {piece out part : List α}

/-- The list consists of copies of the piece, one after another; the last one can be
incomplete. -/
def Copies (piece out : List α) : Prop :=
  ∀ k < out.length, out[k]? = piece[k % piece.length]?

theorem Copies.nil (piece : List α) : Copies piece [] := by
  intro k hk
  contradiction

/-- Behind complete copies there is place for another one, or for its beginning. -/
theorem Copies.append (h : Copies piece out) (hwhole : piece.length ∣ out.length)
    (hpart : part <+: piece) : Copies piece (out ++ part) := by
  intro k hk
  rw [List.length_append] at hk
  rcases lt_or_ge k out.length with hfront | hback
  · rw [List.getElem?_append_left hfront, h k hfront]
  · have hshort := hpart.length_le
    rcases hwhole with ⟨copies, hcopies⟩
    have hmod : k % piece.length = k - out.length := by
      have hk' : k = k - out.length + piece.length * copies := by omega
      rw [hk', Nat.add_mul_mod_self_left, Nat.mod_eq_of_lt (by omega), ← hk']
    have hinside : k - out.length < part.length := by omega
    rw [List.getElem?_append_right hback, hmod, List.getElem?_eq_getElem hinside,
      List.prefix_iff_getElem?.mp hpart _ hinside]

/-- Another copy fits in front, too. -/
theorem Copies.copy_append (h : Copies piece out) : Copies piece (piece ++ out) := by
  intro k hk
  rw [List.length_append] at hk
  rcases lt_or_ge k piece.length with hfront | hback
  · rw [List.getElem?_append_left hfront, Nat.mod_eq_of_lt hfront]
  · rw [List.getElem?_append_right hback, h _ (by omega), Nat.mod_eq_sub_mod hback]

/-- A part of the first copy. -/
theorem Copies.of_initial (h : part <+: piece) : Copies piece part :=
  (Copies.nil piece).append (Nat.dvd_zero _) h

/-- The first copy comes first. -/
theorem Copies.initial (h : Copies piece out) (hlength : piece.length ≤ out.length) :
    piece <+: out := by
  rw [List.prefix_iff_getElem?]
  intro k hk
  rw [h k (lt_of_lt_of_le hk hlength), Nat.mod_eq_of_lt hk, List.getElem?_eq_getElem hk]

/-- There is one list of copies of each length. -/
theorem Copies.unique {out' : List α} (h : Copies piece out) (h' : Copies piece out')
    (hlength : out.length = out'.length) : out = out' := by
  apply List.ext_getElem?
  intro k
  rcases lt_or_ge k out.length with hk | hk
  · rw [h k hk, h' k (hlength ▸ hk)]
  · rw [List.getElem?_eq_none hk, List.getElem?_eq_none (hlength ▸ hk)]

end

end SctpConformance.Library
