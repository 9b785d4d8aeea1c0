import Mathlib.Data.List.Basic
import Mathlib.Data.List.Perm.Basic

/-!
# Custody of names

Places that hold names, such as threads and records that hold the numbers of
open descriptors.  Custody is exclusive when no place holds a name twice and no
two places hold the same name.  What moves between two places, or is given up,
leaves custody exclusive; so does a name that nobody held before.

Main results:

- Theorem `Exclusive.exchange`: names move between two places, or out of them.
- Theorem `Exclusive.acquire`: a place takes a name that nobody holds.
- Theorem `Exclusive.giveUp`: places give up names.
- Theorem `Exclusive.eq_of_mem`: a name determines the place that holds it.
-/

namespace SctpConformance.Library

variable {Place Name : Type*}

/-- No name is held twice, neither by one place nor by two. -/
structure Exclusive (holds : Place → List Name) : Prop where
  nodup : ∀ a, (holds a).Nodup
  disjoint : ∀ a b, a ≠ b → ∀ n ∈ holds a, n ∉ holds b

namespace Exclusive

variable {holds holds' : Place → List Name} {a b : Place} {n : Name}

/-- A name determines the place that holds it. -/
theorem eq_of_mem (h : Exclusive holds) (ha : n ∈ holds a) (hb : n ∈ holds b) : a = b := by
  by_contra hne
  exact h.disjoint a b hne n ha hb

/-- Two places together hold no name twice. -/
theorem nodup_append (h : Exclusive holds) (hab : a ≠ b) : (holds a ++ holds b).Nodup := by
  refine List.nodup_append.mpr ⟨h.nodup a, h.nodup b, ?_⟩
  intro n ha m hb hnm
  subst hnm
  exact h.disjoint a b hab n ha hb

/-- A list that fits into one without repetitions has none. -/
theorem nodup_of_subperm {l l' : List Name} (h : l.Subperm l') (hl : l'.Nodup) : l.Nodup := by
  rcases h with ⟨m, hm, hsub⟩
  exact hm.nodup_iff.mp (hl.sublist hsub)

/-- Names that move between two places, or are given up by them, stay in
exclusive custody. -/
theorem exchange (h : Exclusive holds) (hab : a ≠ b)
    (hrest : ∀ d, d ≠ a → d ≠ b → holds' d = holds d)
    (hsub : (holds' a ++ holds' b).Subperm (holds a ++ holds b)) : Exclusive holds' := by
  have hnodup := nodup_of_subperm hsub (h.nodup_append hab)
  rcases List.nodup_append.mp hnodup with ⟨hnodupa, hnodupb, hapart⟩
  have houtside : ∀ d, d ≠ a → d ≠ b → ∀ n, n ∈ holds' a ++ holds' b → n ∉ holds d := by
    intro d hda hdb n hn hd
    rcases List.mem_append.mp (hsub.subset hn) with ha | hb
    · exact h.disjoint d a hda n hd ha
    · exact h.disjoint d b hdb n hd hb
  constructor
  · intro d
    by_cases hda : d = a
    · rw [hda]
      exact hnodupa
    · by_cases hdb : d = b
      · rw [hdb]
        exact hnodupb
      · rw [hrest d hda hdb]
        exact h.nodup d
  · intro d e hde n hd he
    by_cases hin : d = a ∨ d = b
    · have hmem : n ∈ holds' a ++ holds' b := by
        rcases hin with rfl | rfl
        · exact List.mem_append_left _ hd
        · exact List.mem_append_right _ hd
      by_cases hein : e = a ∨ e = b
      · rcases hin with rfl | rfl <;> rcases hein with rfl | rfl
        · exact hde rfl
        · exact hapart n hd n he rfl
        · exact hapart n he n hd rfl
        · exact hde rfl
      · rw [not_or] at hein
        rw [hrest e hein.1 hein.2] at he
        exact houtside e hein.1 hein.2 n hmem he
    · rw [not_or] at hin
      rw [hrest d hin.1 hin.2] at hd
      by_cases hein : e = a ∨ e = b
      · have hmem : n ∈ holds' a ++ holds' b := by
          rcases hein with rfl | rfl
          · exact List.mem_append_left _ he
          · exact List.mem_append_right _ he
        exact houtside d hin.1 hin.2 n hmem hd
      · rw [not_or] at hein
        rw [hrest e hein.1 hein.2] at he
        exact h.disjoint d e hde n hd he

/-- A place may take a name that nobody holds. -/
theorem acquire (h : Exclusive holds) (hfresh : ∀ d, n ∉ holds d)
    (hrest : ∀ d, d ≠ a → holds' d = holds d) (hsub : (holds' a).Subperm (n :: holds a)) :
    Exclusive holds' := by
  have hall : ∀ d, d ≠ a → ∀ m ∈ holds' a, m ∉ holds d := by
    intro d hda m hm hd
    rcases List.mem_cons.mp (hsub.subset hm) with rfl | ha
    · exact hfresh d hd
    · exact h.disjoint d a hda m hd ha
  constructor
  · intro d
    by_cases hda : d = a
    · rw [hda]
      exact nodup_of_subperm hsub (List.nodup_cons.mpr ⟨hfresh a, h.nodup a⟩)
    · rw [hrest d hda]
      exact h.nodup d
  · intro d e hde m hd he
    by_cases hda : d = a
    · subst hda
      have hed : e ≠ d := fun heq => hde heq.symm
      rw [hrest e hed] at he
      exact hall e hed m hd he
    · rw [hrest d hda] at hd
      by_cases hea : e = a
      · subst hea
        exact hall d hda m he hd
      · rw [hrest e hea] at he
        exact h.disjoint d e hde m hd he

/-- Places may give up names. -/
theorem giveUp (h : Exclusive holds) (hsub : ∀ d, (holds' d).Subperm (holds d)) :
    Exclusive holds' := by
  constructor
  · intro d
    exact nodup_of_subperm (hsub d) (h.nodup d)
  · intro d e hde m hd he
    exact h.disjoint d e hde m ((hsub d).subset hd) ((hsub e).subset he)

end Exclusive

end SctpConformance.Library
