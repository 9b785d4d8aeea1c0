import Mathlib.Data.List.Basic
import Mathlib.Data.List.Forall2
import Mathlib.Data.List.Infix
import Mathlib.Data.List.TakeWhile

/-!
# Separated fields

Texts that are cut at a separator: at its first or its last occurrence, or into the
non-empty fields between all of them.

Main results:

- Theorems `splitFirst_eq_some_iff` and `splitLast_eq_some_iff`: where a text is cut.
- Theorem `fields_append_sep`: fields split at a separator.
- Theorem `fields_terminated`: the fields of texts that end with separators.
- Theorem `readAll_eq_some_iff`: all items are read, each on its own.
- Theorem `trimBoth_spec`: what is left of a text without the blanks around it.
- Theorem `fields_of_initial`: an initial part of terminated texts has no more fields.
-/

namespace SctpConformance.Library

variable {α : Type} [DecidableEq α] {sep : α}

/-! ## One cut -/

/-- The parts before and behind the first separator. -/
def splitFirst (sep : α) : List α → Option (List α × List α)
  | [] => none
  | x :: text =>
      if x = sep then some ([], text)
      else (splitFirst sep text).map fun parts => (x :: parts.1, parts.2)

/-- The parts before and behind the last separator. -/
def splitLast (sep : α) (text : List α) : Option (List α × List α) :=
  (splitFirst sep text.reverse).map fun parts => (parts.2.reverse, parts.1.reverse)

/-- The first separator is the one with none in front of it. -/
theorem splitFirst_eq_some_iff {text front back : List α} :
    splitFirst sep text = some (front, back) ↔ text = front ++ sep :: back ∧ sep ∉ front := by
  induction text generalizing front with
  | nil => simp [splitFirst]
  | cons x text ih =>
      by_cases hx : x = sep
      · subst hx
        cases front with
        | nil => simp [splitFirst, eq_comm]
        | cons y front =>
            simp only [splitFirst, if_true, Option.some.injEq, Prod.mk.injEq, List.cons_append,
              List.cons.injEq, List.mem_cons, not_or]
            constructor
            · intro h
              cases h.1
            · intro h
              exact absurd h.1.1 h.2.1
      · cases front with
        | nil => simp [splitFirst, hx]
        | cons y front =>
            rw [splitFirst, if_neg hx]
            simp only [Option.map_eq_some_iff, Prod.exists, Prod.mk.injEq, List.cons.injEq,
              List.cons_append, List.mem_cons, not_or]
            constructor
            · rintro ⟨front', back', hsplit, ⟨rfl, rfl⟩, rfl⟩
              rcases ih.mp hsplit with ⟨rfl, hfront⟩
              exact ⟨⟨rfl, rfl⟩, Ne.symm hx, hfront⟩
            · rintro ⟨⟨rfl, rfl⟩, -, hfront⟩
              exact ⟨front, back, ih.mpr ⟨rfl, hfront⟩, ⟨rfl, rfl⟩, rfl⟩

/-- A text is cut again where it has been put together. -/
theorem splitFirst_append {front back : List α} (h : sep ∉ front) :
    splitFirst sep (front ++ sep :: back) = some (front, back) :=
  splitFirst_eq_some_iff.mpr ⟨rfl, h⟩

/-- Only a text without separators cannot be cut. -/
theorem splitFirst_eq_none_iff {text : List α} : splitFirst sep text = none ↔ sep ∉ text := by
  constructor
  · intro hnone hmem
    rcases List.eq_append_cons_of_mem hmem with ⟨front, back, htext, hfront⟩
    rw [htext, splitFirst_append hfront] at hnone
    contradiction
  · intro hmem
    cases hsplit : splitFirst sep text with
    | none => rfl
    | some parts =>
        rw [(splitFirst_eq_some_iff.mp hsplit).1] at hmem
        simp at hmem

/-- The last separator is the one with none behind it. -/
theorem splitLast_eq_some_iff {text front back : List α} :
    splitLast sep text = some (front, back) ↔ text = front ++ sep :: back ∧ sep ∉ back := by
  unfold splitLast
  simp only [Option.map_eq_some_iff, Prod.exists, Prod.mk.injEq]
  constructor
  · rintro ⟨back', front', hsplit, rfl, rfl⟩
    rcases splitFirst_eq_some_iff.mp hsplit with ⟨htext, hback⟩
    constructor
    · rw [← List.reverse_reverse text, htext]
      simp
    · simpa using hback
  · rintro ⟨rfl, hback⟩
    refine ⟨back.reverse, front.reverse, splitFirst_eq_some_iff.mpr ⟨?_, ?_⟩, ?_, ?_⟩
    · simp
    · simpa using hback
    · simp
    · simp

/-! ## All cuts -/

/-- The non-empty texts between separators. -/
def fields (sep : α) (text : List α) : List (List α) :=
  (text.splitOn sep).filter (· ≠ [])

@[simp]
theorem fields_nil : fields sep [] = [] := by
  simp [fields]

/-- Fields split at a separator. -/
theorem fields_append_sep (front back : List α) :
    fields sep (front ++ sep :: back) = fields sep front ++ fields sep back := by
  unfold fields
  rw [List.splitOn_append_cons_self, List.filter_append]

/-- A text without separators is one field. -/
theorem fields_whole {text : List α} (hne : text ≠ []) (h : sep ∉ text) :
    fields sep text = [text] := by
  unfold fields
  rw [List.splitOn_eq_singleton h]
  simp [hne]

/-- A separator at the beginning is passed over. -/
theorem fields_cons_sep (text : List α) : fields sep (sep :: text) = fields sep text := by
  have happend : fields sep ([] ++ sep :: text) = fields sep [] ++ fields sep text :=
    fields_append_sep [] text
  simpa using happend

/-- No piece contains the separator. -/
theorem not_mem_of_mem_splitOn {text piece : List α} (h : piece ∈ text.splitOn sep) :
    sep ∉ piece := by
  induction text generalizing piece with
  | nil => simp_all
  | cons x text ih =>
      rw [List.splitOn_cons_eq_if_modifyHead] at h
      split at h
      · rcases List.mem_cons.mp h with hnil | hrest
        · simp [hnil]
        · exact ih hrest
      · rename_i hx
        cases hpieces : text.splitOn sep with
        | nil => exact absurd hpieces (List.splitOn_ne_nil sep text)
        | cons first rest =>
            rw [hpieces, List.modifyHead_cons] at h
            rcases List.mem_cons.mp h with hfirst | hrest
            · subst hfirst
              have hnot := ih (hpieces ▸ List.mem_cons_self)
              simp only [List.mem_cons, not_or]
              exact ⟨fun heq => hx (beq_iff_eq.mpr heq.symm), hnot⟩
            · exact ih (hpieces ▸ List.mem_cons_of_mem first hrest)

/-- The pieces have no characters but those of the text. -/
theorem subset_of_mem_splitOn {text piece : List α} (h : piece ∈ text.splitOn sep) :
    piece ⊆ text := by
  have hpieces : ∀ pieces : List (List α), piece ∈ pieces →
      piece ⊆ [sep].intercalate pieces := by
    intro pieces hmem
    induction pieces with
    | nil => contradiction
    | cons first rest ih =>
        cases rest with
        | nil =>
            rw [List.mem_singleton.mp hmem, List.intercalate_singleton]
            exact List.Subset.refl first
        | cons second rest =>
            rw [List.intercalate_cons_cons]
            rcases List.mem_cons.mp hmem with hfirst | hrest
            · rw [hfirst]
              exact List.subset_append_of_subset_left _ (List.subset_append_left first [sep])
            · exact List.subset_append_of_subset_right _ (ih hrest)
  have hsubset := hpieces _ h
  rwa [List.intercalate_splitOn] at hsubset

/-- The fields have no characters but those of the text. -/
theorem subset_of_mem_fields {text field : List α} (h : field ∈ fields sep text) :
    field ⊆ text :=
  subset_of_mem_splitOn (List.mem_of_mem_filter h)

/-- The values of all items, if each can be read. -/
def readAll {β γ : Type} (read : β → Option γ) : List β → Option (List γ)
  | [] => some []
  | item :: items =>
      match read item with
      | none => none
      | some value => (readAll read items).map (value :: ·)

/-- All items are read exactly if each of them is. -/
theorem readAll_eq_some_iff {β γ : Type} {read : β → Option γ} {items : List β}
    {values : List γ} :
    readAll read items = some values ↔
      List.Forall₂ (fun item value => read item = some value) items values := by
  induction items generalizing values with
  | nil => simp [readAll, eq_comm]
  | cons item items ih =>
      rw [readAll, List.forall₂_cons_left_iff]
      cases read item with
      | none => simp
      | some value =>
          simp only [Option.map_eq_some_iff, Option.some.injEq, ih]
          constructor
          · rintro ⟨rest, hrest, rfl⟩
            exact ⟨value, rest, rfl, hrest, rfl⟩
          · rintro ⟨_, rest, rfl, hrest, rfl⟩
            exact ⟨rest, hrest, rfl⟩

/-- Each of the items can be read. -/
theorem exists_value {β γ : Type} {read : β → Option γ} {items : List β} {values : List γ}
    (h : List.Forall₂ (fun item value => read item = some value) items values) {item : β}
    (hitem : item ∈ items) : ∃ value, read item = some value := by
  induction h with
  | nil => contradiction
  | cons hfirst _ ih =>
      rcases List.mem_cons.mp hitem with heq | hrest
      · rw [heq]
        exact ⟨_, hfirst⟩
      · exact ih hrest

/-! ## Joined texts -/

/-- Texts that each end with a separator. -/
def terminated (sep : α) (items : List (List α)) : List α :=
  items.flatMap (· ++ [sep])

omit [DecidableEq α] in
/-- The last of the joined texts is the only one without a separator behind it. -/
theorem intercalate_concat (items : List (List α)) (last : List α) :
    [sep].intercalate (items ++ [last]) = terminated sep items ++ last := by
  induction items with
  | nil => simp [terminated]
  | cons item items ih =>
      cases items with
      | nil => simp [terminated]
      | cons next items =>
          rw [List.cons_append, List.cons_append, List.intercalate_cons_cons,
            ← List.cons_append, ih]
          simp [terminated]

/-- Items with a separator behind each of them are the first fields. -/
theorem fields_terminated {items : List (List α)} (hne : ∀ item ∈ items, item ≠ [])
    (hsep : ∀ item ∈ items, sep ∉ item) (text : List α) :
    fields sep (terminated sep items ++ text) = items ++ fields sep text := by
  induction items with
  | nil => rfl
  | cons item items ih =>
      have hitem := fields_whole (hne item List.mem_cons_self) (hsep item List.mem_cons_self)
      have htext : terminated sep (item :: items) ++ text =
          item ++ sep :: (terminated sep items ++ text) := by
        simp [terminated]
      rw [htext, fields_append_sep, hitem,
        ih (fun x hx => hne x (List.mem_cons_of_mem item hx))
          (fun x hx => hsep x (List.mem_cons_of_mem item hx))]
      rfl

omit [DecidableEq α] in
/-- An initial part of a text ends before a separator, or goes on behind it. -/
theorem prefix_append_sep {text front back : List α} (h : text <+: front ++ sep :: back) :
    text <+: front ∨ ∃ rest, text = front ++ sep :: rest ∧ rest <+: back := by
  rcases List.prefix_or_prefix_of_prefix h (List.prefix_append front _) with
    hinside | ⟨rest, rfl⟩
  · exact Or.inl hinside
  · rw [List.prefix_append_right_inj] at h
    cases rest with
    | nil =>
        rw [List.append_nil]
        exact Or.inl (List.prefix_refl front)
    | cons x rest =>
        rcases List.cons_prefix_cons.mp h with ⟨rfl, hrest⟩
        exact Or.inr ⟨rest, rfl, hrest⟩

/-- An initial part of terminated texts has at most as many fields as there are texts. -/
theorem fields_of_initial {items : List (List α)} (hsep : ∀ item ∈ items, sep ∉ item)
    {text : List α} (h : text <+: terminated sep items) :
    (fields sep text).length ≤ items.length := by
  induction items generalizing text with
  | nil =>
      have hnil : text = [] := by
        simpa [terminated] using h
      simp [hnil]
  | cons item items ih =>
      have hitem := hsep item List.mem_cons_self
      have hone : ∀ part : List α, sep ∉ part → (fields sep part).length ≤ 1 := by
        intro part hpart
        by_cases hne : part = []
        · simp [hne]
        · simp [fields_whole hne hpart]
      have hsplit : terminated sep (item :: items) = item ++ sep :: terminated sep items := by
        simp [terminated]
      rw [hsplit] at h
      rcases prefix_append_sep h with hinside | ⟨rest, rfl, hrest⟩
      · have hpart := hone text fun hmem => hitem (hinside.subset hmem)
        simp only [List.length_cons]
        omega
      · have hfirst := hone item hitem
        have hothers := ih (fun y hy => hsep y (List.mem_cons_of_mem item hy)) hrest
        rw [fields_append_sep, List.length_append, List.length_cons]
        omega

/-! ## Blanks around a text -/

section

variable {blanks : List (List α)}

/-- Remove blanks at the beginning, at most this many. -/
def trimFrontFrom (blanks : List (List α)) : Nat → List α → List α
  | 0, text => text
  | bound + 1, text =>
      match blanks.find? fun blank => blank.isPrefixOf text with
      | none => text
      | some blank => trimFrontFrom blanks bound (text.drop blank.length)

/-- Remove all blanks at the beginning. -/
def trimFront (blanks : List (List α)) (text : List α) : List α :=
  trimFrontFrom blanks text.length text

/-- Remove all blanks at the beginning and at the end. -/
def trimBoth (blanks : List (List α)) (text : List α) : List α :=
  (trimFront (blanks.map List.reverse) (trimFront blanks text).reverse).reverse

/-- Every element of the text is in one of the blanks. -/
def Blank (blanks : List (List α)) (text : List α) : Prop :=
  ∀ x ∈ text, ∃ blank ∈ blanks, x ∈ blank

/-- What is removed at the beginning is blank, and no blank is left there. -/
theorem trimFrontFrom_spec (hblanks : ∀ blank ∈ blanks, blank ≠ []) {bound : Nat}
    {text : List α} (hbound : text.length ≤ bound) :
    (∃ front, text = front ++ trimFrontFrom blanks bound text ∧ Blank blanks front) ∧
      ∀ blank ∈ blanks, ¬blank <+: trimFrontFrom blanks bound text := by
  induction bound generalizing text with
  | zero =>
      have hnil := List.length_eq_zero_iff.mp (Nat.le_zero.mp hbound)
      subst hnil
      refine ⟨⟨[], rfl, fun x hx => absurd hx List.not_mem_nil⟩, ?_⟩
      intro blank hblank hprefix
      exact hblanks blank hblank (List.prefix_nil.mp hprefix)
  | succ bound ih =>
      unfold trimFrontFrom
      cases hfind : blanks.find? fun blank => blank.isPrefixOf text with
      | none =>
          refine ⟨⟨[], rfl, fun x hx => absurd hx List.not_mem_nil⟩, ?_⟩
          intro blank hblank hprefix
          have hnot := List.find?_eq_none.mp hfind blank hblank
          exact hnot (List.isPrefixOf_iff_prefix.mpr hprefix)
      | some blank =>
          have hblank := List.mem_of_find?_eq_some hfind
          have hprefix : blank <+: text :=
            List.isPrefixOf_iff_prefix.mp (by simpa using List.find?_some hfind)
          rcases hprefix with ⟨rest, htext⟩
          subst htext
          have hpos := List.length_pos_of_ne_nil (hblanks blank hblank)
          rw [List.length_append] at hbound
          have hrest : rest.length ≤ bound := by omega
          rcases ih hrest with ⟨⟨front, hfront, hblankFront⟩, hnone⟩
          dsimp only
          rw [List.drop_left]
          refine ⟨⟨blank ++ front, ?_, ?_⟩, hnone⟩
          · rw [List.append_assoc, ← hfront]
          · intro x hx
            rcases List.mem_append.mp hx with hfirst | hothers
            · exact ⟨blank, hblank, hfirst⟩
            · exact hblankFront x hothers

/-- What is removed around a text is blank, and no blank is left at its beginning. -/
theorem trimBoth_spec (hblanks : ∀ blank ∈ blanks, blank ≠ []) (text : List α) :
    ∃ front back, text = front ++ trimBoth blanks text ++ back ∧ Blank blanks front ∧
      Blank blanks back ∧ (front = [] ↔ ∀ blank ∈ blanks, ¬blank <+: text) ∧
      ∀ blank ∈ blanks, ¬blank <+: trimBoth blanks text := by
  have hreversed : ∀ blank ∈ blanks.map List.reverse, blank ≠ [] := by
    intro blank hblank
    rcases List.mem_map.mp hblank with ⟨original, horiginal, rfl⟩
    simpa using hblanks original horiginal
  rcases trimFrontFrom_spec hblanks (le_refl text.length) with ⟨⟨front, hfront, hblank⟩, hnone⟩
  change text = front ++ trimFront blanks text at hfront
  change ∀ blank ∈ blanks, ¬blank <+: trimFront blanks text at hnone
  rcases trimFrontFrom_spec hreversed (le_refl (trimFront blanks text).reverse.length) with
    ⟨⟨back, hback, hblankBack⟩, -⟩
  have hmiddle : trimFront blanks text = trimBoth blanks text ++ back.reverse := by
    rw [← List.reverse_reverse (trimFront blanks text), hback, List.reverse_append]
    rfl
  refine ⟨front, back.reverse, ?_, hblank, ?_, ?_, ?_⟩
  · rw [List.append_assoc, ← hmiddle]
    exact hfront
  · intro x hx
    rcases hblankBack x (List.mem_reverse.mp hx) with ⟨blank, hmem, hx⟩
    rcases List.mem_map.mp hmem with ⟨original, horiginal, rfl⟩
    exact ⟨original, horiginal, List.mem_reverse.mp hx⟩
  · constructor
    · intro hnil blank hmem
      rw [hfront, hnil, List.nil_append]
      exact hnone blank hmem
    · intro hprefix
      have hkept : trimFront blanks text = text := by
        unfold trimFront
        cases hlength : text.length with
        | zero => rfl
        | succ bound =>
            have hfind : (blanks.find? fun blank => blank.isPrefixOf text) = none := by
              rw [List.find?_eq_none]
              intro blank hmem hblank
              exact hprefix blank hmem (List.isPrefixOf_iff_prefix.mp hblank)
            rw [trimFrontFrom, hfind]
      rw [hkept] at hfront
      simpa using hfront
  · intro blank hmem hprefix
    apply hnone blank hmem
    rw [hmiddle]
    exact hprefix.trans (List.prefix_append _ _)

end

end SctpConformance.Library
