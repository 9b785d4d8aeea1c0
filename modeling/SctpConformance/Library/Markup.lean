import SctpConformance.Library.Fields
import SctpConformance.Library.Json
import Mathlib.Data.List.Forall2

/-!
# Markup

A scanner for the tags of a page and the boundaries of their attribute values, and
the relation of two pages that differ in nothing else.  Texts without markup bytes
may stand between tags or in a value.

Main results:

- Definition `skeleton`: the tags and attribute boundaries of a page.
- Definition `unescape`: the text that character references stand for.
- Theorem `Alike.append`: pieces that are alike make pages that are alike.
- Theorems `alike_plain` and `alike_plain_value`: texts that leave no trace.
- Definition `elements`: the tags of a page, each with the text behind it.
- Theorem `elements_tag`: a tag is read with the text up to the next one.
-/

namespace SctpConformance.Library

/-! ## Character references -/

/-- The text that the references for `&`, `<`, `>`, `"` and `'` stand for. -/
def unescape : Bytes → Bytes
  | [] => []
  | 38 :: 97 :: 109 :: 112 :: 59 :: rest => 38 :: unescape rest
  | 38 :: 108 :: 116 :: 59 :: rest => 60 :: unescape rest
  | 38 :: 103 :: 116 :: 59 :: rest => 62 :: unescape rest
  | 38 :: 113 :: 117 :: 111 :: 116 :: 59 :: rest => 34 :: unescape rest
  | 38 :: 35 :: 51 :: 57 :: 59 :: rest => 39 :: unescape rest
  | ch :: rest => ch :: unescape rest

/-- A text without the bytes that begin or end tags and values. -/
def Plain (text : Bytes) : Prop :=
  ∀ ch ∈ text, ch ≠ 60 ∧ ch ≠ 62 ∧ ch ≠ 34 ∧ ch ≠ 39

/-- A byte other than `&` stands for itself. -/
theorem unescape_cons {ch : UInt8} (h : ch ≠ 38) (rest : Bytes) :
    unescape (ch :: rest) = ch :: unescape rest := by
  rw [unescape.eq_def]
  split <;> simp_all

/-! ## Tags and attribute boundaries -/

/-- Where a scanner stands: between tags, in a tag, or in a quoted value. -/
inductive Mode where
  | text
  | tag
  | value (quote : UInt8)
deriving DecidableEq

/-- What a byte makes of the mode: `<`, `>` and the quotes of a value change it. -/
def Mode.step : Mode → UInt8 → Mode
  | .text, ch => if ch = 60 then .tag else .text
  | .tag, ch => if ch = 62 then .text else if ch = 34 ∨ ch = 39 then .value ch else .tag
  | .value quote, ch => if ch = quote then .tag else .value quote

/-- Whether a byte belongs to a tag or ends a value. -/
def Mode.marks : Mode → UInt8 → Bool
  | .text, ch => ch = 60
  | .tag, _ => true
  | .value quote, ch => ch = quote

/-- The mode behind a text. -/
def Mode.after (mode : Mode) (text : Bytes) : Mode :=
  text.foldl step mode

/-- The bytes of tags and the quotes of values, from a mode on. -/
def skeletonFrom : Mode → Bytes → Bytes
  | _, [] => []
  | mode, ch :: rest =>
      if mode.marks ch then ch :: skeletonFrom (mode.step ch) rest
      else skeletonFrom (mode.step ch) rest

/-- The tags of a page with the boundaries of their attribute values, in order. -/
def skeleton (page : Bytes) : Bytes :=
  skeletonFrom .text page

/-- The mode after two texts, one behind the other. -/
theorem Mode.after_append (mode : Mode) (front back : Bytes) :
    mode.after (front ++ back) = (mode.after front).after back :=
  List.foldl_append

/-- The skeleton of two texts, one behind the other. -/
theorem skeletonFrom_append (mode : Mode) (front back : Bytes) :
    skeletonFrom mode (front ++ back) =
      skeletonFrom mode front ++ skeletonFrom (mode.after front) back := by
  induction front generalizing mode with
  | nil => rfl
  | cons ch front ih =>
      rw [List.cons_append, skeletonFrom, skeletonFrom, ih]
      split
      · rfl
      · rfl

/-- No tag begins without its first byte. -/
theorem Mode.after_text {text : Bytes} (h : (60 : UInt8) ∉ text) : Mode.text.after text = .text := by
  induction text with
  | nil => rfl
  | cons ch text ih =>
      rw [List.mem_cons, not_or] at h
      have hstep : Mode.text.step ch = .text := if_neg fun hch => h.1 hch.symm
      rw [Mode.after, List.foldl_cons, hstep]
      exact ih h.2

/-- A plain text between tags leaves no trace. -/
theorem skeletonFrom_plain {text : Bytes} (h : Plain text) :
    Mode.text.after text = .text ∧ skeletonFrom .text text = [] := by
  induction text with
  | nil => exact ⟨rfl, rfl⟩
  | cons ch text ih =>
      have hch := (h ch List.mem_cons_self).1
      rcases ih fun c hc => h c (List.mem_cons_of_mem ch hc) with ⟨hmode, hskeleton⟩
      have hstep : Mode.text.step ch = .text := if_neg hch
      have hmark : Mode.text.marks ch = false := by simp [Mode.marks, hch]
      constructor
      · rw [Mode.after, List.foldl_cons, hstep]
        exact hmode
      · rw [skeletonFrom, hmark, hstep, hskeleton]
        rfl

/-- Nor does a plain text in a value with double quotes. -/
theorem skeletonFrom_plain_value {text : Bytes} (h : Plain text) :
    (Mode.value 34).after text = .value 34 ∧ skeletonFrom (.value 34) text = [] := by
  induction text with
  | nil => exact ⟨rfl, rfl⟩
  | cons ch text ih =>
      have hch := (h ch List.mem_cons_self).2.2.1
      rcases ih fun c hc => h c (List.mem_cons_of_mem ch hc) with ⟨hmode, hskeleton⟩
      have hstep : (Mode.value 34).step ch = .value 34 := if_neg hch
      have hmark : (Mode.value 34).marks ch = false := by simp [Mode.marks, hch]
      constructor
      · rw [Mode.after, List.foldl_cons, hstep]
        exact hmode
      · rw [skeletonFrom, hmark, hstep, hskeleton]
        rfl

/-! ## Pages that are alike -/

/-- Two texts lead from one mode to another with the same tags and attribute
boundaries. -/
structure Alike (mode mode' : Mode) (text text' : Bytes) : Prop where
  left : mode.after text = mode'
  right : mode.after text' = mode'
  same : skeletonFrom mode text = skeletonFrom mode text'

/-- Every text is like itself. -/
theorem Alike.refl {mode mode' : Mode} {text : Bytes} (h : mode.after text = mode') :
    Alike mode mode' text text :=
  ⟨h, h, rfl⟩

/-- Texts that are alike stay so with texts that are alike behind them. -/
theorem Alike.append {mode mode' mode'' : Mode} {front front' back back' : Bytes}
    (hfront : Alike mode mode' front front') (hback : Alike mode' mode'' back back') :
    Alike mode mode'' (front ++ back) (front' ++ back') where
  left := by rw [Mode.after_append, hfront.left, hback.left]
  right := by rw [Mode.after_append, hfront.right, hback.right]
  same := by
    rw [skeletonFrom_append, skeletonFrom_append, hfront.left, hfront.right, hfront.same,
      hback.same]

/-- Plain texts between tags are alike. -/
theorem alike_plain {text text' : Bytes} (h : Plain text) (h' : Plain text') :
    Alike .text .text text text' where
  left := (skeletonFrom_plain h).1
  right := (skeletonFrom_plain h').1
  same := by rw [(skeletonFrom_plain h).2, (skeletonFrom_plain h').2]

/-- Plain texts are alike inside a value. -/
theorem alike_plain_value {text text' : Bytes} (h : Plain text) (h' : Plain text') :
    Alike (.value 34) (.value 34) text text' where
  left := (skeletonFrom_plain_value h).1
  right := (skeletonFrom_plain_value h').1
  same := by rw [(skeletonFrom_plain_value h).2, (skeletonFrom_plain_value h').2]

/-- Lists of pieces that are alike one by one. -/
theorem alike_flatten {pieces pieces' : List Bytes}
    (h : List.Forall₂ (Alike .text .text) pieces pieces') :
    Alike .text .text pieces.flatten pieces'.flatten := by
  induction h with
  | nil => exact Alike.refl rfl
  | cons hfirst _ ih =>
      rw [List.flatten_cons, List.flatten_cons]
      exact hfirst.append ih

/-- Pages that are alike have the same skeleton. -/
theorem Alike.skeleton_eq {mode : Mode} {page page' : Bytes} (h : Alike .text mode page page') :
    skeleton page = skeleton page' :=
  h.same

/-! ## Elements -/

/-- The tags of a page without their angle brackets, each with the text up to the next tag,
for a page in which these brackets stand around tags only. -/
def elements (page : Bytes) : List (Bytes × Bytes) :=
  (page.splitOn 60).tail.filterMap (splitFirst 62)

/-- What stands in front of the first tag is no element. -/
theorem elements_text {text : Bytes} (h : (60 : UInt8) ∉ text) (rest : Bytes) :
    elements (text ++ rest) = elements rest := by
  induction text with
  | nil => rfl
  | cons ch text ih =>
      rw [List.mem_cons, not_or] at h
      have hch : (ch == 60) = false := beq_eq_false_iff_ne.mpr (Ne.symm h.1)
      have hsplit := ih h.2
      unfold elements at hsplit ⊢
      rw [List.cons_append, List.splitOn_cons_eq_if_modifyHead, hch, ← hsplit]
      cases (text ++ rest).splitOn 60 <;> rfl

/-- The piece up to the next tag, and the pieces behind it. -/
theorem splitOn_append {piece : Bytes} (h : (60 : UInt8) ∉ piece) (rest : Bytes) :
    (piece ++ rest).splitOn 60 =
      (piece ++ rest.takeWhile (· ≠ 60)) :: (rest.splitOn 60).tail := by
  have hpiece : ∀ text : Bytes, (60 : UInt8) ∉ text → ∀ back : Bytes,
      (text ++ 60 :: back).splitOn 60 = text :: back.splitOn 60 := fun text htext back =>
    List.splitOn_append_cons_self_of_not_mem htext back
  cases hrest : rest.splitOn 60 with
  | nil => exact absurd hrest (List.splitOn_ne_nil 60 rest)
  | cons front pieces =>
      by_cases hmem : (60 : UInt8) ∈ rest
      · rcases List.eq_append_cons_of_mem hmem with ⟨text, back, rfl, htext⟩
        have htake : (text ++ 60 :: back).takeWhile (· ≠ 60) = text := by
          rw [List.takeWhile_append_of_pos]
          · simp
          · intro ch hch
            simpa using fun heq : ch = 60 => htext (heq ▸ hch)
        rw [hpiece text htext back] at hrest
        cases hrest
        rw [htake, ← List.append_assoc, hpiece _ (by simp [h, htext]) back, List.tail_cons]
      · rw [List.splitOn_eq_singleton hmem] at hrest
        cases hrest
        have htake : rest.takeWhile (· ≠ 60) = rest := by
          rw [List.takeWhile_eq_self_iff]
          intro ch hch
          simpa using fun heq : ch = 60 => hmem (heq ▸ hch)
        rw [htake, List.splitOn_eq_singleton (by simp [h, hmem]), List.tail_cons]

/-- A tag is read with the text up to the next one. -/
theorem elements_tag {tag text : Bytes} (htag : (60 : UInt8) ∉ tag) (hend : (62 : UInt8) ∉ tag)
    (htext : (60 : UInt8) ∉ text) (rest : Bytes) :
    elements (60 :: (tag ++ 62 :: text) ++ rest) =
      (tag, text ++ rest.takeWhile (· ≠ 60)) :: elements rest := by
  have hpiece : (60 : UInt8) ∉ tag ++ 62 :: text := by
    simp [htag, htext]
  have hsplit : splitFirst 62 (tag ++ 62 :: text ++ rest.takeWhile (· ≠ 60)) =
      some (tag, text ++ rest.takeWhile (· ≠ 60)) := by
    rw [List.append_assoc, List.cons_append]
    exact splitFirst_append hend
  unfold elements
  rw [List.cons_append, List.splitOn_cons_eq_if_modifyHead, if_pos (by rfl), List.tail_cons,
    splitOn_append hpiece, List.filterMap_cons_some hsplit]

/-- A text is what stands in front of its first tag, and its pieces. -/
theorem eq_append_pieces (text : Bytes) :
    ∃ front pieces, text.splitOn 60 = front :: pieces ∧ (60 : UInt8) ∉ front ∧
      (∀ piece ∈ pieces, (60 : UInt8) ∉ piece) ∧
      text = front ++ (pieces.map fun piece => 60 :: piece).flatten := by
  induction text with
  | nil => exact ⟨[], [], rfl, by simp, by simp, rfl⟩
  | cons ch text ih =>
      rcases ih with ⟨front, pieces, hsplit, hfront, hpieces, htext⟩
      by_cases hch : ch = 60
      · subst hch
        refine ⟨[], front :: pieces, ?_, by simp, ?_, ?_⟩
        · rw [List.splitOn_cons_eq_if_modifyHead, if_pos (by rfl), hsplit]
        · exact List.forall_mem_cons.mpr ⟨hfront, hpieces⟩
        · rw [List.map_cons, List.flatten_cons, List.nil_append, List.cons_append, ← htext]
      · refine ⟨ch :: front, pieces, ?_, ?_, hpieces, ?_⟩
        · rw [List.splitOn_cons_eq_if_modifyHead, if_neg (by simpa using hch), hsplit]
          rfl
        · rw [List.mem_cons, not_or]
          exact ⟨Ne.symm hch, hfront⟩
        · rw [List.cons_append, ← htext]

end SctpConformance.Library
