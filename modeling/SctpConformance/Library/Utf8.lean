import Mathlib.Data.List.Basic
import Mathlib.Tactic.Common

/-!
# Texts in UTF-8

Byte strings that are the encoding of some characters.  Bytes below 0x80 encode
characters by themselves and occur in no other encoding, so a text can be cut at
any of them.

Main results:

- Definition `IsUtf8`.
- Theorem `IsUtf8.split`: a text can be cut before and after an ASCII byte.
- Theorem `IsUtf8.lt`: the bytes from 0xF8 on occur in no text.
-/

namespace SctpConformance.Library

/-- A condition on the bytes of a list is decided along the list, not over all bytes. -/
instance (priority := 2000) decidableForallByte (p : UInt8 → Prop) [DecidablePred p]
    (bytes : List UInt8) : Decidable (∀ b ∈ bytes, p b) :=
  List.decidableBAll p bytes

/-- The same for characters. -/
instance (priority := 2000) decidableForallChar (p : Char → Prop) [DecidablePred p]
    (chars : List Char) : Decidable (∀ ch ∈ chars, p ch) :=
  List.decidableBAll p chars

/-- The bytes encode a sequence of characters. -/
def IsUtf8 (bytes : List UInt8) : Prop :=
  ∃ chars : List Char, chars.flatMap String.utf8EncodeChar = bytes

theorem isUtf8_nil : IsUtf8 [] :=
  ⟨[], rfl⟩

/-- The encoding of a character is in UTF-8. -/
theorem isUtf8_char (c : Char) : IsUtf8 (String.utf8EncodeChar c) :=
  ⟨[c], by simp⟩

/-- Texts in UTF-8 can be put together. -/
theorem IsUtf8.append {s t : List UInt8} (hs : IsUtf8 s) (ht : IsUtf8 t) : IsUtf8 (s ++ t) := by
  rcases hs with ⟨chars, rfl⟩
  rcases ht with ⟨chars', rfl⟩
  exact ⟨chars ++ chars', by simp⟩

/-! ## Encodings of one character -/

/-- A number below `0xF8` is a byte of the same value. -/
theorem ofNat_lead {n : Nat} (hlow : 0x80 ≤ n) (hhigh : n < 0xF8) :
    0x80 ≤ UInt8.ofNat n ∧ UInt8.ofNat n < 0xF8 := by
  have hsize : n < UInt8.size := Nat.lt_trans hhigh (by decide)
  constructor
  · rw [UInt8.le_iff_toNat_le, UInt8.toNat_ofNat_of_lt' hsize]
    exact hlow
  · rw [UInt8.lt_iff_toNat_lt, UInt8.toNat_ofNat_of_lt' hsize]
    exact hhigh

/-- An ASCII character is encoded by one byte, any other one by bytes from 0x80 on. -/
theorem utf8EncodeChar_cases (c : Char) :
    (∃ b : UInt8, b < 0x80 ∧ String.utf8EncodeChar c = [b]) ∨
      ∀ b ∈ String.utf8EncodeChar c, 0x80 ≤ b ∧ b < 0xF8 := by
  unfold String.utf8EncodeChar
  dsimp only
  generalize c.val.toNat = v
  by_cases h₁ : v ≤ 127
  · left
    have hsize : v < UInt8.size := Nat.lt_of_le_of_lt h₁ (by decide)
    refine ⟨UInt8.ofNat v, ?_, if_pos h₁⟩
    rw [UInt8.lt_iff_toNat_lt, UInt8.toNat_ofNat_of_lt' hsize]
    exact Nat.lt_succ_of_le h₁
  · right
    rw [if_neg h₁]
    split
    · intro b hb
      simp only [List.mem_cons, List.not_mem_nil, or_false] at hb
      rcases hb with rfl | rfl <;> exact ofNat_lead (by omega) (by omega)
    · split
      · intro b hb
        simp only [List.mem_cons, List.not_mem_nil, or_false] at hb
        rcases hb with rfl | rfl | rfl <;> exact ofNat_lead (by omega) (by omega)
      · intro b hb
        simp only [List.mem_cons, List.not_mem_nil, or_false] at hb
        rcases hb with rfl | rfl | rfl | rfl <;> exact ofNat_lead (by omega) (by omega)

/-- An ASCII character is encoded as its own byte. -/
theorem utf8EncodeChar_ascii {b : UInt8} (h : b < 0x80) :
    String.utf8EncodeChar (Char.ofNat b.toNat) = [b] := by
  have hlt : b.toNat < 128 := UInt8.lt_iff_toNat_lt.mp h
  have hval : (Char.ofNat b.toNat).val.toNat = b.toNat := by
    rw [Char.ofNat, dif_pos (Or.inl (by omega))]
    rfl
  unfold String.utf8EncodeChar
  dsimp only
  rw [hval, if_pos (by omega), UInt8.ofNat_toNat]

/-- ASCII bytes are texts. -/
theorem isUtf8_ascii {bytes : List UInt8} (h : ∀ b ∈ bytes, b < 0x80) : IsUtf8 bytes := by
  induction bytes with
  | nil => exact isUtf8_nil
  | cons b bytes ih =>
      have hrest : ∀ b ∈ bytes, b < 0x80 := by
        intro b' hb'
        exact h b' (List.mem_cons_of_mem _ hb')
      have hfirst : IsUtf8 [b] := by
        rw [← utf8EncodeChar_ascii (h b List.mem_cons_self)]
        exact isUtf8_char _
      exact hfirst.append (ih hrest)

/-! ## Cutting -/

/-- Where a text contains an ASCII byte, what is before it and what is after it are texts. -/
theorem IsUtf8.split {s t : List UInt8} {b : UInt8} (hb : b < 0x80) (h : IsUtf8 (s ++ b :: t)) :
    IsUtf8 s ∧ IsUtf8 t := by
  rcases h with ⟨chars, hchars⟩
  induction chars generalizing s with
  | nil =>
      have hlength := congrArg List.length hchars
      simp at hlength
  | cons c chars ih =>
      rw [List.flatMap_cons] at hchars
      rcases utf8EncodeChar_cases c with ⟨b', -, hc⟩ | hc
      · cases s with
        | nil =>
            rw [hc] at hchars
            exact ⟨isUtf8_nil, chars, (List.cons.inj hchars).2⟩
        | cons x s =>
            rw [hc] at hchars
            rcases List.cons.inj hchars with ⟨rfl, hrest⟩
            rcases ih hrest with ⟨hs, ht⟩
            refine ⟨?_, ht⟩
            have hfirst := (isUtf8_char c).append hs
            rwa [hc] at hfirst
      · -- The byte is in no encoding of more than one byte, so it comes after `c`.
        have hinside : String.utf8EncodeChar c <+: s := by
          rw [List.append_eq_append_iff] at hchars
          rcases hchars with ⟨s', rfl, -⟩ | ⟨c', hinside, htail⟩
          · exact List.prefix_append _ _
          · cases c' with
            | nil =>
                rw [List.append_nil] at hinside
                exact ⟨[], by rw [List.append_nil, hinside]⟩
            | cons x c' =>
                have hx : x = b := (List.cons.inj htail).1.symm
                have hmem : x ∈ String.utf8EncodeChar c := by
                  rw [hinside]
                  simp
                have hle := (hc x hmem).1
                rw [hx] at hle
                exact absurd hb (UInt8.not_lt.mpr hle)
        rcases hinside with ⟨s', rfl⟩
        rw [List.append_assoc] at hchars
        rcases ih (List.append_cancel_left hchars) with ⟨hs', ht⟩
        exact ⟨(isUtf8_char c).append hs', ht⟩

/-- The rest of a text behind an ASCII byte. -/
theorem IsUtf8.tail {b : UInt8} {t : List UInt8} (hb : b < 0x80) (h : IsUtf8 (b :: t)) :
    IsUtf8 t :=
  (IsUtf8.split hb (s := []) h).2

/-- ASCII bytes at the beginning can be removed. -/
theorem IsUtf8.drop_ascii {s t : List UInt8} (hs : ∀ b ∈ s, b < 0x80) (h : IsUtf8 (s ++ t)) :
    IsUtf8 t := by
  induction s with
  | nil => exact h
  | cons b s ih =>
      have hrest : ∀ b ∈ s, b < 0x80 := by
        intro b' hb'
        exact hs b' (List.mem_cons_of_mem _ hb')
      exact ih hrest (h.tail (hs b List.mem_cons_self))

/-- The bytes from 0xF8 on occur in no text. -/
theorem IsUtf8.lt {s : List UInt8} (h : IsUtf8 s) {b : UInt8} (hb : b ∈ s) : b < 0xF8 := by
  rcases h with ⟨chars, rfl⟩
  rcases List.mem_flatMap.mp hb with ⟨c, -, hc⟩
  rcases utf8EncodeChar_cases c with ⟨b', hlt, hsingle⟩ | hlead
  · rw [hsingle, List.mem_singleton] at hc
    rw [hc]
    exact UInt8.lt_trans hlt (by decide)
  · exact (hlead b hc).2

end SctpConformance.Library
