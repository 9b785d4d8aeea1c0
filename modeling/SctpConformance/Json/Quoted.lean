import SctpConformance.Json.Emitted
import SctpConformance.Json.Strings

/-!
# What the encoder writes is read back

`json_quote` against `parse_json_string_value`.  Every escape that the encoder writes is
one of the escapes of the grammar, so the theorem about reading strings of the grammar
applies to every string of bytes, also to one that is not UTF-8.

Main results:

- Theorem `exists_escapePart`: the escape of a byte is a part of a string of the grammar
  and stands for this byte.
- Theorem `jsonQuote_roundTrip`: the decoder undoes the encoder, whatever follows.
-/

namespace SctpConformance

open Library

/-! ## The escape of one byte -/

/-- The digits of an escape are hexadecimal digits. -/
theorem isHexDigit_hexDigit {n : Nat} (h : n < 16) : IsHexDigit (hexDigit n) := by
  have hall : ∀ n < 16, IsHexDigit (hexDigit n) := by decide
  exact hall n h

/-- They stand for the numbers that they were written for. -/
theorem value_hexDigit {n : Nat} (h : n < 16) :
    HexDigit.value ⟨hexDigit n, isHexDigit_hexDigit h⟩ = n := by
  have hall : ∀ n < 16, ∀ hdigit : IsHexDigit (hexDigit n),
      HexDigit.value ⟨hexDigit n, hdigit⟩ = n := by
    decide
  exact hall n h _

/-- The escape of a control byte, which names it with four digits. -/
theorem exists_unicodePart {ch : UInt8} (h : ch < 32) :
    ∃ part : StringPart,
      part.text = [92, 117, 48, 48, hexDigit (ch.toNat / 16), hexDigit (ch.toNat % 16)] ∧
      part.meaning = [ch] ∧ part.plain = true := by
  have hlt : ch.toNat < 32 := UInt8.lt_iff_toNat_lt.mp h
  have hhigh : ch.toNat / 16 < 16 := by omega
  have hlow : ch.toNat % 16 < 16 := Nat.mod_lt _ (by omega)
  let zero : HexDigit := ⟨48, by decide⟩
  let high : HexDigit := ⟨hexDigit (ch.toNat / 16), isHexDigit_hexDigit hhigh⟩
  let low : HexDigit := ⟨hexDigit (ch.toNat % 16), isHexDigit_hexDigit hlow⟩
  have hcode : codePoint zero zero high low = ch.toNat := by
    have hzero : zero.value = 0 := by decide
    rw [codePoint, hzero, value_hexDigit hhigh, value_hexDigit hlow]
    omega
  have hencode : ∀ n < 32, String.utf8EncodeChar (Char.ofNat n) = [UInt8.ofNat n] := by
    decide
  refine ⟨.unicode zero zero high low, rfl, ?_, ?_⟩
  · rw [StringPart.meaning, hcode, hencode _ hlt, UInt8.ofNat_toNat]
  · rw [StringPart.plain, hcode]
    apply decide_eq_true
    unfold IsSurrogate
    omega

/-- The escape of a byte is a part of a string of the grammar and stands for this byte. -/
theorem exists_escapePart (ch : UInt8) :
    ∃ part : StringPart, part.text = jsonEscapeByte ch ∧ part.meaning = [ch] ∧
      part.plain = true := by
  unfold jsonEscapeByte
  split
  · rename_i h
    exact ⟨.escape .backslash, rfl, by rw [h]; rfl, rfl⟩
  · rename_i hbackslash
    split
    · rename_i h
      exact ⟨.escape .quote, rfl, by rw [h]; rfl, rfl⟩
    · rename_i hquote
      split
      · rename_i h
        exact ⟨.escape .n, rfl, by rw [h]; rfl, rfl⟩
      · split
        · rename_i h
          exact ⟨.escape .r, rfl, by rw [h]; rfl, rfl⟩
        · split
          · rename_i h
            exact ⟨.escape .t, rfl, by rw [h]; rfl, rfl⟩
          · split
            · rename_i hcontrol
              exact exists_unicodePart hcontrol
            · exact ⟨.raw ⟨ch, hquote, hbackslash⟩, rfl, rfl, rfl⟩

/-! ## Whole strings -/

/-- The encoder writes a string of the grammar that stands for its argument. -/
theorem exists_quotedTree (s : CppString) :
    ∃ parts : StringTree, parts.text = jsonQuote s ∧ parts.meaning = s ∧ parts.plain = true := by
  suffices hinside : ∃ parts : StringTree, parts.inside = jsonEscape s ∧ parts.meaning = s ∧
      parts.plain = true by
    obtain ⟨parts, htext, hmeaning, hplain⟩ := hinside
    exact ⟨parts, by rw [StringTree.text, htext, jsonQuote], hmeaning, hplain⟩
  induction s with
  | nil => exact ⟨[], rfl, rfl, rfl⟩
  | cons ch s ih =>
      obtain ⟨parts, htext, hmeaning, hplain⟩ := ih
      obtain ⟨part, hpart, hbyte, hplainPart⟩ := exists_escapePart ch
      refine ⟨part :: parts, ?_, ?_, ?_⟩
      · change part.text ++ parts.inside = jsonEscapeByte ch ++ jsonEscape s
        rw [hpart, htext]
      · change part.meaning ++ parts.meaning = ch :: s
        rw [hbyte, hmeaning, List.singleton_append]
      · change (part.plain && parts.plain) = true
        rw [hplainPart, hplain, Bool.and_self]

/-- A quoted string is read back, whatever follows it. -/
theorem parseJsonStringValue_jsonQuote (s rest : CppString) :
    parseJsonStringValue (jsonQuote s ++ rest) = .ok (s, rest) := by
  obtain ⟨parts, htext, hmeaning, hplain⟩ := exists_quotedTree s
  rw [← htext, parseJsonStringValue_text, if_pos hplain, hmeaning]

/-- The decoder undoes the encoder: on the encoding of any bytes, followed by anything, it
returns these bytes and stops where the encoding ends.  So different strings have
different encodings, and no encoding contains a control byte. -/
theorem jsonQuote_roundTrip :
    (∀ s rest : CppString, parseJsonStringValue (jsonQuote s ++ rest) = .ok (s, rest)) ∧
      Function.Injective jsonQuote ∧ ∀ s : CppString, ∀ ch ∈ jsonQuote s, 0x20 ≤ ch := by
  refine ⟨parseJsonStringValue_jsonQuote, ?_, ?_⟩
  · intro s s' h
    have hread := parseJsonStringValue_jsonQuote s []
    rw [h, parseJsonStringValue_jsonQuote s' []] at hread
    cases hread
    rfl
  · intro s ch hch
    rw [jsonQuote_eq] at hch
    exact printable_quoted s ch hch

end SctpConformance
