import SctpConformance.Json.Grammar
import Mathlib.Tactic.Linarith

/-!
# Reading strings

`parse_json_string_value` against the grammar.  It reads exactly the strings of
the grammar; on a string that names a surrogate it stops with a message of its own.

Main results:

- Theorem `appendUtf8Codepoint_eq`: `append_utf8_codepoint` encodes the characters
  up to U+FFFF and refuses surrogates.
- Theorem `parseJsonStringValue_text`: what becomes of a string of the grammar.
- Theorem `parseJsonStringValue_ok`: whatever is read is a string of the grammar.
- Theorem `parseJsonStringValue_reported`: nothing is read beyond the end of the input.
-/

namespace SctpConformance

/-! ## Characters -/

/-- A digit stands for a number below sixteen. -/
theorem HexDigit.value_lt (digit : HexDigit) : digit.value < 16 := by
  rcases digit with ⟨digit, hdigit⟩
  simp only [IsHexDigit, UInt8.le_iff_toNat_le, UInt8.reduceToNat] at hdigit
  simp only [value, UInt8.le_iff_toNat_le, UInt8.reduceToNat]
  split
  · omega
  · split
    · omega
    · omega

/-- Four digits stand for a number of sixteen bits. -/
theorem codePoint_lt (d₁ d₂ d₃ d₄ : HexDigit) : codePoint d₁ d₂ d₃ d₄ < 0x10000 := by
  have h₁ := d₁.value_lt
  have h₂ := d₂.value_lt
  have h₃ := d₃.value_lt
  have h₄ := d₄.value_lt
  unfold codePoint
  omega

/-- The digits that the server knows. -/
theorem hexValue_digit (digit : HexDigit) : hexValue digit.val = some digit.value := by
  rcases digit with ⟨digit, hdigit⟩
  simp only [IsHexDigit, UInt8.le_iff_toNat_le, UInt8.reduceToNat] at hdigit
  simp only [hexValue, HexDigit.value, UInt8.le_iff_toNat_le, UInt8.reduceToNat]
  repeat' split
  all_goals first | omega | rfl | (apply congrArg some; omega)

/-- Only a hexadecimal digit has a value. -/
theorem hexValue_eq_some {digit : UInt8} {value : Nat} (h : hexValue digit = some value) :
    ∃ hdigit : IsHexDigit digit, HexDigit.value ⟨digit, hdigit⟩ = value := by
  have hdigit : IsHexDigit digit := by
    unfold hexValue at h
    split at h
    · rename_i hrange
      exact Or.inl hrange
    · split at h
      · rename_i hrange
        exact Or.inr (Or.inr hrange)
      · split at h
        · rename_i hrange
          exact Or.inr (Or.inl hrange)
        · contradiction
  refine ⟨hdigit, ?_⟩
  have hvalue := hexValue_digit ⟨digit, hdigit⟩
  rw [h, Option.some.injEq] at hvalue
  exact hvalue.symm

/-- A number of sixteen bits that is no surrogate is the code of a character. -/
theorem toNat_val_ofNat {code : Nat} (hcode : code < 0x10000) (h : ¬IsSurrogate code) :
    (Char.ofNat code).val.toNat = code := by
  have hvalid : code.isValidChar := by
    unfold IsSurrogate at h
    simp only [Nat.isValidChar]
    omega
  rw [Char.ofNat, dif_pos hvalid]
  rfl

/-- A byte of a UTF-8 sequence, computed on numbers and on machine words. -/
theorem utf8Byte_eq (v : UInt32) {n : Nat} (hn : n < 32) (lead mask : Nat) :
    UInt8.ofNat (lead ||| ((v.toNat >>> n) &&& mask)) =
      (v >>> UInt32.ofNat n).toUInt8 &&& UInt8.ofNat mask ||| UInt8.ofNat lead := by
  have hshift : (v >>> UInt32.ofNat n).toUInt8 = UInt8.ofNat (v.toNat >>> n) := by
    rw [← UInt8.toNat_inj]
    simp [Nat.mod_eq_of_lt hn, Nat.mod_eq_of_lt (show n < 4294967296 by omega)]
  rw [UInt8.ofNat_or, UInt8.ofNat_and, hshift, UInt8.or_comm]

/-- `append_utf8_codepoint` on what four digits can name: the UTF-8 of a character,
and nothing for a surrogate. -/
theorem appendUtf8Codepoint_eq {code : Nat} (hcode : code < 0x10000) :
    appendUtf8Codepoint code =
      if IsSurrogate code then none else some (String.utf8EncodeChar (Char.ofNat code)) := by
  by_cases hsurrogate : IsSurrogate code
  · have hrange : 0xD800 ≤ code ∧ code ≤ 0xDFFF := hsurrogate
    have hlow : ¬code ≤ 0x7F ∧ ¬code ≤ 0x7FF := by omega
    rw [if_pos hsurrogate, appendUtf8Codepoint, if_neg hlow.1, if_neg hlow.2, if_pos hrange]
  · have hval := toNat_val_ofNat hcode hsurrogate
    have hrange : ¬(0xD800 ≤ code ∧ code ≤ 0xDFFF) := hsurrogate
    have hhigh : code ≤ 0xFFFF := Nat.le_of_lt_succ hcode
    rw [if_neg hsurrogate, String.utf8EncodeChar_eq_utf8EncodeCharFast]
    unfold String.utf8EncodeCharFast appendUtf8Codepoint
    rw [if_neg hrange, if_pos hhigh]
    generalize (Char.ofNat code).val = v at hval ⊢
    subst hval
    have hlast : UInt8.ofNat (0x80 ||| (v.toNat &&& 0x3F)) = v.toUInt8 &&& 0x3F ||| 0x80 := by
      simpa using utf8Byte_eq v (show 0 < 32 by omega) 0x80 0x3F
    have hmiddle := utf8Byte_eq v (show 6 < 32 by omega)
    have hhighest := utf8Byte_eq v (show 12 < 32 by omega)
    simp only [UInt32.le_iff_toNat_le, UInt32.reduceToNat, hhigh, if_true]
    split
    · simp
    · split
      · rw [hlast, hmiddle]
        simp
      · rw [hlast, hmiddle, hhighest]
        simp

/-! ## Reading a string of the grammar -/

/-- The answer to an escape that names a surrogate. -/
def unsupportedEscape {α : Type} : JsonResult α :=
  jsonFail "unsupported JSON unicode escape"

/-- The letter of an escape is read as what it stands for. -/
theorem simpleEscape_letter (e : Escape) : simpleEscape e.letter = some e.meaning := by
  cases e <;> decide

/-- Four digits are read as their code. -/
theorem readHexDigits_digits (d₁ d₂ d₃ d₄ : HexDigit) (rest : CppString) :
    readHexDigits 4 0 (d₁.val :: d₂.val :: d₃.val :: d₄.val :: rest) =
      .ok (codePoint d₁ d₂ d₃ d₄, rest) := by
  simp [readHexDigits, hexValue_digit, codePoint]

/-- A part of a string that is not a plain byte stands behind a backslash. -/
theorem readEscape_unicode (d₁ d₂ d₃ d₄ : HexDigit) (rest : CppString) :
    readEscape (117 :: d₁.val :: d₂.val :: d₃.val :: d₄.val :: rest) =
      if IsSurrogate (codePoint d₁ d₂ d₃ d₄) then unsupportedEscape
      else .ok (String.utf8EncodeChar (Char.ofNat (codePoint d₁ d₂ d₃ d₄)), rest) := by
  have hnone : simpleEscape 117 = none := by decide
  have hlong : ¬(d₁.val :: d₂.val :: d₃.val :: d₄.val :: rest).length < 4 := by
    simp only [List.length_cons]
    omega
  simp only [readEscape, hnone, if_true, if_neg hlong, readHexDigits_digits,
    appendUtf8Codepoint_eq (codePoint_lt d₁ d₂ d₃ d₄)]
  by_cases hsurrogate : IsSurrogate (codePoint d₁ d₂ d₃ d₄)
  · simp only [hsurrogate, if_true]
    rfl
  · simp only [hsurrogate, if_false]

/-- The loop over a string of the grammar. -/
theorem readStringTail_inside (parts : StringTree) {fuel : Nat} {rest : CppString}
    (hfuel : (parts.inside ++ 34 :: rest).length ≤ fuel) (buffer : CppString) :
    readStringTail fuel buffer (parts.inside ++ 34 :: rest) =
      if parts.plain then .ok (buffer ++ parts.meaning, rest) else unsupportedEscape := by
  induction parts generalizing fuel buffer with
  | nil =>
      cases fuel with
      | zero => simp at hfuel
      | succ fuel =>
          simp [StringTree.inside, StringTree.plain, StringTree.meaning, readStringTail]
  | cons part parts ih =>
      have hinside : StringTree.inside (part :: parts) =
          part.text ++ StringTree.inside parts := rfl
      have hmeaning : StringTree.meaning (part :: parts) =
          part.meaning ++ StringTree.meaning parts := rfl
      have hplain : StringTree.plain (part :: parts) =
          (part.plain && StringTree.plain parts) := rfl
      rw [hinside, List.append_assoc, List.length_append] at hfuel
      rw [hinside, List.append_assoc, hmeaning, hplain]
      cases fuel with
      | zero =>
          have hpart := part.text_ne_nil
          rw [← List.length_pos_iff] at hpart
          omega
      | succ fuel =>
          cases part with
          | raw ch =>
              have hbytes : 1 + (StringTree.inside parts ++ 34 :: rest).length ≤ fuel + 1 := hfuel
              simp only [StringPart.text, List.cons_append, List.nil_append, readStringTail,
                if_neg ch.property.1, if_neg ch.property.2]
              rw [ih (by omega)]
              simp [StringPart.plain, StringPart.meaning]
          | escape e =>
              have hbytes : 2 + (StringTree.inside parts ++ 34 :: rest).length ≤ fuel + 1 := hfuel
              have hescape : readEscape (e.letter :: (StringTree.inside parts ++ 34 :: rest)) =
                  .ok ([e.meaning], StringTree.inside parts ++ 34 :: rest) := by
                simp [readEscape, simpleEscape_letter]
              simp only [StringPart.text, List.cons_append, List.nil_append, readStringTail,
                hescape]
              rw [if_neg (by decide), if_pos trivial, ih (by omega)]
              simp [StringPart.plain, StringPart.meaning]
          | unicode d₁ d₂ d₃ d₄ =>
              have hbytes : 6 + (StringTree.inside parts ++ 34 :: rest).length ≤ fuel + 1 := hfuel
              simp only [StringPart.text, List.cons_append, List.nil_append, readStringTail,
                readEscape_unicode]
              rw [if_neg (by decide), if_pos trivial]
              by_cases hsurrogate : IsSurrogate (codePoint d₁ d₂ d₃ d₄)
              · simp [hsurrogate, StringPart.plain, unsupportedEscape, jsonFail]
              · simp only [hsurrogate, if_false]
                rw [ih (by omega)]
                simp [StringPart.plain, StringPart.meaning, hsurrogate]

/-- What becomes of a string of the grammar. -/
theorem parseJsonStringValue_text (parts : StringTree) (rest : CppString) :
    parseJsonStringValue (parts.text ++ rest) =
      if parts.plain then .ok (parts.meaning, rest) else unsupportedEscape := by
  have htext : parts.text ++ rest = 34 :: (parts.inside ++ 34 :: rest) := by
    simp [StringTree.text]
  rw [htext, parseJsonStringValue, if_pos rfl, readStringTail_inside parts le_rfl]
  rfl

/-! ## Whatever is read is a string of the grammar -/

/-- Only the letters of escapes are read. -/
theorem simpleEscape_eq_some {esc ch : UInt8} (h : simpleEscape esc = some ch) :
    ∃ e : Escape, e.letter = esc ∧ e.meaning = ch := by
  unfold simpleEscape at h
  split at h
  · rename_i hself
    cases h
    rcases hself with rfl | rfl | rfl
    · exact ⟨.quote, rfl, rfl⟩
    · exact ⟨.backslash, rfl, rfl⟩
    · exact ⟨.slash, rfl, rfl⟩
  · split at h
    · rename_i hesc
      cases h
      exact ⟨.b, hesc.symm, rfl⟩
    · split at h
      · rename_i hesc
        cases h
        exact ⟨.f, hesc.symm, rfl⟩
      · split at h
        · rename_i hesc
          cases h
          exact ⟨.n, hesc.symm, rfl⟩
        · split at h
          · rename_i hesc
            cases h
            exact ⟨.r, hesc.symm, rfl⟩
          · split at h
            · rename_i hesc
              cases h
              exact ⟨.t, hesc.symm, rfl⟩
            · contradiction

/-- One turn of the loop over hexadecimal digits. -/
theorem readHexDigits_succ {count code : Nat} {input : CppString} {result : Nat × CppString}
    (h : readHexDigits (count + 1) code input = .ok result) :
    ∃ (digit : HexDigit) (inner : CppString), input = digit.val :: inner ∧
      readHexDigits count (code * 16 + digit.value) inner = .ok result := by
  cases input with
  | nil => contradiction
  | cons digit inner =>
      rw [readHexDigits] at h
      split at h
      · rename_i value hvalue
        rcases hexValue_eq_some hvalue with ⟨hdigit, rfl⟩
        exact ⟨⟨digit, hdigit⟩, inner, rfl, h⟩
      · contradiction

/-- An escape that is read is an escape of the grammar. -/
theorem readEscape_ok {input bytes rest : CppString} (h : readEscape input = .ok (bytes, rest)) :
    ∃ part : StringPart, 92 :: input = part.text ++ rest ∧ part.plain = true ∧
      bytes = part.meaning := by
  cases input with
  | nil => contradiction
  | cons esc inner =>
      rw [readEscape] at h
      split at h
      · rename_i ch hesc
        rcases simpleEscape_eq_some hesc with ⟨e, rfl, rfl⟩
        cases h
        exact ⟨.escape e, rfl, rfl, rfl⟩
      · split at h
        · rename_i hesc
          subst hesc
          split at h
          · contradiction
          · split at h
            · contradiction
            · rename_i code inner' hdigits
              rcases readHexDigits_succ hdigits with ⟨d₁, inner₁, rfl, hdigits₁⟩
              rcases readHexDigits_succ hdigits₁ with ⟨d₂, inner₂, rfl, hdigits₂⟩
              rcases readHexDigits_succ hdigits₂ with ⟨d₃, inner₃, rfl, hdigits₃⟩
              rcases readHexDigits_succ hdigits₃ with ⟨d₄, inner₄, rfl, hdigits₄⟩
              have hcode : codePoint d₁ d₂ d₃ d₄ = code := by
                have hpair := Except.ok.inj hdigits₄
                simpa [codePoint] using congrArg Prod.fst hpair
              have hinner : inner₄ = inner' := congrArg Prod.snd (Except.ok.inj hdigits₄)
              rw [← hcode, appendUtf8Codepoint_eq (codePoint_lt d₁ d₂ d₃ d₄)] at h
              split at h
              · rename_i bytes' hbytes
                split at hbytes
                · contradiction
                · rename_i hplain
                  cases hbytes
                  cases h
                  refine ⟨.unicode d₁ d₂ d₃ d₄, ?_, ?_, rfl⟩
                  · rw [hinner]
                    rfl
                  · simpa [StringPart.plain] using hplain
              · contradiction
        · contradiction

/-- What is read up to the closing quote is a list of plain parts, and the value is what they
stand for. -/
theorem readStringTail_ok {fuel : Nat} {buffer input value rest : CppString}
    (h : readStringTail fuel buffer input = .ok (value, rest)) :
    ∃ parts : StringTree, input = parts.inside ++ 34 :: rest ∧ parts.plain = true ∧
      value = buffer ++ parts.meaning := by
  induction fuel generalizing buffer input with
  | zero => cases input <;> contradiction
  | succ fuel ih =>
      cases input with
      | nil => contradiction
      | cons ch inner =>
          rw [readStringTail] at h
          split at h
          · rename_i hquote
            subst hquote
            cases h
            refine ⟨[], rfl, rfl, ?_⟩
            simp [StringTree.meaning]
          · rename_i hquote
            split at h
            · rename_i hbackslash
              subst hbackslash
              split at h
              · contradiction
              · rename_i bytes inner' hescape
                rcases readEscape_ok hescape with ⟨part, htext, hplain, rfl⟩
                rcases ih h with ⟨parts, rfl, hplain', rfl⟩
                refine ⟨part :: parts, ?_, ?_, ?_⟩
                · have hinside : StringTree.inside (part :: parts) =
                      part.text ++ StringTree.inside parts := rfl
                  rw [htext, hinside, List.append_assoc]
                · simp only [StringTree.plain, List.all_cons, Bool.and_eq_true]
                  exact ⟨hplain, hplain'⟩
                · simp [StringTree.meaning]
            · rename_i hbackslash
              rcases ih h with ⟨parts, rfl, hplain, rfl⟩
              refine ⟨.raw ⟨ch, hquote, hbackslash⟩ :: parts, rfl, hplain, ?_⟩
              simp [StringTree.meaning, StringPart.meaning]

/-- Whatever is read is a string of the grammar. -/
theorem parseJsonStringValue_ok {input value rest : CppString}
    (h : parseJsonStringValue input = .ok (value, rest)) :
    ∃ parts : StringTree, input = parts.text ++ rest ∧ parts.plain = true ∧
      value = parts.meaning := by
  cases input with
  | nil => contradiction
  | cons ch inner =>
      rw [parseJsonStringValue] at h
      split at h
      · rename_i hquote
        subst hquote
        rcases readStringTail_ok h with ⟨parts, rfl, hplain, rfl⟩
        refine ⟨parts, ?_, hplain, rfl⟩
        simp [StringTree.text]
      · contradiction

/-! ## No read beyond the end -/

/-- If the reader stops, it does so with a message that is a literal of the source. -/
def JsonResult.Reported {α : Type} (result : JsonResult α) : Prop :=
  ∀ fault, result = .error fault → ∃ literal, fault = .message (str literal)

/-- A value is an outcome that the caller sees. -/
theorem reported_ok {α : Type} (value : α) : JsonResult.Reported (.ok value) := by
  intro fault h
  contradiction

/-- So is an error. -/
theorem reported_jsonFail {α : Type} (text : String) :
    JsonResult.Reported (jsonFail text : JsonResult α) := by
  intro fault h
  cases h
  exact ⟨_, rfl⟩

/-- An error that is passed on was reported by the reader it came from. -/
theorem reported_error {α β : Type} {result : JsonResult α} {fault : JsonFault}
    (hresult : result.Reported) (hfault : result = .error fault) :
    JsonResult.Reported (.error fault : JsonResult β) := by
  intro fault' h
  cases h
  exact hresult fault hfault

/-- The digits are read within the text. -/
theorem readHexDigits_reported {count code : Nat} {input : CppString}
    (hlength : count ≤ input.length) : (readHexDigits count code input).Reported := by
  induction count generalizing code input with
  | zero => exact reported_ok _
  | succ count ih =>
      cases input with
      | nil => simp at hlength
      | cons digit rest =>
          rw [readHexDigits]
          split
          · apply ih
            simpa using hlength
          · exact reported_jsonFail _

/-- An escape is read within the text. -/
theorem readEscape_reported (input : CppString) : (readEscape input).Reported := by
  cases input with
  | nil => exact reported_jsonFail _
  | cons esc rest =>
      rw [readEscape]
      split
      · exact reported_ok _
      · split
        · split
          · exact reported_jsonFail _
          · rename_i hlong
            have hdigits : (readHexDigits 4 0 rest).Reported :=
              readHexDigits_reported (by omega)
            split
            · rename_i fault hfault
              exact reported_error hdigits hfault
            · split
              · exact reported_ok _
              · exact reported_jsonFail _
        · exact reported_jsonFail _

/-- A string is read within the text, if there is fuel for each of its bytes. -/
theorem readStringTail_reported {fuel : Nat} {buffer input : CppString}
    (hfuel : input.length ≤ fuel) : (readStringTail fuel buffer input).Reported := by
  induction fuel generalizing buffer input with
  | zero =>
      cases input with
      | nil => exact reported_jsonFail _
      | cons ch rest => simp at hfuel
  | succ fuel ih =>
      cases input with
      | nil => exact reported_jsonFail _
      | cons ch rest =>
          rw [List.length_cons] at hfuel
          rw [readStringTail]
          split
          · exact reported_ok _
          · split
            · split
              · rename_i fault hfault
                exact reported_error (readEscape_reported rest) hfault
              · rename_i bytes rest' hescape
                rcases readEscape_ok hescape with ⟨part, htext, -, -⟩
                have hlength := congrArg List.length htext
                have hpart := List.length_pos_iff.mpr part.text_ne_nil
                rw [List.length_cons, List.length_append] at hlength
                exact ih (by omega)
            · exact ih (by omega)

/-- Nothing is read beyond the end of the input. -/
theorem parseJsonStringValue_reported (input : CppString) :
    (parseJsonStringValue input).Reported := by
  cases input with
  | nil => exact reported_jsonFail _
  | cons ch rest =>
      rw [parseJsonStringValue]
      split
      · exact readStringTail_reported le_rfl
      · exact reported_jsonFail _

end SctpConformance
