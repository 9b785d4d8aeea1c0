import SctpConformance.Http.RoundTrip
import SctpConformance.Library.Fields
import Mathlib.Algebra.Group.Int.Defs

/-!
# The strings of the C helper

What `adapters/freebsd_c/helper.c` takes from the C library to read its arguments,
and `split_csv`.  A string is the list of its bytes without the NUL at the end, and
the memory that `split_csv` asks for is there.

Main results:

- Theorem `splitCsv_eq`: the items of a list are its non-empty fields.
- Theorem `strtoul_eq`: the value of a number at the beginning of a text.
-/

namespace SctpConformance.FreebsdHelper

open Library

/-! ## Copies and tokens -/

/-- The string that `strlcpy` leaves in a buffer of this size. -/
def strlcpy (size : Nat) (src : CppString) : CppString :=
  (src.takeWhile (· ≠ 0)).take (size - 1)

/-- A copy is cut off at the size of its buffer. -/
theorem strlcpy_eq_take {size : Nat} {src : CppString} (hzero : (0 : UInt8) ∉ src) :
    strlcpy size src = src.take (size - 1) := by
  have hwhole : src.takeWhile (· ≠ 0) = src := by
    rw [List.takeWhile_eq_self_iff]
    intro ch hch
    simpa using ne_of_mem_of_not_mem hch hzero
  rw [strlcpy, hwhole]

/-- A string that fits is copied whole. -/
theorem strlcpy_of_fits {size : Nat} {src : CppString} (hzero : (0 : UInt8) ∉ src)
    (hfits : src.length ≤ size - 1) : strlcpy size src = src := by
  rw [strlcpy_eq_take hzero, List.take_of_length_le hfits]

/-- One call of `strtok`: the next token, and what it leaves for the next call. -/
def strtok (delimiter : UInt8) (rest : CppString) : Option (CppString × CppString) :=
  let text := rest.dropWhile (· = delimiter)
  if text = [] then none
  else some (text.takeWhile (· ≠ delimiter), (text.dropWhile (· ≠ delimiter)).drop 1)

/-- The loop of `split_csv`, for at most this many tokens. -/
def splitCsvFrom : Nat → CppString → List CppString
  | 0, _ => []
  | bound + 1, rest =>
      match strtok 44 rest with
      | none => []
      | some (token, rest) => token :: splitCsvFrom bound rest

/-- `split_csv`.  A token has at least one byte. -/
def splitCsv (raw : CppString) : List CppString :=
  splitCsvFrom raw.length raw

/-- Delimiters at the beginning add no field. -/
theorem fields_dropWhile (delimiter : UInt8) (text : CppString) :
    fields delimiter (text.dropWhile (· = delimiter)) = fields delimiter text := by
  induction text with
  | nil => rfl
  | cons ch text ih =>
      by_cases hch : ch = delimiter
      · rw [List.dropWhile_cons_of_pos (by simpa using hch), ih, hch, fields_cons_sep]
      · rw [List.dropWhile_cons_of_neg (by simpa using hch)]

/-- A call of `strtok` takes the first field. -/
theorem fields_strtok {delimiter : UInt8} {rest : CppString} :
    fields delimiter rest =
      match strtok delimiter rest with
      | none => []
      | some (token, rest) => token :: fields delimiter rest := by
  rw [← fields_dropWhile, strtok]
  generalize htext : rest.dropWhile (· = delimiter) = text
  cases text with
  | nil => simp
  | cons ch text =>
      have hch : ch ≠ delimiter := by
        have hhead := List.head?_dropWhile_not (· = delimiter) rest
        rw [htext] at hhead
        simpa using hhead
      have htoken : delimiter ∉ (ch :: text).takeWhile (· ≠ delimiter) := by
        intro hmem
        simpa using List.mem_takeWhile_imp hmem
      have hne : (ch :: text).takeWhile (· ≠ delimiter) ≠ [] := by
        simp [hch]
      rw [if_neg (List.cons_ne_nil ch text)]
      dsimp only
      conv_lhs => rw [← List.takeWhile_append_dropWhile (p := (· ≠ delimiter)) (l := ch :: text)]
      cases hback : (ch :: text).dropWhile (· ≠ delimiter) with
      | nil =>
          rw [List.append_nil, fields_whole hne htoken]
          rfl
      | cons sep back =>
          have hsep : sep = delimiter := by
            have hhead := List.head?_dropWhile_not (· ≠ delimiter) (ch :: text)
            rw [hback] at hhead
            simpa using hhead
          subst hsep
          rw [fields_append_sep, fields_whole hne htoken]
          rfl

/-- Each token takes a part of the text. -/
theorem strtok_length {delimiter : UInt8} {rest token back : CppString}
    (h : strtok delimiter rest = some (token, back)) : back.length < rest.length := by
  unfold strtok at h
  dsimp only at h
  split at h
  · contradiction
  · rename_i hne
    cases h
    have hdelims := (List.dropWhile_sublist (· = delimiter) (l := rest)).length_le
    have htoken := (List.dropWhile_sublist (· ≠ delimiter)
      (l := rest.dropWhile (· = delimiter))).length_le
    have hpos := List.length_pos_of_ne_nil hne
    rw [List.length_drop]
    omega

/-- The items of a comma-separated list are its non-empty fields. -/
theorem splitCsv_eq (raw : CppString) : splitCsv raw = fields 44 raw := by
  have hbound : ∀ bound rest, rest.length ≤ bound → splitCsvFrom bound rest = fields 44 rest := by
    intro bound
    induction bound with
    | zero =>
        intro rest hrest
        rw [List.length_eq_zero_iff.mp (Nat.le_zero.mp hrest), fields_nil]
        rfl
    | succ bound ih =>
        intro rest hrest
        rw [splitCsvFrom, fields_strtok]
        cases htoken : strtok 44 rest with
        | none => rfl
        | some parts =>
            have hlength := strtok_length htoken
            dsimp only
            rw [ih parts.2 (by omega)]
  exact hbound raw.length raw le_rfl

/-! ## Numbers -/

/-- The number of two groups of digits. -/
theorem natOfDigits_append_digits (front back : CppString) :
    natOfDigits (front ++ back) = natOfDigits front * 10 ^ back.length + natOfDigits back := by
  induction back using List.reverseRecOn with
  | nil => simp [natOfDigits]
  | append_singleton back ch ih =>
      rw [← List.append_assoc, natOfDigits_append, natOfDigits_append, ih, List.length_append,
        List.length_singleton, Nat.pow_succ, Nat.add_mul, Nat.mul_assoc, Nat.add_assoc]

/-- The number that `strtoul` finds behind an optional sign. -/
theorem strtoul_eq {text digits back : CppString} {negative : Bool}
    (hspace : ∀ ch, text.head? = some ch → isSpace ch = false)
    (hsign : splitSign text = (negative, digits ++ back))
    (hdigits : ∀ ch ∈ digits, isDigit ch = true)
    (hback : ∀ ch, back.head? = some ch → isDigit ch = false)
    (hfits : natOfDigits digits ≤ ulongMax) :
    strtoul text =
      if negative then (2 ^ 64 - natOfDigits digits) % 2 ^ 64 else natOfDigits digits := by
  have htake : (digits ++ back).takeWhile isDigit = digits := by
    rw [List.takeWhile_append_of_pos hdigits]
    cases back with
    | nil => simp
    | cons ch back => simp [hback ch rfl]
  simp only [strtoul, dropWhile_of_head hspace, hsign, htake]
  rw [if_neg (not_lt.mpr hfits)]

/-- The number at the beginning of a text without a sign. -/
theorem strtoul_digits {digits back : CppString} (hne : digits ≠ [])
    (hdigits : ∀ ch ∈ digits, isDigit ch = true)
    (hback : ∀ ch, back.head? = some ch → isDigit ch = false)
    (hfits : natOfDigits digits ≤ ulongMax) :
    strtoul (digits ++ back) = natOfDigits digits := by
  cases digits with
  | nil => contradiction
  | cons ch digits =>
      have hch := isDigit_ne (hdigits ch List.mem_cons_self)
      have hsign : splitSign (ch :: digits ++ back) = (false, ch :: digits ++ back) := by
        rw [List.cons_append, splitSign, if_neg hch.2.1, if_neg hch.2.2]
      have hspace : ∀ c, (ch :: digits ++ back).head? = some c → isSpace c = false := by
        intro c hc
        cases hc
        exact hch.1
      have hvalue := strtoul_eq hspace hsign hdigits hback hfits
      simpa using hvalue

end SctpConformance.FreebsdHelper
