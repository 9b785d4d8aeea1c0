import SctpConformance.Library.Utf8
import SctpConformance.Runner.Process
import Mathlib.Data.List.TakeWhile

/-!
# `json.loads`

The decoder of Python's `json` module on a `str`, which both readers of helper output
apply to a line.  It is strict about control characters in strings, knows `NaN` and the
two infinities, keeps the last one of several members with the same key, and raises
something else than a decoding error on texts that are nested too deeply and on integers
with too many digits.

A `str` can contain half of a surrogate pair, a list of characters cannot.  An escape that
names such a half is read as a character that the interpreter sets apart for it; text files,
which are written in UTF-8, do not take such a character.

Main results:

- Definition `Interpreter.loads`: the decoder.
- Theorem `decode_fuel`: no text is refused for lack of fuel.
- Theorem `scanNumber_natural`: a number in decimal digits is read back.
- Theorems `scanMembers_more` and `scanMembers_last`: so are the members of an object whose
  values are.
- Theorem `loads_dict`: how a text begins that is read as an object with members.
-/

namespace SctpConformance.Runner

/-- The interpreter that the runner is executed by. -/
structure Interpreter where
  /-- How deep the containers of an object or array can be nested. -/
  recursion : Nat
  /-- `sys.get_int_max_str_digits()`, if it is not zero. -/
  maxStrDigits : Option Nat
  digits_ge : ∀ limit ∈ maxStrDigits, 640 ≤ limit
  /-- The character for one half of a surrogate pair. -/
  loneSurrogate : Nat → Char
  /-- The characters that are set apart for these halves. -/
  isSurrogate : Char → Bool
  isSurrogate_iff : ∀ ch, isSurrogate ch = true ↔ ∃ code, loneSurrogate code = ch
  loneSurrogate_ge : ∀ code, 128 ≤ (loneSurrogate code).toNat
  repr : Value → Text
  repr_escapes : ∀ value, ∀ ch ∈ repr value, isSurrogate ch = false
  equal : Value → Value → Bool
  lower : Text → Text
  /-- Whether `asdict` and `json.dumps` get to the bottom of a value. -/
  serializable : Value → Bool

/-- What `json.loads` raises. -/
inductive LoadFault where
  | decodeError
  | raised (exception : Raised)

/-- A computation of the decoder.  What is scanned comes with the text behind it. -/
abbrev Load : Type → Type :=
  Except LoadFault

/-! ## Tokens -/

/-- The characters between the tokens of a JSON text. -/
def isWhitespace (ch : Char) : Bool :=
  ch = ' ' || ch = '\t' || ch = '\n' || ch = '\r'

/-- What follows the whitespace. -/
def skipWhitespace (text : Text) : Text :=
  text.dropWhile isWhitespace

/-- The text behind a character that has to come next. -/
def expect (ch : Char) : Text → Load Text
  | [] => .error .decodeError
  | first :: rest => if first = ch then .ok rest else .error .decodeError

/-- The value of a hexadecimal digit. -/
def hexDigit (ch : Char) : Option Nat :=
  if '0' ≤ ch ∧ ch ≤ '9' then some (ch.toNat - '0'.toNat)
  else if 'a' ≤ ch ∧ ch ≤ 'f' then some (ch.toNat - 'a'.toNat + 10)
  else if 'A' ≤ ch ∧ ch ≤ 'F' then some (ch.toNat - 'A'.toNat + 10)
  else none

/-- The four digits behind `\u`. -/
def scanCodeUnit : Text → Load (Nat × Text)
  | a :: b :: c :: d :: rest =>
      match hexDigit a, hexDigit b, hexDigit c, hexDigit d with
      | some a, some b, some c, some d => .ok (((a * 16 + b) * 16 + c) * 16 + d, rest)
      | _, _, _, _ => .error .decodeError
  | _ => .error .decodeError

/-- What the two-character escapes stand for. -/
def escapeMeaning (ch : Char) : Option Char :=
  if ch = '"' ∨ ch = '\\' ∨ ch = '/' then some ch
  else if ch = 'b' then some '\x08'
  else if ch = 'f' then some '\x0c'
  else if ch = 'n' then some '\n'
  else if ch = 'r' then some '\r'
  else if ch = 't' then some '\t'
  else none

/-- A sequence gives what its second part gives on what the first part gives. -/
theorem Load.bind_eq_ok {α β : Type} {x : Load α} {f : α → Load β} {b : β} :
    (x >>= f) = .ok b ↔ ∃ a, x = .ok a ∧ f a = .ok b := by
  cases x with
  | error fault =>
      constructor
      · intro h
        cases h
      · rintro ⟨a, h, -⟩
        cases h
  | ok a =>
      constructor
      · intro h
        exact ⟨a, rfl, h⟩
      · rintro ⟨a', h, hf⟩
        cases h
        exact hf

/-- Two sequences with the same beginning are the same if their continuations are. -/
theorem Load.bind_congr {α β : Type} {x : Load α} {f g : α → Load β}
    (h : ∀ a, x = .ok a → f a = g a) : (x >>= f) = (x >>= g) := by
  cases x with
  | error fault => rfl
  | ok a => exact h a rfl

/-- A scan goes on with what it has found. -/
theorem Load.ok_bind {α β : Type} (a : α) (f : α → Load β) : ((.ok a : Load α) >>= f) = f a :=
  rfl

/-- What has been found is the result. -/
theorem Load.pure_eq_ok {α : Type} {a b : α} : (pure a : Load α) = .ok b ↔ a = b :=
  ⟨Except.ok.inj, fun h => h ▸ rfl⟩

/-- A character that is expected is there. -/
theorem expect_eq_ok {ch : Char} {text rest : Text} :
    expect ch text = .ok rest ↔ text = ch :: rest := by
  cases text with
  | nil => simp [expect]
  | cons first text =>
      unfold expect
      by_cases h : first = ch
      · simp [h]
      · simp [h]

/-- Other characters are not skipped. -/
theorem skipWhitespace_cons {ch : Char} (h : isWhitespace ch = false) (rest : Text) :
    skipWhitespace (ch :: rest) = ch :: rest := by
  unfold skipWhitespace
  rw [List.dropWhile_cons, h]
  rfl

/-- What is skipped is whitespace. -/
theorem exists_skipWhitespace (text : Text) :
    ∃ front : Text, (∀ ch ∈ front, isWhitespace ch = true) ∧ text = front ++ skipWhitespace text := by
  refine ⟨text.takeWhile isWhitespace, fun ch hch => List.mem_takeWhile_imp hch, ?_⟩
  exact List.takeWhile_append_dropWhile.symm

/-- Skipping makes no text longer. -/
theorem skipWhitespace_length (text : Text) : (skipWhitespace text).length ≤ text.length :=
  (List.dropWhile_sublist _).length_le

namespace Interpreter

variable (interpreter : Interpreter)

/-- What follows `\u`.  The first half of a surrogate pair is joined with the second one
if that follows at once. -/
def scanUnicode (text : Text) : Load (Char × Text) := do
  let (code, rest) ← scanCodeUnit text
  if 0xD800 ≤ code ∧ code ≤ 0xDBFF then
    match rest with
    | '\\' :: 'u' :: next => do
        let (low, after) ← scanCodeUnit next
        if 0xDC00 ≤ low ∧ low ≤ 0xDFFF then
          return (Char.ofNat (0x10000 + (code - 0xD800) * 0x400 + (low - 0xDC00)), after)
        return (interpreter.loneSurrogate code, rest)
    | _ => return (interpreter.loneSurrogate code, rest)
  if 0xDC00 ≤ code ∧ code ≤ 0xDFFF then
    return (interpreter.loneSurrogate code, rest)
  return (Char.ofNat code, rest)

/-- What follows a backslash. -/
def scanEscape : Text → Load (Char × Text)
  | [] => .error .decodeError
  | ch :: rest =>
      if ch = 'u' then interpreter.scanUnicode rest
      else
        match escapeMeaning ch with
        | some meaning => .ok (meaning, rest)
        | none => .error .decodeError

/-- The loop of `scanstring`. -/
def scanChars : Nat → Text → Load (Text × Text)
  | 0, _ => .error .decodeError
  | _ + 1, [] => .error .decodeError
  | fuel + 1, ch :: rest =>
      if ch = '"' then .ok ([], rest)
      else if ch = '\\' then do
        let (first, rest) ← interpreter.scanEscape rest
        let (text, rest) ← scanChars fuel rest
        return (first :: text, rest)
      else if ch ≤ '\x1f' then .error .decodeError
      else do
        let (text, rest) ← scanChars fuel rest
        return (ch :: text, rest)

/-- `scanstring`, behind the opening quote. -/
def scanString (text : Text) : Load (Text × Text) :=
  interpreter.scanChars (text.length + 1) text

variable {interpreter}

/-- The digits of an escape are used up. -/
theorem scanCodeUnit_length {text rest : Text} {code : Nat}
    (h : scanCodeUnit text = .ok (code, rest)) : rest.length < text.length := by
  unfold scanCodeUnit at h
  split at h
  · split at h
    · cases h
      simp only [List.length_cons]
      omega
    · cases h
  · cases h

/-- So are those of two escapes for one character. -/
theorem scanUnicode_length {text rest : Text} {ch : Char}
    (h : interpreter.scanUnicode text = .ok (ch, rest)) : rest.length < text.length := by
  obtain ⟨⟨code, behind⟩, hcode, h⟩ := Load.bind_eq_ok.mp h
  have hbehind := scanCodeUnit_length hcode
  dsimp only at h
  split at h
  · split at h
    · rename_i next
      obtain ⟨⟨low, after⟩, hlow, h⟩ := Load.bind_eq_ok.mp h
      have hafter := scanCodeUnit_length hlow
      dsimp only at h
      split at h
      · obtain ⟨-, rfl⟩ := Prod.mk.inj (Load.pure_eq_ok.mp h)
        simp only [List.length_cons] at hbehind
        omega
      · obtain ⟨-, rfl⟩ := Prod.mk.inj (Load.pure_eq_ok.mp h)
        exact hbehind
    · obtain ⟨-, rfl⟩ := Prod.mk.inj (Load.pure_eq_ok.mp h)
      exact hbehind
  · split at h
    · obtain ⟨-, rfl⟩ := Prod.mk.inj (Load.pure_eq_ok.mp h)
      exact hbehind
    · obtain ⟨-, rfl⟩ := Prod.mk.inj (Load.pure_eq_ok.mp h)
      exact hbehind

/-- So is every escape. -/
theorem scanEscape_length {text rest : Text} {ch : Char}
    (h : interpreter.scanEscape text = .ok (ch, rest)) : rest.length < text.length := by
  cases text with
  | nil => cases h
  | cons first text =>
      rw [scanEscape] at h
      split at h
      · have := scanUnicode_length h
        simp only [List.length_cons]
        omega
      · split at h
        · cases h
          exact Nat.lt_succ_self _
        · cases h

/-- There is always enough fuel for a string. -/
theorem scanChars_fuel {fuel : Nat} {text : Text} (hfuel : text.length < fuel) :
    interpreter.scanChars fuel text = interpreter.scanString text := by
  suffices h : ∀ fuel' : Nat, text.length < fuel' →
      interpreter.scanChars fuel text = interpreter.scanChars fuel' text from
    h _ (Nat.lt_succ_self _)
  intro fuel' hfuel'
  induction fuel generalizing text fuel' with
  | zero => omega
  | succ fuel ih =>
      cases fuel' with
      | zero => omega
      | succ fuel' =>
          cases text with
          | nil => rfl
          | cons ch rest =>
              rw [List.length_cons] at hfuel hfuel'
              rw [scanChars, scanChars]
              have hrest : interpreter.scanChars fuel rest = interpreter.scanChars fuel' rest :=
                ih (by omega) fuel' (by omega)
              rw [hrest]
              cases hescape : interpreter.scanEscape rest with
              | error fault => rfl
              | ok result =>
                  have hlength : result.2.length < rest.length := scanEscape_length hescape
                  have hnext : interpreter.scanChars fuel result.2 =
                      interpreter.scanChars fuel' result.2 := ih (by omega) fuel' (by omega)
                  change (if ch = '"' then _ else if ch = '\\' then
                    (interpreter.scanChars fuel result.2 >>= _) else _) = _
                  rw [hnext]
                  rfl

/-- A quote ends the string. -/
theorem scanString_quote (rest : Text) : interpreter.scanString ('"' :: rest) = .ok ([], rest) :=
  rfl

/-- A string must be closed. -/
theorem scanString_nil : interpreter.scanString [] = .error .decodeError :=
  rfl

/-- A character that a string can contain as it is. -/
def Plain (ch : Char) : Prop :=
  ch ≠ '"' ∧ ch ≠ '\\' ∧ ¬ch ≤ '\x1f'

instance : DecidablePred Plain := fun _ =>
  inferInstanceAs (Decidable (_ ∧ _))

/-- A plain character stands for itself. -/
theorem scanString_plain {ch : Char} (h : Plain ch) (rest : Text) :
    interpreter.scanString (ch :: rest) =
      interpreter.scanString rest >>= fun scanned => pure (ch :: scanned.1, scanned.2) := by
  obtain ⟨hquote, hescape, hcontrol⟩ := h
  unfold scanString
  rw [List.length_cons, scanChars, if_neg hquote, if_neg hescape, if_neg hcontrol]

/-- Control characters are refused in strings. -/
theorem scanString_control {ch : Char} (hcontrol : ch ≤ '\x1f') (rest : Text) :
    interpreter.scanString (ch :: rest) = .error .decodeError := by
  have hquote : ch ≠ '"' := by
    rintro rfl
    exact absurd hcontrol (by decide)
  have hescape : ch ≠ '\\' := by
    rintro rfl
    exact absurd hcontrol (by decide)
  unfold scanString
  rw [List.length_cons, scanChars, if_neg hquote, if_neg hescape, if_pos hcontrol]

/-- A short escape stands for its character. -/
theorem scanString_escape {letter meaning : Char} (hletter : escapeMeaning letter = some meaning)
    (hunicode : letter ≠ 'u') (rest : Text) :
    interpreter.scanString ('\\' :: letter :: rest) =
      interpreter.scanString rest >>= fun scanned => pure (meaning :: scanned.1, scanned.2) := by
  have hescape : interpreter.scanEscape (letter :: rest) = .ok (meaning, rest) := by
    rw [scanEscape, if_neg hunicode, hletter]
  have hrest : interpreter.scanChars (rest.length + 2) rest = interpreter.scanString rest :=
    scanChars_fuel (by omega)
  rw [scanString, List.length_cons, List.length_cons, scanChars, if_neg (by decide), if_pos rfl,
    hescape]
  change (interpreter.scanChars (rest.length + 2) rest >>= _) = _
  rw [hrest]

/-- A string without escapes is read as it stands. -/
theorem scanString_literal {text : Text} (h : ∀ ch ∈ text, Plain ch) (rest : Text) :
    interpreter.scanString (text ++ '"' :: rest) = .ok (text, rest) := by
  induction text with
  | nil => exact scanString_quote rest
  | cons ch text ih =>
      rw [List.cons_append, scanString_plain (h ch List.mem_cons_self),
        ih (fun c hc => h c (List.mem_cons_of_mem _ hc))]
      rfl

variable (interpreter)

/-! ## Numbers and constants -/

/-- The digits before the point, without a needless zero in front. -/
def wholePart : Text → Load (Text × Text)
  | [] => .error .decodeError
  | ch :: rest =>
      if ch = '0' then .ok ([ch], rest)
      else if ch.isDigit then
        .ok (ch :: rest.takeWhile Char.isDigit, rest.dropWhile Char.isDigit)
      else .error .decodeError

/-- The point and the digits behind it, if there are some. -/
def fractionPart : Text → Text × Text
  | [] => ([], [])
  | ch :: rest =>
      if ch = '.' ∧ (rest.takeWhile Char.isDigit).isEmpty = false then
        (ch :: rest.takeWhile Char.isDigit, rest.dropWhile Char.isDigit)
      else ([], ch :: rest)

/-- The exponent, if there is one. -/
def exponentPart : Text → Text × Text
  | [] => ([], [])
  | ch :: rest =>
      let sign := if rest.head? = some '+' ∨ rest.head? = some '-' then rest.take 1 else []
      let rest' := rest.drop sign.length
      if (ch = 'e' ∨ ch = 'E') ∧ (rest'.takeWhile Char.isDigit).isEmpty = false then
        (ch :: sign ++ rest'.takeWhile Char.isDigit, rest'.dropWhile Char.isDigit)
      else ([], ch :: rest)

/-- `int(sign + digits)` -/
def toInt (negative : Bool) (digits : Text) : Load Value :=
  if interpreter.maxStrDigits.any (· < digits.length) then .error (.raised .valueError)
  else
    let magnitude : Int := Nat.ofDigitChars 10 digits 0
    .ok (.int (if negative then -magnitude else magnitude))

/-- A number behind its sign. -/
def scanNumber (negative : Bool) (text : Text) : Load (Value × Text) := do
  let (whole, rest) ← wholePart text
  let (fraction, rest) := fractionPart rest
  let (exponent, rest) := exponentPart rest
  if fraction = [] ∧ exponent = [] then
    let value ← interpreter.toInt negative whole
    return (value, rest)
  return (.float ((if negative then ['-'] else []) ++ whole ++ fraction ++ exponent), rest)

/-- The constants, each with its value. -/
def constants : List (Text × Value) :=
  [("null".toList, .none), ("true".toList, .bool true), ("false".toList, .bool false),
    ("NaN".toList, .float "NaN".toList), ("Infinity".toList, .float "Infinity".toList),
    ("-Infinity".toList, .float "-Infinity".toList)]

/-- What is neither a string nor a container. -/
def scanAtom (text : Text) : Load (Value × Text) :=
  match constants.find? fun constant => constant.1.isPrefixOf text with
  | some (word, value) => .ok (value, text.drop word.length)
  | none =>
      match text with
      | '-' :: rest => interpreter.scanNumber true rest
      | _ => interpreter.scanNumber false text

/-! ## Values -/

mutual

/-- `scan_once`, with the number of containers that may still be entered; the brackets of
an empty container are taken care of here. -/
def scanOnce : Nat → Nat → Text → Load (Value × Text)
  | 0, _, _ => .error .decodeError
  | _ + 1, _, [] => .error .decodeError
  | fuel + 1, depth, ch :: rest =>
      if ch = '"' then do
        let (text, rest) ← interpreter.scanString rest
        return (.str text, rest)
      else if ch = '{' then
        match depth, skipWhitespace rest with
        | 0, _ => .error (.raised .recursionError)
        | _ + 1, '}' :: rest => .ok (.dict [], rest)
        | depth + 1, text => do
            let (members, rest) ← scanMembers fuel depth [] text
            return (.dict members, rest)
      else if ch = '[' then
        match depth, skipWhitespace rest with
        | 0, _ => .error (.raised .recursionError)
        | _ + 1, ']' :: rest => .ok (.list [], rest)
        | depth + 1, text => do
            let (items, rest) ← scanItems fuel depth [] text
            return (.list items, rest)
      else interpreter.scanAtom (ch :: rest)

/-- The loop of `JSONObject`, with the members read so far. -/
def scanMembers : Nat → Nat → Event → Text → Load (Event × Text)
  | 0, _, _, _ => .error .decodeError
  | fuel + 1, depth, members, text => do
      let rest ← expect '"' text
      let (key, rest) ← interpreter.scanString rest
      let rest ← expect ':' (skipWhitespace rest)
      let (value, rest) ← scanOnce fuel depth (skipWhitespace rest)
      match skipWhitespace rest with
      | '}' :: rest => return (members.set key value, rest)
      | ',' :: rest => scanMembers fuel depth (members.set key value) (skipWhitespace rest)
      | _ => .error .decodeError

/-- The loop of `JSONArray`, with the items read so far. -/
def scanItems : Nat → Nat → List Value → Text → Load (List Value × Text)
  | 0, _, _, _ => .error .decodeError
  | fuel + 1, depth, items, text => do
      let (value, rest) ← scanOnce fuel depth text
      match skipWhitespace rest with
      | ']' :: rest => return (items ++ [value], rest)
      | ',' :: rest => scanItems fuel depth (items ++ [value]) (skipWhitespace rest)
      | _ => .error .decodeError

end

/-- `JSONDecoder.decode` -/
def decode (text : Text) : Load Value := do
  let (value, rest) ←
    interpreter.scanOnce (2 * text.length + 1) (interpreter.recursion + 1) (skipWhitespace text)
  if skipWhitespace rest = [] then
    return value
  throw .decodeError

/-- `json.loads` -/
def loads (text : Text) : Loaded :=
  match interpreter.decode text with
  | .ok value => .value value
  | .error .decodeError => .jsonDecodeError
  | .error (.raised exception) => .raised exception

/-- The functions of the library that the runner applies to helper output. -/
def python : Python where
  loads := interpreter.loads
  repr := interpreter.repr
  equal := interpreter.equal
  lower := interpreter.lower
  encodable ch := !interpreter.isSurrogate ch
  serializable := interpreter.serializable
  encodable_ascii := by
    intro ch hascii
    rw [Bool.not_eq_true', Bool.eq_false_iff]
    intro hsurrogate
    obtain ⟨code, rfl⟩ := (interpreter.isSurrogate_iff ch).mp hsurrogate
    have hge := interpreter.loneSurrogate_ge code
    omega
  encodable_repr := by
    intro value ch hch
    rw [interpreter.repr_escapes value ch hch]
    rfl

variable {interpreter}

/-! ## Fuel -/

/-- A string uses up its text. -/
theorem scanChars_length {fuel : Nat} {text rest value : Text}
    (h : interpreter.scanChars fuel text = .ok (value, rest)) : rest.length < text.length := by
  induction fuel generalizing text value with
  | zero => cases h
  | succ fuel ih =>
      cases text with
      | nil => cases h
      | cons ch text =>
          rw [scanChars] at h
          rw [List.length_cons]
          split at h
          · cases h
            exact Nat.lt_succ_self _
          · split at h
            · obtain ⟨⟨first, behind⟩, hescape, h⟩ := Load.bind_eq_ok.mp h
              obtain ⟨⟨others, behind'⟩, hothers, h⟩ := Load.bind_eq_ok.mp h
              cases h
              have := scanEscape_length hescape
              have := ih hothers
              omega
            · split at h
              · cases h
              · obtain ⟨⟨others, behind⟩, hothers, h⟩ := Load.bind_eq_ok.mp h
                cases h
                have := ih hothers
                omega

/-- A number has a digit at least. -/
theorem wholePart_length {text whole rest : Text} (h : wholePart text = .ok (whole, rest)) :
    rest.length < text.length := by
  cases text with
  | nil => cases h
  | cons ch text =>
      rw [wholePart] at h
      rw [List.length_cons]
      split at h
      · cases h
        exact Nat.lt_succ_self _
      · split at h
        · cases h
          exact Nat.lt_succ_of_le (List.dropWhile_sublist _).length_le
        · cases h

/-- A fraction can be missing. -/
theorem fractionPart_length (text : Text) : (fractionPart text).2.length ≤ text.length := by
  cases text with
  | nil => exact Nat.le_refl _
  | cons ch text =>
      rw [fractionPart]
      split
      · exact Nat.le_succ_of_le (List.dropWhile_sublist _).length_le
      · exact Nat.le_refl _

/-- So can an exponent. -/
theorem exponentPart_length (text : Text) : (exponentPart text).2.length ≤ text.length := by
  cases text with
  | nil => exact Nat.le_refl _
  | cons ch text =>
      rw [exponentPart]
      generalize (if text.head? = some '+' ∨ text.head? = some '-' then text.take 1 else []) = sign
      split
      · refine Nat.le_succ_of_le ((List.dropWhile_sublist _).length_le.trans ?_)
        exact (List.drop_sublist _ _).length_le
      · exact Nat.le_refl _

/-- A number uses up its digits. -/
theorem scanNumber_length {negative : Bool} {text rest : Text} {value : Value}
    (h : interpreter.scanNumber negative text = .ok (value, rest)) : rest.length < text.length := by
  obtain ⟨⟨whole, behind⟩, hwhole, h⟩ := Load.bind_eq_ok.mp h
  have hbehind := wholePart_length hwhole
  have hfraction := fractionPart_length behind
  have hexponent := exponentPart_length (fractionPart behind).2
  have hrest : rest = (exponentPart (fractionPart behind).2).2 := by
    dsimp only at h
    split at h
    · obtain ⟨number, -, h⟩ := Load.bind_eq_ok.mp h
      cases h
      rfl
    · cases h
      rfl
  rw [hrest]
  omega

/-- So does every value that is not composed. -/
theorem scanAtom_length {text rest : Text} {value : Value}
    (h : interpreter.scanAtom text = .ok (value, rest)) : rest.length < text.length := by
  unfold scanAtom at h
  split at h
  · rename_i word found hfound
    have hword : word ≠ [] := by
      rintro rfl
      exact absurd (List.mem_of_find?_eq_some hfound) (by simp [constants])
    have hinitial : word <+: text := by
      have := List.find?_some hfound
      exact List.isPrefixOf_iff_prefix.mp this
    cases h
    have := hinitial.length_le
    have := List.length_pos_iff.mpr hword
    rw [List.length_drop]
    omega
  · split at h
    · have := scanNumber_length h
      rw [List.length_cons]
      omega
    · exact scanNumber_length h

/-- A scanner that reads at least one character of every text that it accepts. -/
def Progresses {α : Type} (scan : Text → Load (α × Text)) : Prop :=
  ∀ text value rest, scan text = .ok (value, rest) → rest.length < text.length

/-- What is done with the scanned value makes no difference. -/
theorem Progresses.of_pure {α β : Type} {scan : Text → Load (α × Text)} (hscan : Progresses scan)
    {f : α → β} {text rest : Text} {value : β}
    (h : (scan text >>= fun scanned => pure (f scanned.1, scanned.2)) = .ok (value, rest)) :
    rest.length < text.length := by
  obtain ⟨⟨scanned, behind⟩, hscanned, h⟩ := Load.bind_eq_ok.mp h
  obtain ⟨-, rfl⟩ := Prod.mk.inj (Load.pure_eq_ok.mp h)
  exact hscan text scanned behind hscanned

/-- Blanks and one character in front of the rest. -/
theorem length_lt_of_skipWhitespace {text rest : Text} {ch : Char}
    (h : skipWhitespace text = ch :: rest) : rest.length < text.length := by
  have hskip := skipWhitespace_length text
  rw [h, List.length_cons] at hskip
  exact hskip

section

variable {fuel : Nat}

/-- A value uses up its text if its parts do. -/
theorem progresses_scanOnce
    (hmembers : ∀ depth members, Progresses (interpreter.scanMembers fuel depth members))
    (hitems : ∀ depth items, Progresses (interpreter.scanItems fuel depth items)) (depth : Nat) :
    Progresses (interpreter.scanOnce (fuel + 1) depth) := by
  intro text value rest h
  cases text with
  | nil => cases h
  | cons ch text =>
      have hskip := skipWhitespace_length text
      rw [scanOnce.eq_def] at h
      dsimp only at h
      rw [List.length_cons]
      split at h
      · have hstring : Progresses interpreter.scanString := fun _ _ _ => scanChars_length
        exact Nat.lt_succ_of_lt (hstring.of_pure h)
      · split at h
        · split at h
          · cases h
          · rename_i heq
            cases h
            exact Nat.lt_succ_of_lt (length_lt_of_skipWhitespace heq)
          · have := (hmembers _ _).of_pure h
            omega
        · split at h
          · split at h
            · cases h
            · rename_i heq
              cases h
              exact Nat.lt_succ_of_lt (length_lt_of_skipWhitespace heq)
            · have := (hitems _ _).of_pure h
              omega
          · have hatom := scanAtom_length h
            rw [List.length_cons] at hatom
            exact hatom

/-- So do the members of an object. -/
theorem progresses_scanMembers
    (honce : ∀ depth, Progresses (interpreter.scanOnce fuel depth))
    (hmembers : ∀ depth members, Progresses (interpreter.scanMembers fuel depth members))
    (depth : Nat) (members : Event) :
    Progresses (interpreter.scanMembers (fuel + 1) depth members) := by
  intro text event rest h
  rw [scanMembers.eq_def] at h
  obtain ⟨keyText, hquote, h⟩ := Load.bind_eq_ok.mp h
  obtain ⟨⟨key, behind⟩, hkey, h⟩ := Load.bind_eq_ok.mp h
  obtain ⟨inner, hcolon, h⟩ := Load.bind_eq_ok.mp h
  obtain ⟨⟨value, behind'⟩, hvalue, h⟩ := Load.bind_eq_ok.mp h
  rw [expect_eq_ok] at hquote hcolon
  have h₁ := scanChars_length hkey
  have h₂ := length_lt_of_skipWhitespace hcolon
  have h₃ := skipWhitespace_length inner
  have h₄ := honce _ _ _ _ hvalue
  rw [hquote, List.length_cons]
  dsimp only at h
  split at h
  · rename_i heq
    cases h
    have h₅ := length_lt_of_skipWhitespace heq
    omega
  · rename_i behind'' heq
    have h₅ := length_lt_of_skipWhitespace heq
    have h₆ := hmembers _ _ _ _ _ h
    have h₇ := skipWhitespace_length behind''
    omega
  · cases h

/-- So do the items of an array. -/
theorem progresses_scanItems
    (honce : ∀ depth, Progresses (interpreter.scanOnce fuel depth))
    (hitems : ∀ depth items, Progresses (interpreter.scanItems fuel depth items))
    (depth : Nat) (items : List Value) :
    Progresses (interpreter.scanItems (fuel + 1) depth items) := by
  intro text values rest h
  rw [scanItems.eq_def] at h
  obtain ⟨⟨value, behind⟩, hvalue, h⟩ := Load.bind_eq_ok.mp h
  have h₁ := honce _ _ _ _ hvalue
  dsimp only at h
  split at h
  · rename_i heq
    cases h
    have h₂ := length_lt_of_skipWhitespace heq
    omega
  · rename_i behind' heq
    have h₂ := length_lt_of_skipWhitespace heq
    have h₃ := hitems _ _ _ _ _ h
    have h₄ := skipWhitespace_length behind'
    omega
  · cases h

end

/-- What is scanned is not empty. -/
theorem scan_length (fuel : Nat) :
    (∀ depth, Progresses (interpreter.scanOnce fuel depth)) ∧
      (∀ depth members, Progresses (interpreter.scanMembers fuel depth members)) ∧
      ∀ depth items, Progresses (interpreter.scanItems fuel depth items) := by
  induction fuel with
  | zero =>
      refine ⟨?_, ?_, ?_⟩
      · intro depth text value rest h
        cases h
      · intro depth members text event rest h
        cases h
      · intro depth items text values rest h
        cases h
  | succ fuel ih =>
      obtain ⟨honce, hmembers, hitems⟩ := ih
      exact ⟨progresses_scanOnce hmembers hitems, progresses_scanMembers honce hmembers,
        progresses_scanItems honce hitems⟩

/-- Two scanners that do the same with every text that the fuel is enough for. -/
def AgreeWithin {α : Type} (need fuel : Nat) (scan scan' : Text → Load (α × Text)) : Prop :=
  ∀ text, 2 * text.length + need ≤ fuel → scan text = scan' text

section

variable {fuel fuel' : Nat}

/-- The fuel makes no difference for a value if it makes none for its parts. -/
theorem scanOnce_agree
    (hmembers : ∀ depth members, AgreeWithin 2 fuel (interpreter.scanMembers fuel depth members)
      (interpreter.scanMembers fuel' depth members))
    (hitems : ∀ depth items, AgreeWithin 2 fuel (interpreter.scanItems fuel depth items)
      (interpreter.scanItems fuel' depth items)) (depth : Nat) :
    AgreeWithin 1 (fuel + 1) (interpreter.scanOnce (fuel + 1) depth)
      (interpreter.scanOnce (fuel' + 1) depth) := by
  intro text hfuel
  cases text with
  | nil => rfl
  | cons ch text =>
      have hskip := skipWhitespace_length text
      rw [List.length_cons] at hfuel
      rw [scanOnce.eq_def, scanOnce.eq_def]
      dsimp only
      split
      · rfl
      · split
        · split
          · rfl
          · rfl
          · rw [hmembers _ _ _ (by omega)]
        · split
          · split
            · rfl
            · rfl
            · rw [hitems _ _ _ (by omega)]
          · rfl

/-- Nor does it for the members of an object. -/
theorem scanMembers_agree
    (honce : ∀ depth, AgreeWithin 1 fuel (interpreter.scanOnce fuel depth)
      (interpreter.scanOnce fuel' depth))
    (hmembers : ∀ depth members, AgreeWithin 2 fuel (interpreter.scanMembers fuel depth members)
      (interpreter.scanMembers fuel' depth members)) (depth : Nat) (members : Event) :
    AgreeWithin 2 (fuel + 1) (interpreter.scanMembers (fuel + 1) depth members)
      (interpreter.scanMembers (fuel' + 1) depth members) := by
  intro text hfuel
  rw [scanMembers.eq_def, scanMembers.eq_def]
  dsimp only
  refine Load.bind_congr fun keyText hquote => ?_
  refine Load.bind_congr fun scanned hkey => ?_
  refine Load.bind_congr fun inner hcolon => ?_
  rw [expect_eq_ok] at hquote hcolon
  have h₁ := scanChars_length hkey
  have h₂ := length_lt_of_skipWhitespace hcolon
  have h₃ := skipWhitespace_length inner
  rw [hquote, List.length_cons] at hfuel
  rw [honce depth (skipWhitespace inner) (by omega)]
  refine Load.bind_congr fun found hvalue => ?_
  have h₄ := (scan_length fuel').1 _ _ _ _ hvalue
  split
  · rfl
  · rename_i behind heq
    have h₅ := length_lt_of_skipWhitespace heq
    have h₆ := skipWhitespace_length behind
    exact hmembers _ _ _ (by omega)
  · rfl

/-- Nor does it for the items of an array. -/
theorem scanItems_agree
    (honce : ∀ depth, AgreeWithin 1 fuel (interpreter.scanOnce fuel depth)
      (interpreter.scanOnce fuel' depth))
    (hitems : ∀ depth items, AgreeWithin 2 fuel (interpreter.scanItems fuel depth items)
      (interpreter.scanItems fuel' depth items)) (depth : Nat) (items : List Value) :
    AgreeWithin 2 (fuel + 1) (interpreter.scanItems (fuel + 1) depth items)
      (interpreter.scanItems (fuel' + 1) depth items) := by
  intro text hfuel
  rw [scanItems.eq_def, scanItems.eq_def]
  dsimp only
  rw [honce depth text (by omega)]
  refine Load.bind_congr fun found hvalue => ?_
  have h₁ := (scan_length fuel').1 _ _ _ _ hvalue
  split
  · rfl
  · rename_i behind heq
    have h₂ := length_lt_of_skipWhitespace heq
    have h₃ := skipWhitespace_length behind
    exact hitems _ _ _ (by omega)
  · rfl

end

/-- There is always enough fuel: more makes no difference. -/
theorem scan_fuel {fuel fuel' : Nat} (hle : fuel ≤ fuel') :
    (∀ depth, AgreeWithin 1 fuel (interpreter.scanOnce fuel depth)
        (interpreter.scanOnce fuel' depth)) ∧
      (∀ depth members, AgreeWithin 2 fuel (interpreter.scanMembers fuel depth members)
        (interpreter.scanMembers fuel' depth members)) ∧
      ∀ depth items, AgreeWithin 2 fuel (interpreter.scanItems fuel depth items)
        (interpreter.scanItems fuel' depth items) := by
  induction fuel generalizing fuel' with
  | zero =>
      refine ⟨?_, ?_, ?_⟩
      · intro depth text hfuel
        omega
      · intro depth members text hfuel
        omega
      · intro depth items text hfuel
        omega
  | succ fuel ih =>
      cases fuel' with
      | zero => contradiction
      | succ fuel' =>
          obtain ⟨honce, hmembers, hitems⟩ := ih (Nat.le_of_succ_le_succ hle)
          exact ⟨scanOnce_agree hmembers hitems, scanMembers_agree honce hmembers,
            scanItems_agree honce hitems⟩

/-- No text is refused for lack of fuel. -/
theorem decode_fuel (depth : Nat) (text : Text) {fuel : Nat} (h : 2 * text.length + 1 ≤ fuel) :
    interpreter.scanOnce (2 * text.length + 1) depth (skipWhitespace text) =
      interpreter.scanOnce fuel depth (skipWhitespace text) := by
  have hskip := skipWhitespace_length text
  exact (scan_fuel h).1 depth (skipWhitespace text) (by omega)

/-! ## What is read back -/

/-- A text that a number does not go on with. -/
def EndsNumber (rest : Text) : Prop :=
  ∀ ch ∈ rest.head?, ch.isDigit = false ∧ ch ≠ '.' ∧ ch ≠ 'e' ∧ ch ≠ 'E'

/-- No number but zero begins with a zero. -/
theorem toDigits_head (n : Nat) :
    Nat.toDigits 10 n = ['0'] ∨ ∃ ch digits, Nat.toDigits 10 n = ch :: digits ∧ ch ≠ '0' := by
  induction n using Nat.strong_induction_on with
  | _ n ih =>
      by_cases hn : n < 10
      · have hdigit : ∀ n < 10, n = 0 ∨ n.digitChar ≠ '0' := by decide
        rw [Nat.toDigits_of_lt_base hn]
        rcases hdigit n hn with rfl | hne
        · exact Or.inl rfl
        · exact Or.inr ⟨_, [], rfl, hne⟩
      · right
        rw [Nat.toDigits_of_base_le (by decide) (Nat.not_lt.mp hn)]
        rcases ih (n / 10) (Nat.div_lt_self (by omega) (by decide)) with hzero | ⟨ch, digits, h, hch⟩
        · have hdiv : n / 10 = 0 := by
            have hvalue := Nat.ofDigitChars_ten_toDigits (n := n / 10)
            rw [hzero] at hvalue
            exact hvalue.symm
          omega
        · exact ⟨ch, digits ++ [_], by rw [h, List.cons_append], hch⟩

/-- The digits of a number are its whole part. -/
theorem wholePart_toDigits (n : Nat) {rest : Text} (hrest : EndsNumber rest) :
    wholePart (Nat.toDigits 10 n ++ rest) = .ok (Nat.toDigits 10 n, rest) := by
  rcases toDigits_head n with hzero | ⟨ch, digits, hdigits, hch⟩
  · rw [hzero]
    rfl
  · have hall : ∀ c ∈ ch :: digits, c.isDigit = true := by
      intro c hc
      rw [← hdigits] at hc
      exact Nat.isDigit_of_mem_toDigits (by decide) (by decide) hc
    have hrest' : rest.takeWhile Char.isDigit = [] ∧ rest.dropWhile Char.isDigit = rest := by
      cases rest with
      | nil => exact ⟨rfl, rfl⟩
      | cons c rest =>
          have hc := (hrest c rfl).1
          simp [hc]
    have htail : ∀ c ∈ digits, c.isDigit = true := fun c hc => hall c (List.mem_cons_of_mem _ hc)
    rw [hdigits, List.cons_append, wholePart, if_neg hch, if_pos (hall ch List.mem_cons_self),
      List.takeWhile_append_of_pos htail, List.dropWhile_append_of_pos htail, hrest'.1, hrest'.2,
      List.append_nil]

/-- An integer in decimal digits is read back. -/
theorem scanNumber_natural {n : Nat} (hn : (Nat.toDigits 10 n).length ≤ 640) {rest : Text}
    (hrest : EndsNumber rest) :
    interpreter.scanNumber false (Nat.toDigits 10 n ++ rest) = .ok (.int n, rest) := by
  have hfraction : fractionPart rest = ([], rest) := by
    cases rest with
    | nil => rfl
    | cons ch rest => simp [fractionPart, (hrest ch rfl).2.1]
  have hexponent : exponentPart rest = ([], rest) := by
    cases rest with
    | nil => rfl
    | cons ch rest => simp [exponentPart, (hrest ch rfl).2.2.1, (hrest ch rfl).2.2.2]
  have hlimit : interpreter.maxStrDigits.any (· < (Nat.toDigits 10 n).length) = false := by
    cases hmax : interpreter.maxStrDigits with
    | none => rfl
    | some limit =>
        have := interpreter.digits_ge limit hmax
        simp only [Option.any_some, decide_eq_false_iff_not]
        omega
  have hvalue : interpreter.toInt false (Nat.toDigits 10 n) = .ok (.int n) := by
    rw [toInt, if_neg (by simp [hlimit]), Nat.ofDigitChars_ten_toDigits]
    rfl
  unfold scanNumber
  rw [wholePart_toDigits n hrest]
  simp only [Load.ok_bind, hfraction, hexponent, hvalue, and_self, if_true]
  rfl

/-- A value is read from its text, whatever follows. -/
structure Shows (interpreter : Interpreter) (value : Value) (text : Text) : Prop where
  starts : ∃ ch rest, text = ch :: rest ∧ isWhitespace ch = false
  read : ∀ (fuel depth : Nat) (rest : Text), EndsNumber rest →
    interpreter.scanOnce (fuel + 1) depth (text ++ rest) = .ok (value, rest)

/-- A natural number is read from its digits, up to Python's limit. -/
theorem shows_natural {n : Nat} (hn : (Nat.toDigits 10 n).length ≤ 640) :
    Shows interpreter (.int n) (Nat.toDigits 10 n) := by
  obtain ⟨ch, digits, hdigits⟩ := List.exists_cons_of_ne_nil (Nat.toDigits_ne_nil (n := n) (b := 10))
  have hdigit : ch.isDigit = true := by
    refine Nat.isDigit_of_mem_toDigits (b := 10) (n := n) (by decide) (by decide) ?_
    rw [hdigits]
    exact List.mem_cons_self
  have hne : ∀ other : Char, other.isDigit = false → ch ≠ other := by
    rintro other hother rfl
    rw [hdigit] at hother
    cases hother
  refine ⟨⟨ch, digits, hdigits, ?_⟩, ?_⟩
  · simp [isWhitespace, hne]
  · intro fuel depth rest hrest
    have hnumber : interpreter.scanNumber false (Nat.toDigits 10 n ++ rest) = .ok (.int n, rest) :=
      scanNumber_natural hn hrest
    rw [hdigits, List.cons_append] at hnumber ⊢
    have hconstant : constants.find? (fun constant =>
        constant.1.isPrefixOf (ch :: (digits ++ rest))) = none := by
      have hn := (hne 'n' rfl).symm
      have ht := (hne 't' rfl).symm
      have hf := (hne 'f' rfl).symm
      have hN := (hne 'N' rfl).symm
      have hI := (hne 'I' rfl).symm
      have hminus := (hne '-' rfl).symm
      simp [constants, List.isPrefixOf, hn, ht, hf, hN, hI, hminus]
    rw [scanOnce.eq_def]
    dsimp only
    rw [if_neg (hne _ rfl), if_neg (hne _ rfl), if_neg (hne _ rfl), scanAtom, hconstant]
    · exact hnumber
    · intro rest' heq
      exact hne '-' rfl (List.cons.inj heq).1

/-- A string is read from its text, if that is read as a string. -/
theorem shows_string {value text : Text}
    (h : ∀ rest, interpreter.scanString (text ++ '"' :: rest) = .ok (value, rest)) :
    Shows interpreter (.str value) ('"' :: (text ++ ['"'])) := by
  refine ⟨⟨'"', _, rfl, by decide⟩, ?_⟩
  intro fuel depth rest _
  rw [List.cons_append, List.append_assoc, List.singleton_append, scanOnce.eq_def]
  dsimp only
  rw [if_pos rfl, h]
  rfl

/-! ## Objects -/

/-- A member of an object, with the text of its value. -/
def memberText (key text : Text) : Text :=
  '"' :: (key ++ '"' :: ':' :: text)

/-- An object with a first key is read member by member. -/
theorem scanOnce_object (fuel depth : Nat) (rest : Text) :
    interpreter.scanOnce (fuel + 1) (depth + 1) ('{' :: '"' :: rest) =
      interpreter.scanMembers fuel depth [] ('"' :: rest) >>= fun scanned =>
        pure (.dict scanned.1, scanned.2) := by
  rw [scanOnce.eq_def]
  dsimp only
  rw [if_neg (by decide), if_pos rfl, skipWhitespace_cons (by decide)]
  rfl

/-- A turn of the loop, up to the value of the member. -/
theorem scanMembers_key {key : Text} (hkey : ∀ ch ∈ key, Plain ch) (fuel depth : Nat)
    (members : Event) (rest : Text) :
    interpreter.scanMembers (fuel + 1) depth members (memberText key rest) =
      interpreter.scanOnce fuel depth (skipWhitespace rest) >>= fun scanned =>
        match skipWhitespace scanned.2 with
        | '}' :: rest => pure (members.set key scanned.1, rest)
        | ',' :: rest =>
            interpreter.scanMembers fuel depth (members.set key scanned.1) (skipWhitespace rest)
        | _ => .error .decodeError := by
  have hcolon : expect ':' (skipWhitespace (':' :: rest)) = .ok rest := by
    rw [skipWhitespace_cons (by decide), expect_eq_ok]
  rw [scanMembers.eq_def]
  dsimp only
  rw [memberText, expect_eq_ok.mpr rfl, Load.ok_bind, scanString_literal hkey, Load.ok_bind]
  dsimp only
  rw [hcolon, Load.ok_bind]

variable {key text : Text} {value : Value}

/-- A member is read if its value is. -/
theorem scanMembers_value (hkey : ∀ ch ∈ key, Plain ch) (hvalue : Shows interpreter value text)
    (fuel depth : Nat) (members : Event) {rest : Text} (hrest : EndsNumber rest) :
    interpreter.scanMembers (fuel + 2) depth members (memberText key (text ++ rest)) =
      match skipWhitespace rest with
      | '}' :: rest => .ok (members.set key value, rest)
      | ',' :: rest =>
          interpreter.scanMembers (fuel + 1) depth (members.set key value) (skipWhitespace rest)
      | _ => .error .decodeError := by
  obtain ⟨ch, inner, htext, hch⟩ := hvalue.starts
  have hskip : skipWhitespace (text ++ rest) = text ++ rest := by
    rw [htext, List.cons_append, skipWhitespace_cons hch]
  rw [scanMembers_key hkey, hskip, hvalue.read fuel depth rest hrest, Load.ok_bind]
  rfl

/-- The last member of an object. -/
theorem scanMembers_last (hkey : ∀ ch ∈ key, Plain ch) (hvalue : Shows interpreter value text)
    (fuel depth : Nat) (members : Event) (rest : Text) :
    interpreter.scanMembers (fuel + 2) depth members (memberText key (text ++ '}' :: rest)) =
      .ok (members.set key value, rest) := by
  have hrest : EndsNumber ('}' :: rest) := by
    intro ch hch
    cases hch
    decide
  rw [scanMembers_value hkey hvalue fuel depth members hrest, skipWhitespace_cons (by decide)]
  rfl

/-- A member that is followed by another one. -/
theorem scanMembers_more (hkey : ∀ ch ∈ key, Plain ch) (hvalue : Shows interpreter value text)
    (fuel depth : Nat) (members : Event) (key' rest : Text) :
    interpreter.scanMembers (fuel + 2) depth members
        (memberText key (text ++ ',' :: memberText key' rest)) =
      interpreter.scanMembers (fuel + 1) depth (members.set key value) (memberText key' rest) := by
  have hrest : EndsNumber (',' :: memberText key' rest) := by
    intro ch hch
    cases hch
    decide
  have hnext : skipWhitespace (memberText key' rest) = memberText key' rest :=
    skipWhitespace_cons (by decide) _
  rw [scanMembers_value hkey hvalue fuel depth members hrest, skipWhitespace_cons (by decide)]
  change interpreter.scanMembers (fuel + 1) depth _ (skipWhitespace (memberText key' rest)) = _
  rw [hnext]

/-- A member whose string is faulty. -/
theorem scanMembers_faulty (hkey : ∀ ch ∈ key, Plain ch) {fault : LoadFault}
    (htext : interpreter.scanString text = .error fault) (fuel depth : Nat) (members : Event) :
    interpreter.scanMembers (fuel + 2) depth members (memberText key ('"' :: text)) =
      .error fault := by
  rw [scanMembers_key hkey, skipWhitespace_cons (by decide), scanOnce.eq_def]
  dsimp only
  rw [if_pos rfl, htext]
  rfl

/-- A text that begins with a member is decoded by the loop over the members. -/
theorem decode_object (interpreter : Interpreter) (key rest : Text) :
    ∃ fuel, interpreter.decode ('{' :: memberText key rest) =
      interpreter.scanMembers (fuel + 6) interpreter.recursion [] (memberText key rest) >>=
        fun scanned =>
          if skipWhitespace scanned.2 = [] then pure (.dict scanned.1) else throw .decodeError := by
  refine ⟨2 * (key.length + rest.length) + 2, ?_⟩
  have hfuel : 2 * ('{' :: memberText key rest).length + 1 =
      2 * (key.length + rest.length) + 2 + 6 + 1 := by
    simp only [memberText, List.length_cons, List.length_append]
    omega
  unfold decode
  rw [hfuel, skipWhitespace_cons (by decide), memberText, scanOnce_object]
  cases interpreter.scanMembers (2 * (key.length + rest.length) + 2 + 6) interpreter.recursion []
      ('"' :: (key ++ '"' :: ':' :: rest)) with
  | error fault => rfl
  | ok scanned => rfl

/-- The first member that is read has a key and a colon. -/
theorem scanMembers_begin {fuel depth : Nat} {members : Event} {result : Event × Text}
    (h : interpreter.scanMembers fuel depth members text = .ok result) :
    ∃ keyText key behind rest, text = '"' :: keyText ∧
      interpreter.scanString keyText = .ok (key, behind) ∧
      skipWhitespace behind = ':' :: rest := by
  cases fuel with
  | zero => cases h
  | succ fuel =>
      rw [scanMembers.eq_def] at h
      obtain ⟨keyText, hquote, h⟩ := Load.bind_eq_ok.mp h
      obtain ⟨⟨key, behind⟩, hkey, h⟩ := Load.bind_eq_ok.mp h
      obtain ⟨rest, hcolon, -⟩ := Load.bind_eq_ok.mp h
      exact ⟨keyText, key, behind, rest, expect_eq_ok.mp hquote, hkey, expect_eq_ok.mp hcolon⟩

/-- No number is an object. -/
theorem scanNumber_ne_dict {negative : Bool} {event : Event} {rest : Text} :
    interpreter.scanNumber negative text ≠ .ok (.dict event, rest) := by
  intro h
  obtain ⟨⟨whole, behind⟩, -, h⟩ := Load.bind_eq_ok.mp h
  dsimp only at h
  split at h
  · obtain ⟨number, hnumber, h⟩ := Load.bind_eq_ok.mp h
    cases h
    unfold toInt at hnumber
    split at hnumber
    · cases hnumber
    · cases hnumber
  · cases h

/-- No value that is not composed is an object. -/
theorem scanAtom_ne_dict {event : Event} {rest : Text} :
    interpreter.scanAtom text ≠ .ok (.dict event, rest) := by
  intro h
  unfold scanAtom at h
  split at h
  · rename_i word value hfound
    have hmem := List.mem_of_find?_eq_some hfound
    cases h
    simp [constants] at hmem
  · split at h
    · exact scanNumber_ne_dict h
    · exact scanNumber_ne_dict h

/-- A text that is read as an object with members begins with a brace, a key and a colon. -/
theorem loads_dict {text : Text} {event : Event}
    (h : interpreter.loads text = .value (.dict event)) (hne : event ≠ []) :
    ∃ inner keyText key behind value, skipWhitespace text = '{' :: inner ∧
      skipWhitespace inner = '"' :: keyText ∧
      interpreter.scanString keyText = .ok (key, behind) ∧
      skipWhitespace behind = ':' :: value := by
  have hdecode : interpreter.decode text = .ok (.dict event) := by
    unfold loads at h
    split at h
    · rename_i value hvalue
      cases h
      exact hvalue
    · cases h
    · cases h
  obtain ⟨⟨value, rest⟩, hscan, hvalue⟩ := Load.bind_eq_ok.mp hdecode
  have hdict : value = .dict event := by
    dsimp only at hvalue
    split at hvalue
    · exact Load.pure_eq_ok.mp hvalue
    · cases hvalue
  subst hdict
  clear hvalue
  cases hskip : skipWhitespace text with
  | nil =>
      rw [hskip] at hscan
      cases hscan
  | cons ch inner =>
      rw [hskip, scanOnce.eq_def] at hscan
      dsimp only at hscan
      split at hscan
      · obtain ⟨scanned, -, hvalue⟩ := Load.bind_eq_ok.mp hscan
        cases hvalue
      · split at hscan
        · rename_i hbrace
          subst hbrace
          split at hscan
          · cases hscan
          · cases hscan
            exact absurd rfl hne
          · obtain ⟨scanned, hmembers, -⟩ := Load.bind_eq_ok.mp hscan
            obtain ⟨keyText, key, behind, value, hquote, hkey, hcolon⟩ :=
              scanMembers_begin hmembers
            exact ⟨inner, keyText, key, behind, value, rfl, hquote, hkey, hcolon⟩
        · split at hscan
          · split at hscan
            · cases hscan
            · cases hscan
            · obtain ⟨scanned, -, hvalue⟩ := Load.bind_eq_ok.mp hscan
              cases hvalue
          · exact absurd hscan scanAtom_ne_dict

/-- An empty text is no JSON. -/
theorem loads_nil : interpreter.loads [] = .jsonDecodeError :=
  rfl

/-- The interpreter reads JSON with this parser. -/
theorem python_loads (text : Text) : interpreter.python.loads text = interpreter.loads text :=
  rfl

end Interpreter

/-- An interpreter with the usual limits. -/
def sampleInterpreter : Interpreter where
  recursion := 990
  maxStrDigits := some 4300
  digits_ge := by decide
  loneSurrogate _ := '\ufffd'
  isSurrogate ch := ch = '\ufffd'
  isSurrogate_iff := by simp [eq_comm]
  loneSurrogate_ge _ := by decide
  repr _ := "None".toList
  repr_escapes := fun _ => by decide
  equal _ _ := false
  lower text := text.map Char.toLower
  serializable _ := true

end SctpConformance.Runner
