import SctpConformance.Library.Utf8
import Mathlib.Data.List.TakeWhile

/-!
# JSON texts

A reader for JSON at the level of bytes, and the texts that a program writes when it
puts no whitespace between tokens.  Numbers keep their token; strings are bytes, so
that a text need not be in UTF-8 to be read.

Main results:

- Definition `readJson`: the reader.
- Definition `Json.text`: the compact text of a value.
- Theorem `readJson_text`: the reader gives back the value of a compact text.
- Definition `Json.field`: the member of an object with a given key, decoded.
- Theorem `Json.text_printable`: a compact text has no control bytes.
- Theorem `Json.isUtf8_text`: a compact text is in UTF-8 if its strings are.
- Definition `ValidJson`: a JSON text in UTF-8.
-/

namespace SctpConformance.Library

/-- Texts are lists of bytes. -/
abbrev Bytes := List UInt8

/-! ## Numbers -/

/-- The decimal digits. -/
def isDigit (ch : UInt8) : Bool :=
  48 ≤ ch && ch ≤ 57

/-- The bytes that occur in numbers. -/
def isNumberByte (ch : UInt8) : Bool :=
  isDigit ch || ch = 43 || ch = 45 || ch = 46 || ch = 69 || ch = 101

/-- The exponent of a number, if it has one. -/
def isExponent : Bytes → Bool
  | [] => true
  | e :: rest =>
      let digits := if rest.head? = some 43 ∨ rest.head? = some 45 then rest.tail else rest
      (e = 69 || e = 101) && !digits.isEmpty && digits.all isDigit

/-- The fraction and the exponent of a number, if it has them. -/
def isFraction : Bytes → Bool
  | [] => true
  | ch :: rest =>
      if ch = 46 then !(rest.takeWhile isDigit).isEmpty && isExponent (rest.dropWhile isDigit)
      else isExponent (ch :: rest)

/-- A number without its sign; its whole part does not begin with a needless zero. -/
def isUnsigned (token : Bytes) : Bool :=
  let whole := token.takeWhile isDigit
  (whole = [48] || (!whole.isEmpty && whole.head? ≠ some 48)) &&
    isFraction (token.dropWhile isDigit)

/-- A number, with or without a sign. -/
def isNumber : Bytes → Bool
  | [] => false
  | ch :: rest => if ch = 45 then isUnsigned rest else isUnsigned (ch :: rest)

/-- The token of a number. -/
abbrev NumberToken := { token : Bytes // isNumber token = true }

/-- The values; an object keeps its members in order, also those with the same key. -/
inductive Json where
  | null
  | bool (value : Bool)
  | number (token : NumberToken)
  | string (value : Bytes)
  | array (elements : List Json)
  | object (members : List (Bytes × Json))

/-! ## The reader -/

/-- The bytes that may stand between tokens. -/
def isJsonSpace (ch : UInt8) : Bool :=
  ch = 32 || ch = 9 || ch = 10 || ch = 13

/-- What follows the whitespace. -/
def skipSpaces (input : Bytes) : Bytes :=
  input.dropWhile isJsonSpace

/-- The value of a hexadecimal digit. -/
def hexDigitValue (digit : UInt8) : Option Nat :=
  if 48 ≤ digit ∧ digit ≤ 57 then some (digit.toNat - 48)
  else if 65 ≤ digit ∧ digit ≤ 70 then some (digit.toNat - 55)
  else if 97 ≤ digit ∧ digit ≤ 102 then some (digit.toNat - 87)
  else none

/-- Four hexadecimal digits. -/
def readCodeUnit : Bytes → Option (Nat × Bytes)
  | a :: b :: c :: d :: rest =>
      match hexDigitValue a, hexDigitValue b, hexDigitValue c, hexDigitValue d with
      | some a, some b, some c, some d => some (((a * 16 + b) * 16 + c) * 16 + d, rest)
      | _, _, _, _ => none
  | _ => none

/-- The second escape of a pair whose first one named `high`. -/
def readLowHalf (high : Nat) : Bytes → Option (Bytes × Bytes)
  | 92 :: 117 :: rest =>
      match readCodeUnit rest with
      | none => none
      | some (low, rest) =>
          if 0xDC00 ≤ low ∧ low ≤ 0xDFFF then
            let code := 0x10000 + (high - 0xD800) * 0x400 + (low - 0xDC00)
            some (String.utf8EncodeChar (Char.ofNat code), rest)
          else none
  | _ => none

/-- What follows `\u`; half of a pair must be followed by the other half. -/
def readUnicode (input : Bytes) : Option (Bytes × Bytes) :=
  match readCodeUnit input with
  | none => none
  | some (code, rest) =>
      if 0xD800 ≤ code ∧ code ≤ 0xDBFF then readLowHalf code rest
      else if 0xDC00 ≤ code ∧ code ≤ 0xDFFF then none
      else some (String.utf8EncodeChar (Char.ofNat code), rest)

/-- What the two-character escapes stand for. -/
def escapeValue (ch : UInt8) : Option UInt8 :=
  if ch = 34 ∨ ch = 92 ∨ ch = 47 then some ch
  else if ch = 98 then some 8
  else if ch = 102 then some 12
  else if ch = 110 then some 10
  else if ch = 114 then some 13
  else if ch = 116 then some 9
  else none

/-- What follows a backslash. -/
def readEscaped : Bytes → Option (Bytes × Bytes)
  | [] => none
  | ch :: rest =>
      if ch = 117 then readUnicode rest
      else
        match escapeValue ch with
        | some value => some ([value], rest)
        | none => none

/-- A string behind its opening quote, and what follows it. -/
def readChars : Nat → Bytes → Option (Bytes × Bytes)
  | 0, _ => none
  | _ + 1, [] => none
  | fuel + 1, ch :: rest =>
      if ch = 34 then some ([], rest)
      else if ch = 92 then
        match readEscaped rest with
        | none => none
        | some (bytes, rest) =>
            match readChars fuel rest with
            | none => none
            | some (value, rest) => some (bytes ++ value, rest)
      else if ch < 32 then none
      else
        match readChars fuel rest with
        | none => none
        | some (value, rest) => some (ch :: value, rest)

/-- A string with its opening quote, and what follows it. -/
def readString (input : Bytes) : Option (Bytes × Bytes) :=
  match input with
  | [] => none
  | ch :: rest => if ch = 34 then readChars (rest.length + 1) rest else none

/-- A number is read as far as its bytes go. -/
def readNumber (input : Bytes) : Option (Json × Bytes) :=
  if h : isNumber (input.takeWhile isNumberByte) = true then
    some (.number ⟨input.takeWhile isNumberByte, h⟩, input.dropWhile isNumberByte)
  else none

/-- The word at the beginning of the input. -/
def readWord (word : Bytes) (value : Json) (input : Bytes) : Option (Json × Bytes) :=
  if word.isPrefixOf input then some (value, input.drop word.length) else none

mutual

/-- A value, and what follows it; every level of the value takes one unit of fuel. -/
def readValue : Nat → Bytes → Option (Json × Bytes)
  | 0, _ => none
  | fuel + 1, input =>
      match skipSpaces input with
      | [] => none
      | ch :: rest =>
          if ch = 34 then
            match readString (ch :: rest) with
            | none => none
            | some (value, rest) => some (.string value, rest)
          else if ch = 123 then
            match skipSpaces rest with
            | [] => none
            | next :: inner =>
                if next = 125 then some (.object [], inner)
                else
                  match readMembers fuel (next :: inner) with
                  | none => none
                  | some (members, rest) => some (.object members, rest)
          else if ch = 91 then
            match skipSpaces rest with
            | [] => none
            | next :: inner =>
                if next = 93 then some (.array [], inner)
                else
                  match readElements fuel (next :: inner) with
                  | none => none
                  | some (elements, rest) => some (.array elements, rest)
          else if ch = 116 then readWord [116, 114, 117, 101] (.bool true) (ch :: rest)
          else if ch = 102 then readWord [102, 97, 108, 115, 101] (.bool false) (ch :: rest)
          else if ch = 110 then readWord [110, 117, 108, 108] .null (ch :: rest)
          else readNumber (ch :: rest)

/-- The members of an object up to its closing brace. -/
def readMembers : Nat → Bytes → Option (List (Bytes × Json) × Bytes)
  | 0, _ => none
  | fuel + 1, input =>
      match readString (skipSpaces input) with
      | none => none
      | some (key, rest) =>
          match skipSpaces rest with
          | [] => none
          | colon :: rest =>
              if colon = 58 then
                match readValue fuel rest with
                | none => none
                | some (value, rest) =>
                    match skipSpaces rest with
                    | [] => none
                    | next :: rest =>
                        if next = 125 then some ([(key, value)], rest)
                        else if next = 44 then
                          match readMembers fuel rest with
                          | none => none
                          | some (members, rest) => some ((key, value) :: members, rest)
                        else none
              else none

/-- The elements of an array up to its closing bracket. -/
def readElements : Nat → Bytes → Option (List Json × Bytes)
  | 0, _ => none
  | fuel + 1, input =>
      match readValue fuel input with
      | none => none
      | some (value, rest) =>
          match skipSpaces rest with
          | [] => none
          | next :: rest =>
              if next = 93 then some ([value], rest)
              else if next = 44 then
                match readElements fuel rest with
                | none => none
                | some (elements, rest) => some (value :: elements, rest)
              else none

end

/-- The value of a text that is nothing but one JSON value, with optional whitespace
around it. -/
def readJson (input : Bytes) : Option Json :=
  match readValue (input.length + 1) input with
  | none => none
  | some (value, rest) => if skipSpaces rest = [] then some value else none

/-! ## Compact texts -/

/-- One lower-case hexadecimal digit. -/
def lowerHexDigit (n : Nat) : UInt8 :=
  if n < 10 then UInt8.ofNat (48 + n) else UInt8.ofNat (87 + n)

/-- A byte of a string; control bytes, quotes and backslashes are escaped. -/
def escaped (ch : UInt8) : Bytes :=
  if ch = 92 then [92, 92]
  else if ch = 34 then [92, 34]
  else if ch = 10 then [92, 110]
  else if ch = 13 then [92, 114]
  else if ch = 9 then [92, 116]
  else if ch < 32 then
    [92, 117, 48, 48, lowerHexDigit (ch.toNat / 16), lowerHexDigit (ch.toNat % 16)]
  else [ch]

/-- A string between its quotes. -/
def quoted (value : Bytes) : Bytes :=
  34 :: (value.flatMap escaped ++ [34])

mutual

/-- The compact text of a value. -/
def Json.text : Json → Bytes
  | .null => [110, 117, 108, 108]
  | .bool true => [116, 114, 117, 101]
  | .bool false => [102, 97, 108, 115, 101]
  | .number token => token.val
  | .string value => quoted value
  | .array [] => [91, 93]
  | .array (value :: elements) => 91 :: (value.text ++ Json.moreElements elements)
  | .object [] => [123, 125]
  | .object ((key, value) :: members) =>
      123 :: (quoted key ++ 58 :: (value.text ++ Json.moreMembers members))

/-- The elements of an array after its first one. -/
def Json.moreElements : List Json → Bytes
  | [] => [93]
  | value :: elements => 44 :: (value.text ++ Json.moreElements elements)

/-- The members of an object after its first one. -/
def Json.moreMembers : List (Bytes × Json) → Bytes
  | [] => [125]
  | (key, value) :: members =>
      44 :: (quoted key ++ 58 :: (value.text ++ Json.moreMembers members))

end

/-- The elements of an array and its closing bracket. -/
def Json.elementsText : List Json → Bytes
  | [] => [93]
  | value :: elements => value.text ++ Json.moreElements elements

/-- The members of an object and its closing brace. -/
def Json.membersText : List (Bytes × Json) → Bytes
  | [] => [125]
  | (key, value) :: members => quoted key ++ 58 :: (value.text ++ Json.moreMembers members)

theorem Json.text_array (elements : List Json) :
    (Json.array elements).text = 91 :: Json.elementsText elements := by
  cases elements with
  | nil => rfl
  | cons value elements => rfl

theorem Json.text_object (members : List (Bytes × Json)) :
    (Json.object members).text = 123 :: Json.membersText members := by
  cases members with
  | nil => rfl
  | cons member members => rfl

/-- Members that come after others, each with the comma before it. -/
def Json.following (members : List (Bytes × Json)) : Bytes :=
  members.flatMap fun member => 44 :: (quoted member.1 ++ 58 :: member.2.text)

/-- The members behind the first one, and the closing brace. -/
theorem Json.moreMembers_eq (members : List (Bytes × Json)) :
    Json.moreMembers members = Json.following members ++ [125] := by
  induction members with
  | nil => rfl
  | cons member members ih =>
      rw [Json.moreMembers, ih, following, following, List.flatMap_cons]
      simp

/-- The text of the members is put together piece by piece. -/
theorem Json.following_append (members members' : List (Bytes × Json)) :
    Json.following (members ++ members') = Json.following members ++ Json.following members' :=
  List.flatMap_append

theorem Json.following_cons (key : Bytes) (value : Json) (members : List (Bytes × Json)) :
    Json.following ((key, value) :: members) =
      44 :: (quoted key ++ 58 :: value.text) ++ Json.following members :=
  rfl

/-- The text of an object, around its first member. -/
theorem Json.text_object_cons (key : Bytes) (value : Json) (members : List (Bytes × Json)) :
    (Json.object ((key, value) :: members)).text =
      123 :: (quoted key ++ 58 :: (value.text ++ (Json.following members ++ [125]))) := by
  rw [Json.text, Json.moreMembers_eq]

/-! ## Strings are read back -/

/-- A digit that has been written is read back. -/
theorem hexDigitValue_lower {n : Nat} (h : n < 16) : hexDigitValue (lowerHexDigit n) = some n := by
  have hall : ∀ n < 16, hexDigitValue (lowerHexDigit n) = some n := by decide
  exact hall n h

/-- The escape of a control byte names the byte. -/
theorem readUnicode_control {ch : UInt8} (h : ch < 32) (rest : Bytes) :
    readUnicode (48 :: 48 :: lowerHexDigit (ch.toNat / 16) ::
      lowerHexDigit (ch.toNat % 16) :: rest) = some ([ch], rest) := by
  have hlt : ch.toNat < 32 := UInt8.lt_iff_toNat_lt.mp h
  have hzero : hexDigitValue 48 = some 0 := by decide
  have hhigh := hexDigitValue_lower (show ch.toNat / 16 < 16 by omega)
  have hlow := hexDigitValue_lower (show ch.toNat % 16 < 16 by omega)
  have hcode : ((0 * 16 + 0) * 16 + ch.toNat / 16) * 16 + ch.toNat % 16 = ch.toNat := by omega
  have hascii : ch < 0x80 := UInt8.lt_trans h (by decide)
  simp only [readUnicode, readCodeUnit, hzero, hhigh, hlow, hcode]
  rw [if_neg (by omega), if_neg (by omega), utf8EncodeChar_ascii hascii]

/-- One turn of the string loop reads one escaped byte. -/
theorem readChars_escaped (ch : UInt8) (fuel : Nat) (rest : Bytes) :
    readChars (fuel + 1) (escaped ch ++ rest) =
      match readChars fuel rest with
      | none => none
      | some (value, rest) => some (ch :: value, rest) := by
  unfold escaped
  split
  · rename_i h
    subst h
    rfl
  · split
    · rename_i h
      subst h
      rfl
    · split
      · rename_i h
        subst h
        rfl
      · split
        · rename_i h
          subst h
          rfl
        · split
          · rename_i h
            subst h
            rfl
          · split
            · rename_i hcontrol
              simp only [List.cons_append, List.nil_append]
              rw [readChars, if_neg (by decide), if_pos rfl, readEscaped, if_pos rfl,
                readUnicode_control hcontrol]
              rfl
            · rename_i hbackslash hquote _ _ _ hcontrol
              simp only [List.cons_append, List.nil_append]
              rw [readChars, if_neg hquote, if_neg hbackslash, if_neg hcontrol]

/-- The inside of a string is read up to its closing quote. -/
theorem readChars_text (value : Bytes) {fuel : Nat} (hfuel : value.length < fuel) (rest : Bytes) :
    readChars fuel (value.flatMap escaped ++ 34 :: rest) = some (value, rest) := by
  induction value generalizing fuel with
  | nil =>
      cases fuel with
      | zero => simp at hfuel
      | succ fuel => rfl
  | cons ch value ih =>
      cases fuel with
      | zero => simp at hfuel
      | succ fuel =>
          have hrest : value.length < fuel := by
            simpa using hfuel
          rw [List.flatMap_cons, List.append_assoc, readChars_escaped, ih hrest]

/-- Escapes make a string no shorter. -/
theorem length_le_escaped (value : Bytes) : value.length ≤ (value.flatMap escaped).length := by
  induction value with
  | nil => exact Nat.le_refl 0
  | cons ch value ih =>
      have hpos : 0 < (escaped ch).length := by
        unfold escaped
        repeat' split
        all_goals exact Nat.zero_lt_succ _
      rw [List.flatMap_cons, List.length_append, List.length_cons]
      omega

/-- A string that has been written is read back. -/
theorem readString_quoted (value rest : Bytes) :
    readString (quoted value ++ rest) = some (value, rest) := by
  have htext : quoted value ++ rest = 34 :: (value.flatMap escaped ++ 34 :: rest) := by
    simp [quoted]
  have hlength := length_le_escaped value
  rw [htext, readString, if_pos rfl]
  apply readChars_text
  simp only [List.length_append, List.length_cons]
  omega

/-! ## Numbers are read back -/

/-- Digits occur in numbers. -/
theorem isNumberByte_of_isDigit {ch : UInt8} (h : isDigit ch = true) : isNumberByte ch = true := by
  simp [isNumberByte, h]

/-- An exponent consists of bytes that occur in numbers. -/
theorem isExponent_bytes {token : Bytes} (h : isExponent token = true) :
    ∀ ch ∈ token, isNumberByte ch = true := by
  cases token with
  | nil => simp
  | cons e rest =>
      simp only [isExponent, Bool.and_eq_true, Bool.or_eq_true, decide_eq_true_eq] at h
      rcases h with ⟨⟨he, -⟩, hdigits⟩
      have hrest : ∀ ch ∈ rest, isNumberByte ch = true := by
        intro ch hch
        rw [List.all_eq_true] at hdigits
        split at hdigits
        · rename_i hsign
          cases rest with
          | nil => contradiction
          | cons sign digits =>
              rcases List.mem_cons.mp hch with rfl | hmem
              · rcases hsign with hsign | hsign
                · rw [Option.some.inj hsign]
                  decide
                · rw [Option.some.inj hsign]
                  decide
              · exact isNumberByte_of_isDigit (hdigits ch hmem)
        · exact isNumberByte_of_isDigit (hdigits ch hch)
      intro ch hch
      rcases List.mem_cons.mp hch with rfl | hmem
      · rcases he with rfl | rfl <;> decide
      · exact hrest ch hmem

/-- So does a row of digits. -/
theorem takeWhile_isDigit_bytes (token : Bytes) :
    ∀ ch ∈ token.takeWhile isDigit, isNumberByte ch = true := by
  intro ch hch
  exact isNumberByte_of_isDigit (List.mem_takeWhile_imp hch)

/-- A token is made of bytes of numbers if what follows its digits is. -/
theorem isNumberByte_of_dropWhile {token : Bytes}
    (h : ∀ ch ∈ token.dropWhile isDigit, isNumberByte ch = true) :
    ∀ ch ∈ token, isNumberByte ch = true := by
  intro ch hch
  rw [← List.takeWhile_append_dropWhile (p := isDigit) (l := token)] at hch
  rcases List.mem_append.mp hch with hdigit | hrest
  · exact takeWhile_isDigit_bytes token ch hdigit
  · exact h ch hrest

/-- A fraction consists of bytes that occur in numbers. -/
theorem isFraction_bytes {token : Bytes} (h : isFraction token = true) :
    ∀ ch ∈ token, isNumberByte ch = true := by
  cases token with
  | nil => simp
  | cons point rest =>
      rw [isFraction] at h
      split at h
      · rename_i hpoint
        rw [Bool.and_eq_true] at h
        have hrest := isNumberByte_of_dropWhile (isExponent_bytes h.2)
        intro ch hch
        rcases List.mem_cons.mp hch with rfl | hmem
        · rw [hpoint]
          decide
        · exact hrest ch hmem
      · exact isExponent_bytes h

/-- So does a number without its sign. -/
theorem isUnsigned_bytes {token : Bytes} (h : isUnsigned token = true) :
    ∀ ch ∈ token, isNumberByte ch = true := by
  simp only [isUnsigned, Bool.and_eq_true] at h
  exact isNumberByte_of_dropWhile (isFraction_bytes h.2)

/-- So does a number. -/
theorem isNumber_bytes {token : Bytes} (h : isNumber token = true) :
    ∀ ch ∈ token, isNumberByte ch = true := by
  cases token with
  | nil => simp
  | cons sign rest =>
      rw [isNumber] at h
      split at h
      · rename_i hsign
        intro ch hch
        rcases List.mem_cons.mp hch with rfl | hmem
        · rw [hsign]
          decide
        · exact isUnsigned_bytes h ch hmem
      · exact isUnsigned_bytes h

/-- No number goes on here. -/
def Delimited (rest : Bytes) : Prop :=
  ∀ ch, rest.head? = some ch → isNumberByte ch = false

/-- A byte that occurs in no number ends one. -/
theorem delimited_cons {ch : UInt8} (h : isNumberByte ch = false) (rest : Bytes) :
    Delimited (ch :: rest) := by
  intro ch' hch'
  rw [← Option.some.inj hch']
  exact h

/-- A number that has been written is read back. -/
theorem readNumber_token (token : NumberToken) {rest : Bytes} (h : Delimited rest) :
    readNumber (token.val ++ rest) = some (.number token, rest) := by
  rcases token with ⟨token, htoken⟩
  have hstop : rest.takeWhile isNumberByte = [] ∧ rest.dropWhile isNumberByte = rest := by
    cases rest with
    | nil => exact ⟨rfl, rfl⟩
    | cons ch rest =>
        have hch := h ch rfl
        simp [hch]
  have htake : (token ++ rest).takeWhile isNumberByte = token := by
    rw [List.takeWhile_append_of_pos (isNumber_bytes htoken), hstop.1, List.append_nil]
  have hdrop : (token ++ rest).dropWhile isNumberByte = rest := by
    rw [List.dropWhile_append_of_pos (isNumber_bytes htoken), hstop.2]
  simp only [readNumber, htake, hdrop, dif_pos htoken]

/-! ## Values are read back -/

/-- A number is not empty. -/
theorem isNumber_head (token : NumberToken) :
    ∃ ch rest, token.val = ch :: rest ∧ isNumberByte ch = true := by
  rcases token with ⟨token, htoken⟩
  cases token with
  | nil => contradiction
  | cons ch rest => exact ⟨ch, rest, rfl, isNumber_bytes htoken ch List.mem_cons_self⟩

/-- The bytes of numbers begin no other token and are not whitespace. -/
theorem isNumberByte_ne {ch : UInt8} (h : isNumberByte ch = true) :
    isJsonSpace ch = false ∧ ch ≠ 34 ∧ ch ≠ 123 ∧ ch ≠ 91 ∧ ch ≠ 93 ∧ ch ≠ 116 ∧ ch ≠ 102 ∧
      ch ≠ 110 := by
  refine ⟨?_, ?_, ?_, ?_, ?_, ?_, ?_, ?_⟩
  · by_contra hspace
    simp only [isJsonSpace, Bool.or_eq_true, decide_eq_true_eq, Bool.not_eq_false] at hspace
    rcases hspace with ((rfl | rfl) | rfl) | rfl <;> exact absurd h (by decide)
  all_goals
    rintro rfl
    exact absurd h (by decide)

/-- Other bytes are not skipped. -/
theorem skipSpaces_cons {ch : UInt8} (h : isJsonSpace ch = false) (rest : Bytes) :
    skipSpaces (ch :: rest) = ch :: rest := by
  rw [skipSpaces, List.dropWhile_cons_of_neg (by rw [h]; decide)]

/-- The first byte of a value is no whitespace and no closing bracket. -/
theorem Json.text_head (v : Json) :
    ∃ ch rest, v.text = ch :: rest ∧ isJsonSpace ch = false ∧ ch ≠ 93 := by
  cases v with
  | null => exact ⟨_, _, rfl, by decide, by decide⟩
  | bool value =>
      cases value with
      | false => exact ⟨_, _, rfl, by decide, by decide⟩
      | true => exact ⟨_, _, rfl, by decide, by decide⟩
  | number token =>
      rcases isNumber_head token with ⟨ch, rest, htoken, hch⟩
      have hne := isNumberByte_ne hch
      exact ⟨ch, rest, htoken, hne.1, hne.2.2.2.2.1⟩
  | string value => exact ⟨_, _, rfl, by decide, by decide⟩
  | array elements =>
      rw [Json.text_array]
      exact ⟨_, _, rfl, by decide, by decide⟩
  | object members =>
      rw [Json.text_object]
      exact ⟨_, _, rfl, by decide, by decide⟩

/-- What follows a value in an array. -/
theorem moreElements_delimited (elements : List Json) (rest : Bytes) :
    Delimited (Json.moreElements elements ++ rest) := by
  cases elements with
  | nil => exact delimited_cons (by decide) _
  | cons value elements => exact delimited_cons (by decide) _

/-- No number goes on where more members or the closing brace follow. -/
theorem moreMembers_delimited (members : List (Bytes × Json)) (rest : Bytes) :
    Delimited (Json.moreMembers members ++ rest) := by
  cases members with
  | nil => exact delimited_cons (by decide) _
  | cons member members => exact delimited_cons (by decide) _

/-- A value that begins like a number is one. -/
theorem readValue_number (token : NumberToken) {rest : Bytes} (h : Delimited rest) (fuel : Nat) :
    readValue (fuel + 1) (token.val ++ rest) = some (.number token, rest) := by
  have hread := readNumber_token token h
  rcases isNumber_head token with ⟨ch, inner, htoken, hch⟩
  rcases isNumberByte_ne hch with ⟨hspace, h₁, h₂, h₃, -, h₄, h₅, h₆⟩
  rw [htoken, List.cons_append] at hread ⊢
  rw [readValue, skipSpaces_cons hspace]
  simp only [if_neg h₁, if_neg h₂, if_neg h₃, if_neg h₄, if_neg h₅, if_neg h₆]
  exact hread

/-- A value that begins with a quote is a string. -/
theorem readValue_string (value rest : Bytes) (fuel : Nat) :
    readValue (fuel + 1) (quoted value ++ rest) = some (.string value, rest) := by
  have hread := readString_quoted value rest
  rw [quoted, List.cons_append] at hread ⊢
  rw [readValue, skipSpaces_cons (by decide)]
  simp only [if_true, hread]

/-- Brackets with nothing between them. -/
theorem readValue_emptyArray (rest : Bytes) (fuel : Nat) :
    readValue (fuel + 1) (91 :: 93 :: rest) = some (.array [], rest) := by
  rw [readValue, skipSpaces_cons (by decide)]
  dsimp only
  rw [if_neg (by decide), if_neg (by decide), if_pos rfl, skipSpaces_cons (by decide)]
  rfl

/-- Braces with nothing between them. -/
theorem readValue_emptyObject (rest : Bytes) (fuel : Nat) :
    readValue (fuel + 1) (123 :: 125 :: rest) = some (.object [], rest) := by
  rw [readValue, skipSpaces_cons (by decide)]
  dsimp only
  rw [if_neg (by decide), if_pos rfl, skipSpaces_cons (by decide)]
  rfl

/-- Behind the bracket of an array with elements, the elements are read. -/
theorem readValue_array (value : Json) (rest : Bytes) (fuel : Nat) :
    readValue (fuel + 1) (91 :: (value.text ++ rest)) =
      match readElements fuel (value.text ++ rest) with
      | none => none
      | some (elements, rest) => some (.array elements, rest) := by
  rcases value.text_head with ⟨ch, inner, htext, hspace, hclose⟩
  rw [readValue, skipSpaces_cons (by decide)]
  dsimp only
  rw [if_neg (by decide), if_neg (by decide), if_pos rfl, htext, List.cons_append,
    skipSpaces_cons hspace]
  exact if_neg hclose

/-- Behind the brace of an object with members, the members are read. -/
theorem readValue_object (key rest : Bytes) (fuel : Nat) :
    readValue (fuel + 1) (123 :: (quoted key ++ rest)) =
      match readMembers fuel (quoted key ++ rest) with
      | none => none
      | some (members, rest) => some (.object members, rest) := by
  rw [readValue, skipSpaces_cons (by decide)]
  dsimp only
  rw [if_neg (by decide), if_pos rfl, quoted, List.cons_append, skipSpaces_cons (by decide)]
  exact if_neg (by decide)

/-- A turn of the member loop, up to the value of the member. -/
theorem readMembers_key (key rest : Bytes) (fuel : Nat) :
    readMembers (fuel + 1) (quoted key ++ 58 :: rest) =
      match readValue fuel rest with
      | none => none
      | some (value, rest) =>
          match skipSpaces rest with
          | [] => none
          | next :: rest =>
              if next = 125 then some ([(key, value)], rest)
              else if next = 44 then
                match readMembers fuel rest with
                | none => none
                | some (members, rest) => some ((key, value) :: members, rest)
              else none := by
  have hskip : skipSpaces (quoted key ++ 58 :: rest) = quoted key ++ 58 :: rest :=
    skipSpaces_cons (by decide) _
  have hcolon : skipSpaces (58 :: rest) = 58 :: rest := skipSpaces_cons (by decide) rest
  rw [readMembers, hskip, readString_quoted]
  simp only [hcolon, if_true]

mutual

/-- A compact text is read back, with as much fuel as it has bytes. -/
theorem readValue_text : ∀ (v : Json) (fuel : Nat) (rest : Bytes), v.text.length ≤ fuel →
    Delimited rest → readValue fuel (v.text ++ rest) = some (v, rest)
  | v, 0, rest, hfuel, hrest => by
      rcases v.text_head with ⟨ch, inner, htext, -⟩
      simp [htext] at hfuel
  | .null, fuel + 1, rest, hfuel, hrest => by
      rw [readValue, Json.text, List.cons_append, skipSpaces_cons (by decide)]
      rfl
  | .bool true, fuel + 1, rest, hfuel, hrest => by
      rw [readValue, Json.text, List.cons_append, skipSpaces_cons (by decide)]
      rfl
  | .bool false, fuel + 1, rest, hfuel, hrest => by
      rw [readValue, Json.text, List.cons_append, skipSpaces_cons (by decide)]
      rfl
  | .number token, fuel + 1, rest, hfuel, hrest => by
      rw [Json.text]
      exact readValue_number token hrest fuel
  | .string value, fuel + 1, rest, hfuel, hrest => by
      rw [Json.text]
      exact readValue_string value rest fuel
  | .array [], fuel + 1, rest, hfuel, hrest => readValue_emptyArray rest fuel
  | .array (value :: elements), fuel + 1, rest, hfuel, hrest => by
      have helements := readElements_text (value :: elements) fuel rest (by simp) (by
        simpa [Json.text, Json.elementsText] using hfuel)
      rw [Json.elementsText, List.append_assoc] at helements
      rw [Json.text, List.cons_append, List.append_assoc, readValue_array, helements]
  | .object [], fuel + 1, rest, hfuel, hrest => readValue_emptyObject rest fuel
  | .object ((key, value) :: members), fuel + 1, rest, hfuel, hrest => by
      have hmembers := readMembers_text ((key, value) :: members) fuel rest (by simp) (by
        simpa [Json.text, Json.membersText] using hfuel)
      rw [Json.membersText, List.append_assoc] at hmembers
      rw [Json.text, List.cons_append, List.append_assoc, readValue_object, hmembers]

/-- The elements of an array are read back. -/
theorem readElements_text : ∀ (elements : List Json) (fuel : Nat) (rest : Bytes),
    elements ≠ [] → (Json.elementsText elements).length ≤ fuel →
      readElements fuel (Json.elementsText elements ++ rest) = some (elements, rest)
  | [], fuel, rest, hne, hfuel => absurd rfl hne
  | value :: elements, 0, rest, hne, hfuel => by
      rcases value.text_head with ⟨ch, inner, htext, -⟩
      simp [Json.elementsText, htext] at hfuel
  | value :: elements, fuel + 1, rest, hne, hfuel => by
      rw [Json.elementsText, List.length_append] at hfuel
      have hpos : 0 < (Json.moreElements elements).length := by
        cases elements <;> exact Nat.zero_lt_succ _
      have hvalue := readValue_text value fuel (Json.moreElements elements ++ rest) (by omega)
        (moreElements_delimited elements rest)
      rw [Json.elementsText, List.append_assoc, readElements, hvalue]
      cases elements with
      | nil => rfl
      | cons next elements =>
          have hmore : Json.moreElements (next :: elements) =
              44 :: Json.elementsText (next :: elements) := by
            rw [Json.moreElements, Json.elementsText]
          rcases value.text_head with ⟨ch, inner, htext, -⟩
          rw [hmore, htext, List.length_cons, List.length_cons] at hfuel
          have hrest := readElements_text (next :: elements) fuel rest (by simp) (by omega)
          have hcomma : skipSpaces (Json.moreElements (next :: elements) ++ rest) =
              44 :: (Json.elementsText (next :: elements) ++ rest) := by
            rw [hmore, List.cons_append, skipSpaces_cons (by decide)]
          simp only [hcomma]
          rw [if_neg (by decide), if_pos trivial, hrest]

/-- The members of an object are read back, in order. -/
theorem readMembers_text : ∀ (members : List (Bytes × Json)) (fuel : Nat) (rest : Bytes),
    members ≠ [] → (Json.membersText members).length ≤ fuel →
      readMembers fuel (Json.membersText members ++ rest) = some (members, rest)
  | [], fuel, rest, hne, hfuel => absurd rfl hne
  | (key, value) :: members, 0, rest, hne, hfuel => by
      simp [Json.membersText, quoted] at hfuel
  | (key, value) :: members, fuel + 1, rest, hne, hfuel => by
      simp only [Json.membersText, List.length_append, List.length_cons] at hfuel
      have hpos : 0 < (Json.moreMembers members).length := by
        cases members <;> exact Nat.zero_lt_succ _
      have hvalue := readValue_text value fuel (Json.moreMembers members ++ rest) (by omega)
        (moreMembers_delimited members rest)
      rw [Json.membersText, List.append_assoc, List.cons_append, List.append_assoc,
        readMembers_key, hvalue]
      cases members with
      | nil => rfl
      | cons next members =>
          have hmore : Json.moreMembers (next :: members) =
              44 :: Json.membersText (next :: members) := by
            rw [Json.moreMembers, Json.membersText]
          rw [hmore, List.length_cons] at hfuel
          have hrest := readMembers_text (next :: members) fuel rest (by simp) (by omega)
          have hcomma : skipSpaces (Json.moreMembers (next :: members) ++ rest) =
              44 :: (Json.membersText (next :: members) ++ rest) := by
            rw [hmore, List.cons_append, skipSpaces_cons (by decide)]
          simp only [hcomma]
          rw [if_neg (by decide), if_pos trivial, hrest]

end

/-- The reader gives back the value of a compact text. -/
theorem readJson_text (v : Json) : readJson v.text = some v := by
  have hread := readValue_text v (v.text.length + 1) [] (Nat.le_succ _) (by
    intro ch hch
    contradiction)
  rw [List.append_nil] at hread
  rw [readJson, hread]
  rfl

/-! ## Looking at values -/

/-- The value of the last member with the key. -/
def lookup (key : Bytes) : List (Bytes × Json) → Option Json
  | [] => none
  | (k, value) :: members =>
      (lookup key members).or (if k = key then some value else none)

/-- Later members hide the earlier ones with the same key. -/
theorem lookup_append (key : Bytes) (members members' : List (Bytes × Json)) :
    lookup key (members ++ members') = (lookup key members').or (lookup key members) := by
  induction members with
  | nil => simp [lookup]
  | cons member members ih =>
      rw [List.cons_append, lookup, lookup, ih, Option.or_assoc]

/-- A member that must be there. -/
def Json.field {α : Type} (members : List (Bytes × Json)) (key : Bytes)
    (decode : Json → Option α) : Option α :=
  (lookup key members).bind decode

/-- A member that has a default. -/
def Json.fieldOr {α : Type} (members : List (Bytes × Json)) (key : Bytes) (default : α)
    (decode : Json → Option α) : Option α :=
  match lookup key members with
  | none => some default
  | some value => decode value

/-- A member that may be missing. -/
def Json.fieldIf {α : Type} (members : List (Bytes × Json)) (key : Bytes)
    (decode : Json → Option α) : Option (Option α) :=
  match lookup key members with
  | none => some none
  | some value => (decode value).map some

/-- The value of a row of digits. -/
def natOfDigits (digits : Bytes) : Nat :=
  digits.foldl (fun n digit => n * 10 + (digit.toNat - 48)) 0

/-- A non-empty run of decimal digits. -/
def IsDecimal (text : Bytes) : Prop :=
  text ≠ [] ∧ ∀ ch ∈ text, isDigit ch = true

/-- The number that a token without fraction and exponent stands for. -/
def intOfToken : Bytes → Option Int
  | [] => none
  | ch :: digits =>
      if ch = 45 then
        if digits.all isDigit then some (-Int.ofNat (natOfDigits digits)) else none
      else if (ch :: digits).all isDigit then some (Int.ofNat (natOfDigits (ch :: digits)))
      else none

/-- A token that consists of digits is a natural number. -/
theorem intOfToken_digits {digits : Bytes} (hne : digits ≠ [])
    (h : ∀ ch ∈ digits, isDigit ch = true) :
    intOfToken digits = some (Int.ofNat (natOfDigits digits)) := by
  cases digits with
  | nil => contradiction
  | cons ch digits =>
      have hsign : ch ≠ 45 := by
        rintro rfl
        exact absurd (h 45 List.mem_cons_self) (by decide)
      rw [intOfToken, if_neg hsign, if_pos (List.all_eq_true.mpr h)]

/-- With a sign in front it is the opposite number. -/
theorem intOfToken_minus {digits : Bytes} (h : ∀ ch ∈ digits, isDigit ch = true) :
    intOfToken (45 :: digits) = some (-Int.ofNat (natOfDigits digits)) := by
  rw [intOfToken, if_pos rfl, if_pos (List.all_eq_true.mpr h)]

namespace Json

/-- A number without a fraction or an exponent. -/
def toInt : Json → Option Int
  | .number token => intOfToken token.val
  | _ => none

/-- A number from 0 up to and without the bound. -/
def toNatBelow (bound : Nat) (value : Json) : Option Nat :=
  match value.toInt with
  | some n => if 0 ≤ n ∧ n < bound then some n.toNat else none
  | none => none

/-- An integer that is not negative. -/
def toNat (value : Json) : Option Nat :=
  match value.toInt with
  | some n => if 0 ≤ n then some n.toNat else none
  | none => none

/-- A truth value. -/
def toBool : Json → Option Bool
  | .bool value => some value
  | _ => none

/-- The bytes of a string. -/
def toBytes : Json → Option Bytes
  | .string value => some value
  | _ => none

/-- All elements of an array, decoded. -/
def toList {α : Type} (decode : Json → Option α) : Json → Option (List α)
  | .array elements => elements.mapM decode
  | _ => none

/-- A list that has been written is read back if its elements are. -/
theorem toList_map {α : Type} {decode : Json → Option α} {value : α → Json}
    (h : ∀ a, decode (value a) = some a) (values : List α) :
    toList decode (.array (values.map value)) = some values := by
  rw [toList]
  induction values with
  | nil => rfl
  | cons a values ih => simp [List.mapM_cons, h, ih]

end Json

/-! ## The bytes of compact texts -/

/-- Hexadecimal digits are ASCII characters. -/
theorem lowerHexDigit_range {n : Nat} (h : n < 16) :
    32 ≤ lowerHexDigit n ∧ lowerHexDigit n < 0x80 := by
  have hall : ∀ n < 16, 32 ≤ lowerHexDigit n ∧ lowerHexDigit n < 0x80 := by decide
  exact hall n h

/-- The escape of a byte is the byte itself or printable ASCII. -/
theorem escaped_cases (ch : UInt8) :
    (escaped ch = [ch] ∧ 32 ≤ ch) ∨ (∀ b ∈ escaped ch, 32 ≤ b ∧ b < 0x80) ∧ ch < 0x80 := by
  unfold escaped
  split
  · rename_i h
    subst h
    exact Or.inr (by decide)
  · split
    · rename_i h
      subst h
      exact Or.inr (by decide)
    · split
      · rename_i h
        subst h
        exact Or.inr (by decide)
      · split
        · rename_i h
          subst h
          exact Or.inr (by decide)
        · split
          · rename_i h
            subst h
            exact Or.inr (by decide)
          · split
            · rename_i hcontrol
              have hlt : ch.toNat < 32 := UInt8.lt_iff_toNat_lt.mp hcontrol
              have hhigh := lowerHexDigit_range (show ch.toNat / 16 < 16 by omega)
              have hlow := lowerHexDigit_range (show ch.toNat % 16 < 16 by omega)
              refine Or.inr ⟨?_, UInt8.lt_trans hcontrol (by decide)⟩
              intro b hb
              simp only [List.mem_cons, List.not_mem_nil, or_false] at hb
              rcases hb with rfl | rfl | rfl | rfl | rfl | rfl
              · decide
              · decide
              · decide
              · decide
              · exact hhigh
              · exact hlow
            · rename_i hcontrol
              exact Or.inl ⟨rfl, UInt8.not_lt.mp hcontrol⟩

/-- No byte of the text is a control byte. -/
def Printable (text : Bytes) : Prop :=
  ∀ b ∈ text, 32 ≤ b

/-- Texts without control bytes can be put together. -/
theorem Printable.append {s t : Bytes} (hs : Printable s) (ht : Printable t) :
    Printable (s ++ t) := by
  intro b hb
  rcases List.mem_append.mp hb with h | h
  · exact hs b h
  · exact ht b h

theorem Printable.cons {b : UInt8} {t : Bytes} (hb : 32 ≤ b) (ht : Printable t) :
    Printable (b :: t) := by
  intro b' hb'
  rcases List.mem_cons.mp hb' with rfl | h
  · exact hb
  · exact ht b' h

/-- The quotes hide all control bytes of a string. -/
theorem printable_quoted (value : Bytes) : Printable (quoted value) := by
  have hinside : Printable (value.flatMap escaped) := by
    intro b hb
    rcases List.mem_flatMap.mp hb with ⟨ch, -, hch⟩
    rcases escaped_cases ch with ⟨hself, hle⟩ | ⟨hascii, -⟩
    · rw [hself, List.mem_singleton] at hch
      rw [hch]
      exact hle
    · exact (hascii b hch).1
  exact Printable.cons (by decide) (hinside.append (by
    intro b hb
    rw [List.mem_singleton.mp hb]
    decide))

/-- Numbers are written in ASCII. -/
theorem isNumberByte_range {ch : UInt8} (h : isNumberByte ch = true) : 32 ≤ ch ∧ ch < 0x80 := by
  simp only [isNumberByte, isDigit, Bool.or_eq_true, Bool.and_eq_true, decide_eq_true_eq] at h
  rcases h with ((((⟨hlow, hhigh⟩ | rfl) | rfl) | rfl) | rfl) | rfl
  · exact ⟨UInt8.le_trans (by decide) hlow, UInt8.lt_of_le_of_lt hhigh (by decide)⟩
  all_goals decide

mutual

/-- A compact text has no control bytes. -/
theorem Json.text_printable : ∀ v : Json, Printable v.text
  | .null => by simp only [Json.text, Printable]; decide
  | .bool true => by simp only [Json.text, Printable]; decide
  | .bool false => by simp only [Json.text, Printable]; decide
  | .number token => by
      intro b hb
      exact (isNumberByte_range (isNumber_bytes token.property b hb)).1
  | .string value => printable_quoted value
  | .array [] => by simp only [Json.text, Printable]; decide
  | .array (value :: elements) =>
      Printable.cons (by decide)
        (value.text_printable.append (Json.moreElements_printable elements))
  | .object [] => by simp only [Json.text, Printable]; decide
  | .object ((key, value) :: members) =>
      Printable.cons (by decide) ((printable_quoted key).append
        (Printable.cons (by decide)
          (value.text_printable.append (Json.moreMembers_printable members))))

/-- Neither have the elements of an array. -/
theorem Json.moreElements_printable : ∀ elements : List Json,
    Printable (Json.moreElements elements)
  | [] => by simp only [Json.moreElements, Printable]; decide
  | value :: elements =>
      Printable.cons (by decide)
        (value.text_printable.append (Json.moreElements_printable elements))

/-- Nor have the members of an object. -/
theorem Json.moreMembers_printable : ∀ members : List (Bytes × Json),
    Printable (Json.moreMembers members)
  | [] => by simp only [Json.moreMembers, Printable]; decide
  | (key, value) :: members =>
      Printable.cons (by decide) ((printable_quoted key).append
        (Printable.cons (by decide)
          (value.text_printable.append (Json.moreMembers_printable members))))

end

/-- An ASCII character may stand in front of a text in UTF-8. -/
theorem IsUtf8.cons {b : UInt8} {t : Bytes} (hb : b < 0x80) (ht : IsUtf8 t) :
    IsUtf8 (b :: t) := by
  have hfirst : IsUtf8 [b] := by
    apply isUtf8_ascii
    intro b' hb'
    rw [List.mem_singleton.mp hb']
    exact hb
  exact hfirst.append ht

/-- Escaping a string keeps it in UTF-8. -/
theorem isUtf8_quoted {value : Bytes} (h : IsUtf8 value) : IsUtf8 (quoted value) := by
  have hinside : IsUtf8 (value.flatMap escaped) := by
    rcases h with ⟨chars, rfl⟩
    induction chars with
    | nil => exact isUtf8_nil
    | cons c chars ih =>
        rw [List.flatMap_cons, List.flatMap_append]
        apply IsUtf8.append _ ih
        rcases utf8EncodeChar_cases c with ⟨b, hb, hc⟩ | hlead
        · rw [hc, List.flatMap_cons, List.flatMap_nil, List.append_nil]
          rcases escaped_cases b with ⟨hself, -⟩ | ⟨hascii, -⟩
          · rw [hself, ← hc]
            exact isUtf8_char c
          · apply isUtf8_ascii
            intro b' hb'
            exact (hascii b' hb').2
        · -- The bytes of other characters stand for themselves.
          have hself : ∀ bytes : Bytes, (∀ b ∈ bytes, 0x80 ≤ b ∧ b < 0xF8) →
              bytes.flatMap escaped = bytes := by
            intro bytes hbytes
            induction bytes with
            | nil => rfl
            | cons b bytes ih =>
                rw [List.flatMap_cons, ih (fun b' hb' => hbytes b' (List.mem_cons_of_mem _ hb'))]
                rcases escaped_cases b with ⟨hb, -⟩ | ⟨-, hb⟩
                · rw [hb]
                  rfl
                · exact absurd hb (UInt8.not_lt.mpr (hbytes b List.mem_cons_self).1)
          rw [hself _ hlead]
          exact isUtf8_char c
  exact IsUtf8.cons (by decide) (hinside.append (IsUtf8.cons (by decide) isUtf8_nil))

mutual

/-- All strings of the value are in UTF-8. -/
def Json.Utf8Strings : Json → Prop
  | .string value => IsUtf8 value
  | .array elements => Json.Utf8Elements elements
  | .object members => Json.Utf8Members members
  | _ => True

/-- All strings in the elements are in UTF-8. -/
def Json.Utf8Elements : List Json → Prop
  | [] => True
  | value :: elements => value.Utf8Strings ∧ Json.Utf8Elements elements

/-- All keys and all strings in the members are in UTF-8. -/
def Json.Utf8Members : List (Bytes × Json) → Prop
  | [] => True
  | (key, value) :: members => IsUtf8 key ∧ value.Utf8Strings ∧ Json.Utf8Members members

end

mutual

/-- A compact text is in UTF-8 if its strings are. -/
theorem Json.isUtf8_text : ∀ v : Json, v.Utf8Strings → IsUtf8 v.text
  | .null, _ => isUtf8_ascii (by decide)
  | .bool true, _ => isUtf8_ascii (by decide)
  | .bool false, _ => isUtf8_ascii (by decide)
  | .number token, _ => by
      apply isUtf8_ascii
      intro b hb
      exact (isNumberByte_range (isNumber_bytes token.property b hb)).2
  | .string value, h => isUtf8_quoted h
  | .array [], _ => isUtf8_ascii (by decide)
  | .array (value :: elements), h =>
      IsUtf8.cons (by decide)
        ((value.isUtf8_text h.1).append (Json.isUtf8_moreElements elements h.2))
  | .object [], _ => isUtf8_ascii (by decide)
  | .object ((key, value) :: members), h =>
      IsUtf8.cons (by decide) ((isUtf8_quoted h.1).append
        (IsUtf8.cons (by decide)
          ((value.isUtf8_text h.2.1).append (Json.isUtf8_moreMembers members h.2.2))))

/-- So are the elements of an array. -/
theorem Json.isUtf8_moreElements : ∀ elements : List Json, Json.Utf8Elements elements →
    IsUtf8 (Json.moreElements elements)
  | [], _ => isUtf8_ascii (by decide)
  | value :: elements, h =>
      IsUtf8.cons (by decide)
        ((value.isUtf8_text h.1).append (Json.isUtf8_moreElements elements h.2))

/-- So are the members of an object. -/
theorem Json.isUtf8_moreMembers : ∀ members : List (Bytes × Json), Json.Utf8Members members →
    IsUtf8 (Json.moreMembers members)
  | [], _ => isUtf8_ascii (by decide)
  | (key, value) :: members, h =>
      IsUtf8.cons (by decide) ((isUtf8_quoted h.1).append
        (IsUtf8.cons (by decide)
          ((value.isUtf8_text h.2.1).append (Json.isUtf8_moreMembers members h.2.2))))

end

/-! ## Valid texts -/

/-- The strings of a list are those of its elements. -/
theorem Json.utf8Elements_iff {elements : List Json} :
    Json.Utf8Elements elements ↔ ∀ value ∈ elements, value.Utf8Strings := by
  induction elements with
  | nil => simp [Json.Utf8Elements]
  | cons value elements ih => simp [Json.Utf8Elements, ih]

/-- The strings of the members are their keys and those of their values. -/
theorem Json.utf8Members_iff {members : List (Bytes × Json)} :
    Json.Utf8Members members ↔
      ∀ member ∈ members, IsUtf8 member.1 ∧ member.2.Utf8Strings := by
  induction members with
  | nil => simp [Json.Utf8Members]
  | cons member members ih => simp [Json.Utf8Members, ih, and_assoc]

/-- More members add their own strings. -/
theorem Json.utf8Members_append {members members' : List (Bytes × Json)} :
    Json.Utf8Members (members ++ members') ↔
      Json.Utf8Members members ∧ Json.Utf8Members members' := by
  rw [Json.utf8Members_iff, Json.utf8Members_iff, Json.utf8Members_iff]
  exact List.forall_mem_append

/-- A JSON text in UTF-8. -/
def ValidJson (text : Bytes) : Prop :=
  IsUtf8 text ∧ ∃ value, readJson text = some value

/-- The compact text of a value whose strings are in UTF-8 is valid. -/
theorem Json.validJson_text {value : Json} (h : value.Utf8Strings) : ValidJson value.text :=
  ⟨value.isUtf8_text h, value, readJson_text value⟩

end SctpConformance.Library
