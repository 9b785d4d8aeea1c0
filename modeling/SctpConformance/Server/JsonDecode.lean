import SctpConformance.Server.Data

/-!
# Reading JSON request bodies

The recursive-descent reader of `main.cpp`, from `append_utf8_codepoint` to
`parse_simple_json_object`.  The cursor `i` of the source is modelled by what
is left of the input from `i` on, so that `i >= input.size()` is the empty list
and reading `input[i]` is reading the head.  A read that the source does not
guard is given the error `outOfRange` at the end of the input.

The three mutually recursive functions take fuel: one unit for each call and
each turn of a member or element loop.  `parseJsonRootObject` gives them more
than any input can use: at most three calls or turns lie between two bytes consumed.
-/

namespace SctpConformance

/-- Why a text was not accepted: the message of the source, a read beyond the
end of the input, or too little fuel. -/
inductive JsonFault where
  | message (text : CppString)
  | outOfRange
  | outOfFuel
deriving DecidableEq

/-- The text that the source leaves in `error`. -/
def JsonFault.text : JsonFault → CppString
  | .message text => text
  | .outOfRange => []
  | .outOfFuel => []

/-- What a parser returns, or the fault at which it stops. -/
abbrev JsonResult (α : Type) := Except JsonFault α

/-- Stop with the given message. -/
def jsonFail {α : Type} (text : String) : JsonResult α :=
  .error (.message (str text))

/-- The values that the parser keeps: strings, objects and arrays. -/
inductive JsonValue where
  | string (value : CppString)
  | object (members : List (CppString × JsonValue))
  | array (elements : List JsonValue)

/-! ## Strings -/

/-- The bytes of `std::isspace` in the C locale. -/
def isSpace (ch : UInt8) : Bool :=
  ch = 32 || (9 ≤ ch && ch ≤ 13)

/-- `skip_json_ws` -/
def skipJsonWs : CppString → CppString
  | [] => []
  | ch :: rest => if isSpace ch then skipJsonWs rest else ch :: rest

/-- The UTF-8 bytes of a code point, if it is one that can be encoded. -/
def appendUtf8Codepoint (codepoint : Nat) : Option CppString :=
  if codepoint ≤ 0x7F then some [UInt8.ofNat codepoint]
  else if codepoint ≤ 0x7FF then
    some [UInt8.ofNat (0xC0 ||| ((codepoint >>> 6) &&& 0x1F)),
      UInt8.ofNat (0x80 ||| (codepoint &&& 0x3F))]
  else if 0xD800 ≤ codepoint ∧ codepoint ≤ 0xDFFF then none
  else if codepoint ≤ 0xFFFF then
    some [UInt8.ofNat (0xE0 ||| ((codepoint >>> 12) &&& 0x0F)),
      UInt8.ofNat (0x80 ||| ((codepoint >>> 6) &&& 0x3F)),
      UInt8.ofNat (0x80 ||| (codepoint &&& 0x3F))]
  else if codepoint ≤ 0x10FFFF then
    some [UInt8.ofNat (0xF0 ||| ((codepoint >>> 18) &&& 0x07)),
      UInt8.ofNat (0x80 ||| ((codepoint >>> 12) &&& 0x3F)),
      UInt8.ofNat (0x80 ||| ((codepoint >>> 6) &&& 0x3F)),
      UInt8.ofNat (0x80 ||| (codepoint &&& 0x3F))]
  else none

/-- The value of a hexadecimal digit. -/
def hexValue (digit : UInt8) : Option Nat :=
  if 48 ≤ digit ∧ digit ≤ 57 then some (digit.toNat - 48)
  else if 97 ≤ digit ∧ digit ≤ 102 then some (digit.toNat - 97 + 10)
  else if 65 ≤ digit ∧ digit ≤ 70 then some (digit.toNat - 65 + 10)
  else none

/-- The loop over the digits of a `\u` escape: `count` digits are still to be read. -/
def readHexDigits : Nat → Nat → CppString → JsonResult (Nat × CppString)
  | 0, codepoint, rest => .ok (codepoint, rest)
  | _ + 1, _, [] => .error .outOfRange
  | count + 1, codepoint, digit :: rest =>
      match hexValue digit with
      | some value => readHexDigits count (codepoint * 16 + value) rest
      | none => jsonFail "invalid JSON unicode escape"

/-- What the two-character escapes other than `\u` stand for. -/
def simpleEscape (esc : UInt8) : Option UInt8 :=
  if esc = 34 ∨ esc = 92 ∨ esc = 47 then some esc
  else if esc = 98 then some 8
  else if esc = 102 then some 12
  else if esc = 110 then some 10
  else if esc = 114 then some 13
  else if esc = 116 then some 9
  else none

/-- The escape that begins after a backslash: the bytes it stands for and what follows it. -/
def readEscape : CppString → JsonResult (CppString × CppString)
  | [] => jsonFail "invalid JSON escape"
  | esc :: rest =>
      match simpleEscape esc with
      | some ch => .ok ([ch], rest)
      | none =>
          if esc = 117 then
            if rest.length < 4 then jsonFail "invalid JSON unicode escape"
            else
              match readHexDigits 4 0 rest with
              | .error fault => .error fault
              | .ok (codepoint, rest) =>
                  match appendUtf8Codepoint codepoint with
                  | some bytes => .ok (bytes, rest)
                  | none => jsonFail "unsupported JSON unicode escape"
          else jsonFail "unsupported JSON escape"

/-- The loop of `parse_json_string_value` after the opening quote; `buffer` is
what has been decoded so far.  Each turn consumes a byte of its input. -/
def readStringTail : Nat → CppString → CppString → JsonResult (CppString × CppString)
  | _, _, [] => jsonFail "unterminated JSON string"
  | 0, _, _ :: _ => .error .outOfFuel
  | fuel + 1, buffer, ch :: rest =>
      if ch = 34 then .ok (buffer, rest)
      else if ch = 92 then
        match readEscape rest with
        | .error fault => .error fault
        | .ok (bytes, rest) => readStringTail fuel (buffer ++ bytes) rest
      else readStringTail fuel (buffer ++ [ch]) rest

/-- `parse_json_string_value` -/
def parseJsonStringValue : CppString → JsonResult (CppString × CppString)
  | [] => jsonFail "expected JSON string"
  | ch :: rest =>
      if ch = 34 then readStringTail rest.length [] rest
      else jsonFail "expected JSON string"

/-! ## Objects and arrays -/

/-- `out.object_value[key] = value` on a `std::map`, whose entries are kept in key order. -/
def mapAssign (key : CppString) (value : JsonValue) :
    List (CppString × JsonValue) → List (CppString × JsonValue)
  | [] => [(key, value)]
  | entry :: entries =>
      if key = entry.1 then (key, value) :: entries
      else if key < entry.1 then (key, value) :: entry :: entries
      else entry :: mapAssign key value entries

/-- `find` on a `std::map`. -/
def mapFind (key : CppString) (entries : List (CppString × JsonValue)) : Option JsonValue :=
  (entries.find? fun entry => entry.1 = key).map Prod.snd

mutual

/-- `parse_json_value` -/
def parseJsonValue : Nat → CppString → JsonResult (JsonValue × CppString)
  | 0, _ => .error .outOfFuel
  | fuel + 1, input =>
      match skipJsonWs input with
      | [] => jsonFail "expected JSON value"
      | ch :: rest =>
          if ch = 34 then
            match parseJsonStringValue (ch :: rest) with
            | .error fault => .error fault
            | .ok (value, rest) => .ok (.string value, rest)
          else if ch = 123 then
            match parseJsonObjectValue fuel (ch :: rest) with
            | .error fault => .error fault
            | .ok (members, rest) => .ok (.object members, rest)
          else if ch = 91 then
            match parseJsonArrayValue fuel (ch :: rest) with
            | .error fault => .error fault
            | .ok (elements, rest) => .ok (.array elements, rest)
          else jsonFail "unsupported JSON value"

/-- `parse_json_object_value` -/
def parseJsonObjectValue : Nat → CppString →
    JsonResult (List (CppString × JsonValue) × CppString)
  | 0, _ => .error .outOfFuel
  | fuel + 1, input =>
      match skipJsonWs input with
      | [] => jsonFail "expected JSON object"
      | ch :: rest =>
          if ch = 123 then
            match skipJsonWs rest with
            | [] => parseJsonMembers fuel [] []
            | ch :: rest =>
                if ch = 125 then .ok ([], rest)
                else parseJsonMembers fuel (ch :: rest) []
          else jsonFail "expected JSON object"

/-- One turn of the member loop of `parse_json_object_value`. -/
def parseJsonMembers : Nat → CppString → List (CppString × JsonValue) →
    JsonResult (List (CppString × JsonValue) × CppString)
  | _, [], _ => jsonFail "unterminated JSON object"
  | 0, _ :: _, _ => .error .outOfFuel
  | fuel + 1, ch :: rest, members =>
      match parseJsonStringValue (skipJsonWs (ch :: rest)) with
      | .error fault => .error fault
      | .ok (key, rest) =>
          match skipJsonWs rest with
          | [] => jsonFail "expected ':'"
          | ch :: rest =>
              if ch = 58 then
                match parseJsonValue fuel rest with
                | .error fault => .error fault
                | .ok (value, rest) =>
                    match skipJsonWs rest with
                    | [] => jsonFail "unterminated JSON object"
                    | ch :: rest =>
                        if ch = 125 then .ok (mapAssign key value members, rest)
                        else if ch = 44 then
                          parseJsonMembers fuel rest (mapAssign key value members)
                        else jsonFail "expected ','"
              else jsonFail "expected ':'"

/-- `parse_json_array_value` -/
def parseJsonArrayValue : Nat → CppString → JsonResult (List JsonValue × CppString)
  | 0, _ => .error .outOfFuel
  | fuel + 1, input =>
      match skipJsonWs input with
      | [] => jsonFail "expected JSON array"
      | ch :: rest =>
          if ch = 91 then
            match skipJsonWs rest with
            | [] => parseJsonElements fuel [] []
            | ch :: rest =>
                if ch = 93 then .ok ([], rest)
                else parseJsonElements fuel (ch :: rest) []
          else jsonFail "expected JSON array"

/-- One turn of the element loop of `parse_json_array_value`. -/
def parseJsonElements : Nat → CppString → List JsonValue →
    JsonResult (List JsonValue × CppString)
  | _, [], _ => jsonFail "unterminated JSON array"
  | 0, _ :: _, _ => .error .outOfFuel
  | fuel + 1, ch :: rest, elements =>
      match parseJsonValue fuel (ch :: rest) with
      | .error fault => .error fault
      | .ok (value, rest) =>
          match skipJsonWs rest with
          | [] => jsonFail "unterminated JSON array"
          | ch :: rest =>
              if ch = 93 then .ok (elements ++ [value], rest)
              else if ch = 44 then parseJsonElements fuel rest (elements ++ [value])
              else jsonFail "expected ','"

end

/-! ## Request bodies -/

/-- `parse_json_root_object`: nothing but whitespace may follow the object. -/
def parseJsonRootObject (input : CppString) : JsonResult (List (CppString × JsonValue)) :=
  match parseJsonObjectValue (4 * input.length + 4) input with
  | .error fault => .error fault
  | .ok (members, rest) =>
      match skipJsonWs rest with
      | [] => .ok members
      | _ :: _ => jsonFail "unexpected trailing JSON content"

/-- Keep the members of an object whose values are all strings. -/
def stringMembers : List (CppString × JsonValue) → JsonResult (List (CppString × CppString))
  | [] => .ok []
  | (key, .string value) :: members =>
      match stringMembers members with
      | .error fault => .error fault
      | .ok rest => .ok ((key, value) :: rest)
  | _ :: _ => jsonFail "expected string JSON value"

/-- `parse_simple_json_object`: an object all of whose values are strings. -/
def parseSimpleJsonObject (input : CppString) : JsonResult (List (CppString × CppString)) :=
  match parseJsonRootObject input with
  | .error fault => .error fault
  | .ok members => stringMembers members

/-- `params[key]` on a `std::map<std::string, std::string>`. -/
def paramValue (params : List (CppString × CppString)) (key : String) : CppString :=
  ((params.find? fun entry => entry.1 = str key).map Prod.snd).getD []

/-- The `get_string` lambda of `CompleteFeature`. -/
def getString (members : List (CppString × JsonValue)) (key : String) : CppString :=
  match mapFind (str key) members with
  | some (.string value) => value
  | _ => []

end SctpConformance
