import SctpConformance.Library.Json
import SctpConformance.Server.Routing
import Mathlib.Algebra.Group.Nat.Defs

/-!
# Reading HTTP requests

`ReadHttpRequest` and what it uses.  A connection is given by the pieces that the
calls of `read` return one after the other, and by what they return after the last
piece.

Main results:

- Definition `readHeader`: the loop that reads up to the end of the headers.
- Definition `parseHead`: the request line and the headers.
- Definition `readHttpRequest`.
-/

namespace SctpConformance

open Library

/-! ## Strings -/

/-- `std::string::find` for a pattern that is not empty: where it first occurs. -/
def findText (pattern : CppString) : CppString → Option Nat
  | [] => none
  | ch :: rest =>
      if pattern.isPrefixOf (ch :: rest) then some 0 else (findText pattern rest).map (· + 1)

/-- The lines that `std::getline` finds, with the part of the current line that has been
read.  A line feed at the end begins no further line. -/
def getLines : CppString → CppString → List CppString
  | [], line => if line = [] then [] else [line]
  | ch :: rest, line =>
      if ch = 10 then line :: getLines rest [] else getLines rest (line ++ [ch])

/-- A line is read up to its newline. -/
theorem getLines_line {line : CppString} (h : ∀ ch ∈ line, ch ≠ 10) (t current : CppString) :
    getLines (line ++ 10 :: t) current = (current ++ line) :: getLines t [] := by
  induction line generalizing current with
  | nil => simp [getLines]
  | cons ch line ih =>
      have hrest : ∀ ch ∈ line, ch ≠ 10 := by
        intro ch' hch'
        exact h ch' (List.mem_cons_of_mem _ hch')
      rw [List.cons_append, getLines, if_neg (h ch List.mem_cons_self), ih hrest]
      simp

/-- The last line may have none. -/
theorem getLines_last {line : CppString} (h : ∀ ch ∈ line, ch ≠ 10) {current : CppString}
    (hne : current ++ line ≠ []) : getLines line current = [current ++ line] := by
  induction line generalizing current with
  | nil =>
      rw [List.append_nil] at hne
      rw [getLines, if_neg hne, List.append_nil]
  | cons ch line ih =>
      have hrest : ∀ ch ∈ line, ch ≠ 10 := by
        intro ch' hch'
        exact h ch' (List.mem_cons_of_mem _ hch')
      rw [getLines, if_neg (h ch List.mem_cons_self), ih hrest (by simp)]
      simp

/-- `trim` -/
def trim (value : CppString) : CppString :=
  ((value.dropWhile isSpace).reverse.dropWhile isSpace).reverse

/-- `std::tolower` in the C locale. -/
def toLower (ch : UInt8) : UInt8 :=
  if 65 ≤ ch ∧ ch ≤ 90 then ch + 32 else ch

/-- The next word of a stream, and what follows it. -/
def extractWord (input : CppString) : Option (CppString × CppString) :=
  let rest := input.dropWhile isSpace
  let word := rest.takeWhile fun ch => !isSpace ch
  if word = [] then none else some (word, rest.drop word.length)

/-- The largest value of an `unsigned long`. -/
def ulongMax : Nat :=
  2 ^ 64 - 1

/-- What is left of a number without its sign, and whether the sign is a minus. -/
def splitSign : CppString → Bool × CppString
  | [] => (false, [])
  | ch :: rest =>
      if ch = 45 then (true, rest) else if ch = 43 then (false, rest) else (false, ch :: rest)

/-- `std::strtoul` with base 10: the number at the beginning of the text.  A number that
is too large gives the largest value, a minus sign is computed modulo 2^64. -/
def strtoul (text : CppString) : Nat :=
  let (negative, rest) := splitSign (text.dropWhile isSpace)
  let n := natOfDigits (rest.takeWhile isDigit)
  if ulongMax < n then ulongMax else if negative then (2 ^ 64 - n) % 2 ^ 64 else n

/-! ## The head of a request -/

/-- `request.headers[key] = value` on a `std::map`. -/
def assignHeader (key value : CppString) :
    List (CppString × CppString) → List (CppString × CppString)
  | [] => [(key, value)]
  | entry :: entries =>
      if key = entry.1 then (key, value) :: entries
      else if key < entry.1 then (key, value) :: entry :: entries
      else entry :: assignHeader key value entries

/-- The value of a field. -/
def findHeader (key : CppString) (headers : List (CppString × CppString)) : Option CppString :=
  (headers.find? fun entry => entry.1 = key).map Prod.snd

/-- Remove one carriage return at the end of a line. -/
def stripReturn (line : CppString) : CppString :=
  if line.getLast? = some 13 then line.dropLast else line

/-- Method and path, if the line has three words. -/
def parseRequestLine (line : CppString) : Option (CppString × CppString) :=
  match extractWord line with
  | none => none
  | some (method, rest) =>
      match extractWord rest with
      | none => none
      | some (path, rest) =>
          match extractWord rest with
          | none => none
          | some _ => some (method, path)

/-- One turn of the loop over header lines.  A line without a colon is skipped. -/
def parseHeaderLine (headers : List (CppString × CppString)) (line : CppString) :
    List (CppString × CppString) :=
  let line := stripReturn line
  if 58 ∈ line then
    let key := trim (line.takeWhile (· ≠ 58))
    let value := trim ((line.dropWhile (· ≠ 58)).drop 1)
    assignHeader (key.map toLower) value headers
  else headers

/-- The request line and the headers of a block. -/
def parseHead (block : CppString) : Except CppString HttpRequest :=
  match getLines block [] with
  | [] => .error (str "missing request line")
  | line :: lines =>
      match parseRequestLine (stripReturn line) with
      | none => .error (str "invalid request line")
      | some (method, path) =>
          .ok { method := method, path := path, headers := lines.foldl parseHeaderLine [] }

/-- The announced length of the body; zero if there is none. -/
def contentLength (headers : List (CppString × CppString)) : Nat :=
  match findHeader (str "content-length") headers with
  | none => 0
  | some value => strtoul value

/-! ## The connection -/

/-- What `read` returns when there are no more pieces: end of file, a timeout of the
socket, or another error. -/
inductive ReadEnd where
  | closed
  | timedOut
  | failed
deriving DecidableEq

/-- The error for a head that does not come. -/
def ReadEnd.headerError : ReadEnd → CppString
  | .timedOut => str "timed out reading HTTP request"
  | .closed => str "failed to read HTTP request"
  | .failed => str "failed to read HTTP request"

/-- The error for a body that does not come. -/
def ReadEnd.bodyError : ReadEnd → CppString
  | .timedOut => str "timed out reading HTTP body"
  | .closed => str "failed to read HTTP body"
  | .failed => str "failed to read HTTP body"

/-- The limit for the head of a request. -/
def maxHeaderBytes : Nat :=
  1 <<< 20

/-- What an empty line ends in a request. -/
def crlfEnd : CppString :=
  [13, 10, 13, 10]

/-- The two newlines that may end a head. -/
def lfEnd : CppString :=
  [10, 10]

/-- The search for the end of the headers; the second terminator is looked for only if the
first one is nowhere. -/
def headerEnd (raw : CppString) : Option Nat :=
  match findText crlfEnd raw with
  | some n => some n
  | none => findText lfEnd raw

/-- What has been read when the end of the headers is found, where it is, and the pieces
that have not been read. -/
structure HeaderRead where
  raw : CppString
  headerEnd : Nat
  pieces : List CppString

/-- The loop up to the end of the headers; `raw` is what has been read so far. -/
def readHeader (ending : ReadEnd) : List CppString → CppString → Except CppString HeaderRead
  | [], raw =>
      match headerEnd raw with
      | some n => .ok { raw := raw, headerEnd := n, pieces := [] }
      | none => .error ending.headerError
  | piece :: pieces, raw =>
      match headerEnd raw with
      | some n => .ok { raw := raw, headerEnd := n, pieces := piece :: pieces }
      | none =>
          if maxHeaderBytes < (raw ++ piece).length then .error (str "request too large")
          else readHeader ending pieces (raw ++ piece)

/-- Where the body begins, behind what ends the head. -/
def bodyOffset (raw : CppString) (headerEnd : Nat) : Nat :=
  if (raw.drop headerEnd).take 4 = crlfEnd then headerEnd + 4 else headerEnd + 2

/-- The loop up to the announced length of the body. -/
def readBody (ending : ReadEnd) (length : Nat) : List CppString → CppString →
    Except CppString CppString
  | [], body => if body.length < length then .error ending.bodyError else .ok (body.take length)
  | piece :: pieces, body =>
      if body.length < length then readBody ending length pieces (body ++ piece)
      else .ok (body.take length)

/-- `ReadHttpRequest`: the request, or the text it leaves in `error`. -/
def readHttpRequest (ending : ReadEnd) (pieces : List CppString) :
    Except CppString HttpRequest :=
  match readHeader ending pieces [] with
  | .error error => .error error
  | .ok read =>
      match parseHead (read.raw.take read.headerEnd) with
      | .error error => .error error
      | .ok request =>
          match readBody ending (contentLength request.headers) read.pieces
            (read.raw.drop (bodyOffset read.raw read.headerEnd)) with
          | .error error => .error error
          | .ok body => .ok { request with body := body }

end SctpConformance
