import SctpConformance.Http.Segmentation
import SctpConformance.Json.Emitted

/-!
# Standard requests

Requests as clients write them: lines that end in CR LF, an empty line, and a body whose
length the last header announces.  `ReadHttpRequest` reads them back, whatever follows
them and however the stream is cut.

Main results:

- Structure `RequestText`: a request, and the text it is sent as.
- Theorem `findText_joinLines`: the headers end where they were meant to end.
- Theorem `readHttpRequest_text`: the request is read back.
-/

namespace SctpConformance

open Library

/-! ## Lines -/

/-- A line that is not empty and contains no line end. -/
def IsLine (line : CppString) : Prop :=
  line ≠ [] ∧ ∀ ch ∈ line, ch ≠ 13 ∧ ch ≠ 10

/-- Lines with CR LF between them. -/
def joinLines : List CppString → CppString
  | [] => []
  | [line] => line
  | line :: lines => line ++ [13, 10] ++ joinLines lines

/-- A line stands before the others with a line break between them. -/
theorem joinLines_cons (line : CppString) {lines : List CppString} (hne : lines ≠ []) :
    joinLines (line :: lines) = line ++ 13 :: 10 :: joinLines lines := by
  cases lines with
  | nil => contradiction
  | cons next lines => simp [joinLines]

/-- A pattern is not found where its first byte does not occur. -/
theorem findText_append {first : UInt8} {pattern s : CppString} (hs : ∀ ch ∈ s, ch ≠ first)
    (t : CppString) :
    findText (first :: pattern) (s ++ t) =
      (findText (first :: pattern) t).map (· + s.length) := by
  induction s with
  | nil => simp
  | cons ch s ih =>
      have hch : first ≠ ch := (hs ch List.mem_cons_self).symm
      have hrest : ∀ ch ∈ s, ch ≠ first := by
        intro ch' hch'
        exact hs ch' (List.mem_cons_of_mem _ hch')
      have hprefix : (first :: pattern).isPrefixOf (ch :: (s ++ t)) = false := by
        simp [List.isPrefixOf, hch]
      rw [List.cons_append, findText, hprefix, ih hrest]
      cases findText (first :: pattern) t with
      | none => rfl
      | some n => simp [Nat.add_assoc]

/-- A line begins with a byte that is no line break. -/
theorem IsLine.first {line : CppString} (h : IsLine line) :
    ∃ ch rest, line = ch :: rest ∧ ch ≠ 13 ∧ ch ≠ 10 := by
  rcases h with ⟨hne, hchars⟩
  cases line with
  | nil => contradiction
  | cons ch rest => exact ⟨ch, rest, rfl, hchars ch List.mem_cons_self⟩

/-- So do several lines. -/
theorem joinLines_first {lines : List CppString} (hne : lines ≠ [])
    (hlines : ∀ line ∈ lines, IsLine line) :
    ∃ ch rest, joinLines lines = ch :: rest ∧ ch ≠ 13 ∧ ch ≠ 10 := by
  cases lines with
  | nil => contradiction
  | cons line lines =>
      rcases (hlines line List.mem_cons_self).first with ⟨ch, rest, rfl, hch⟩
      cases lines with
      | nil => exact ⟨ch, rest, rfl, hch⟩
      | cons next lines =>
          rw [joinLines_cons _ (List.cons_ne_nil _ _)]
          exact ⟨ch, _, rfl, hch⟩

/-- A line end that another line follows is no end of the headers. -/
theorem findText_crlf_step {ch : UInt8} (h : ch ≠ 13) (rest : CppString) :
    findText crlfEnd (13 :: 10 :: ch :: rest) =
      (findText crlfEnd (ch :: rest)).map (· + 2) := by
  have hne : (13 == ch) = false := beq_false_of_ne h.symm
  have hfirst : crlfEnd.isPrefixOf (13 :: 10 :: ch :: rest) = false := by
    simp [crlfEnd, List.isPrefixOf, hne]
  have hsecond : crlfEnd.isPrefixOf (10 :: ch :: rest) = false := rfl
  rw [findText, hfirst, findText, hsecond]
  cases findText crlfEnd (ch :: rest) with
  | none => rfl
  | some n => rfl

/-- A line break in front of a line does not end the head. -/
theorem findText_lf_step {ch : UInt8} (h : ch ≠ 10) (rest : CppString) :
    findText lfEnd (13 :: 10 :: ch :: rest) = (findText lfEnd (ch :: rest)).map (· + 2) := by
  have hne : (10 == ch) = false := beq_false_of_ne h.symm
  have hfirst : lfEnd.isPrefixOf (13 :: 10 :: ch :: rest) = false := rfl
  have hsecond : lfEnd.isPrefixOf (10 :: ch :: rest) = false := by
    simp [lfEnd, List.isPrefixOf, hne]
  rw [findText, hfirst, findText, hsecond]
  cases findText lfEnd (ch :: rest) with
  | none => rfl
  | some n => rfl

/-- Behind the last line, the first end of the headers is the intended one. -/
theorem findText_crlfEnd (tail : CppString) :
    findText crlfEnd (crlfEnd ++ tail) = some 0 ∧
    findText lfEnd (crlfEnd ++ tail) = (findText lfEnd (10 :: tail)).map (· + 3) := by
  refine ⟨rfl, ?_⟩
  have hfirst : crlfEnd ++ tail = 13 :: 10 :: 13 :: 10 :: tail := rfl
  have hreturn : findText lfEnd (13 :: 10 :: tail) = (findText lfEnd (10 :: tail)).map (· + 1) :=
    rfl
  rw [hfirst, findText_lf_step (by decide), hreturn]
  cases findText lfEnd (10 :: tail) with
  | none => rfl
  | some n => rfl

/-- In lines of their own, both ends of headers are found only behind the last line. -/
theorem findText_joinLines {lines : List CppString} (hne : lines ≠ [])
    (hlines : ∀ line ∈ lines, IsLine line) (tail : CppString) :
    findText crlfEnd (joinLines lines ++ (crlfEnd ++ tail)) = some (joinLines lines).length ∧
    findText lfEnd (joinLines lines ++ (crlfEnd ++ tail)) =
      (findText lfEnd (10 :: tail)).map (· + ((joinLines lines).length + 3)) := by
  induction lines with
  | nil => contradiction
  | cons line lines ih =>
      have hline := hlines line List.mem_cons_self
      have hreturn : ∀ t, findText crlfEnd (line ++ t) =
          (findText crlfEnd t).map (· + line.length) :=
        findText_append fun ch h => (hline.2 ch h).1
      have hfeed : ∀ t, findText lfEnd (line ++ t) =
          (findText lfEnd t).map (· + line.length) :=
        findText_append fun ch h => (hline.2 ch h).2
      by_cases hlast : lines = []
      · subst hlast
        rw [joinLines, hreturn, hfeed, (findText_crlfEnd tail).1, (findText_crlfEnd tail).2]
        constructor
        · simp
        · cases findText lfEnd (10 :: tail) with
          | none => rfl
          | some n =>
              simp only [Option.map_some, Option.some.injEq]
              omega
      · have hrest : ∀ line ∈ lines, IsLine line := by
          intro line' hline'
          exact hlines line' (List.mem_cons_of_mem _ hline')
        rcases ih hlast hrest with ⟨hcrlf, hlf⟩
        rcases joinLines_first hlast hrest with ⟨ch, inner, hfirst, hch₁, hch₂⟩
        rw [joinLines_cons line hlast, List.append_assoc, hreturn, hfeed]
        rw [List.cons_append, List.cons_append]
        rw [hfirst, List.cons_append] at hcrlf hlf ⊢
        rw [findText_crlf_step hch₁, findText_lf_step hch₂, hcrlf, hlf]
        constructor
        · simp only [Option.map_some, Option.some.injEq, List.length_append, List.length_cons]
          omega
        · cases findText lfEnd (10 :: tail) with
          | none => rfl
          | some n =>
              simp only [Option.map_some, Option.some.injEq, List.length_append, List.length_cons]
              omega

/-! ## Lines are read back -/

/-- The carriage return at the end of a line is removed. -/
theorem stripReturn_return (line : CppString) : stripReturn (line ++ [13]) = line := by
  simp [stripReturn]

/-- A line without one stays as it is. -/
theorem stripReturn_line {line : CppString} (h : IsLine line) : stripReturn line = line := by
  rw [stripReturn, if_neg]
  intro hlast
  exact (h.2 13 (List.mem_of_getLast? hlast)).1 rfl

/-- Header lines may be stripped before they are read. -/
theorem foldl_stripReturn {raw lines : List CppString} (hraw : raw.map stripReturn = lines)
    (hlines : ∀ line ∈ lines, IsLine line) (headers : List (CppString × CppString)) :
    raw.foldl parseHeaderLine headers = lines.foldl parseHeaderLine headers := by
  induction raw generalizing lines headers with
  | nil =>
      rw [← hraw]
      rfl
  | cons first raw ih =>
      subst hraw
      have hfirst := stripReturn_line (hlines (stripReturn first) List.mem_cons_self)
      have hparse : parseHeaderLine headers (stripReturn first) =
          parseHeaderLine headers first := by
        rw [parseHeaderLine, hfirst, parseHeaderLine]
      rw [List.map_cons, List.foldl_cons, List.foldl_cons, hparse]
      apply ih rfl
      intro line hline
      exact hlines line (List.mem_cons_of_mem _ hline)

/-- Lines with CR LF between them are read one by one. -/
theorem getLines_joinLines {lines : List CppString} (hne : lines ≠ [])
    (hlines : ∀ line ∈ lines, IsLine line) :
    (getLines (joinLines lines) []).map stripReturn = lines := by
  induction lines with
  | nil => contradiction
  | cons line lines ih =>
      have hline := hlines line List.mem_cons_self
      have hfeed : ∀ ch ∈ line, ch ≠ 10 := fun ch h => (hline.2 ch h).2
      by_cases hlast : lines = []
      · subst hlast
        rw [joinLines, getLines_last hfeed (by simpa using hline.1)]
        simp [stripReturn_line hline]
      · have hrest : ∀ line ∈ lines, IsLine line := by
          intro line' hline'
          exact hlines line' (List.mem_cons_of_mem _ hline')
        have hfeed' : ∀ ch ∈ line ++ [13], ch ≠ 10 := by
          intro ch hch
          rcases List.mem_append.mp hch with h | h
          · exact hfeed ch h
          · rw [List.mem_singleton.mp h]
            decide
        have hsplit : joinLines (line :: lines) = (line ++ [13]) ++ 10 :: joinLines lines := by
          rw [joinLines_cons line hlast]
          simp
        rw [hsplit, getLines_line hfeed', List.map_cons, List.nil_append, stripReturn_return,
          ih hlast hrest]

/-! ## Words -/

/-- A word: not empty, and without whitespace. -/
abbrev Token := { word : CppString // word ≠ [] ∧ ∀ ch ∈ word, isSpace ch = false }

/-- The next word of a stream that goes on with whitespace or ends. -/
theorem extractWord_token (word : Token) {rest : CppString}
    (hrest : ∀ ch, rest.head? = some ch → isSpace ch = true) :
    extractWord (word.val ++ rest) = some (word.val, rest) := by
  rcases word with ⟨word, hne, hword⟩
  have hstart : (word ++ rest).dropWhile isSpace = word ++ rest := by
    cases word with
    | nil => contradiction
    | cons ch word =>
        have hch := hword ch List.mem_cons_self
        simp [hch]
  have hall : ∀ ch ∈ word, (!isSpace ch) = true := by
    intro ch hch
    rw [hword ch hch]
    rfl
  have hstop : rest.takeWhile (fun ch => !isSpace ch) = [] := by
    cases rest with
    | nil => rfl
    | cons ch rest =>
        have hch := hrest ch rfl
        simp [hch]
  have htake : (word ++ rest).takeWhile (fun ch => !isSpace ch) = word := by
    rw [List.takeWhile_append_of_pos hall, hstop, List.append_nil]
  simp only [extractWord, hstart, htake, if_neg hne, List.drop_left]

/-- A space before a word is skipped. -/
theorem extractWord_space (input : CppString) : extractWord (32 :: input) = extractWord input := by
  have hdrop : (32 :: input).dropWhile isSpace = input.dropWhile isSpace := by
    rw [List.dropWhile_cons_of_pos (by decide)]
  rw [extractWord, hdrop, extractWord]

/-- The method and the path are read back from the first line. -/
theorem parseRequestLine_tokens (method path version : Token) :
    parseRequestLine (method.val ++ 32 :: (path.val ++ 32 :: version.val)) =
      some (method.val, path.val) := by
  have hspace : ∀ (rest : CppString) (ch : UInt8), (32 :: rest).head? = some ch →
      isSpace ch = true := by
    intro rest ch hch
    rw [← Option.some.inj hch]
    decide
  have hversion : extractWord version.val = some (version.val, []) := by
    have hword := extractWord_token version (show ∀ ch, [].head? = some ch → _ by simp)
    rwa [List.append_nil] at hword
  rw [parseRequestLine, extractWord_token method (hspace _)]
  dsimp only
  rw [extractWord_space, extractWord_token path (hspace _)]
  dsimp only
  rw [extractWord_space, hversion]

/-! ## Header fields -/

/-- A text without whitespace at its ends. -/
def Trimmed (value : CppString) : Prop :=
  (∀ ch, value.head? = some ch → isSpace ch = false) ∧
    ∀ ch, value.getLast? = some ch → isSpace ch = false

/-- Nothing is dropped of a value that begins with no space. -/
theorem dropWhile_of_head {value : CppString} (h : ∀ ch, value.head? = some ch → isSpace ch = false) :
    value.dropWhile isSpace = value := by
  cases value with
  | nil => rfl
  | cons ch value =>
      have hch := h ch rfl
      rw [List.dropWhile_cons_of_neg (by rw [hch]; decide)]

/-- Nothing is trimmed of a trimmed value. -/
theorem trim_trimmed {value : CppString} (h : Trimmed value) : trim value = value := by
  have hreverse : ∀ ch, value.reverse.head? = some ch → isSpace ch = false := by
    intro ch hch
    rw [List.head?_reverse] at hch
    exact h.2 ch hch
  rw [trim, dropWhile_of_head h.1, dropWhile_of_head hreverse, List.reverse_reverse]

/-- A space before the value is trimmed. -/
theorem trim_space (value : CppString) : trim (32 :: value) = trim value := by
  rw [trim, List.dropWhile_cons_of_pos (by decide), trim]

/-- A name that is not empty and contains no colon and no whitespace, with a value that
contains no line end and has no whitespace at its ends. -/
structure HeaderField where
  name : CppString
  value : CppString
  name_ne : name ≠ []
  name_chars : ∀ ch ∈ name, ch ≠ 58 ∧ isSpace ch = false
  value_chars : ∀ ch ∈ value, ch ≠ 13 ∧ ch ≠ 10
  value_trimmed : Trimmed value

namespace HeaderField

/-- The line of the field. -/
def line (field : HeaderField) : CppString :=
  field.name ++ 58 :: 32 :: field.value

/-- The name by which the field is looked up. -/
def key (field : HeaderField) : CppString :=
  field.name.map toLower

/-- It is a line. -/
theorem line_isLine (field : HeaderField) : IsLine field.line := by
  refine ⟨?_, ?_⟩
  · rw [line]
    simp
  · intro ch hch
    rcases List.mem_append.mp hch with hname | hrest
    · have hspace := (field.name_chars ch hname).2
      refine ⟨?_, ?_⟩
      · rintro rfl
        exact absurd hspace (by decide)
      · rintro rfl
        exact absurd hspace (by decide)
    · rcases List.mem_cons.mp hrest with rfl | hrest
      · decide
      · rcases List.mem_cons.mp hrest with rfl | hvalue
        · decide
        · exact field.value_chars ch hvalue

/-- The line of a field assigns its value to its key. -/
theorem parse_line (field : HeaderField) (headers : List (CppString × CppString)) :
    parseHeaderLine headers field.line = assignHeader field.key field.value headers := by
  have hcolon : ∀ ch ∈ field.name, decide (ch ≠ 58) = true := by
    intro ch hch
    exact decide_eq_true (field.name_chars ch hch).1
  have htake : field.line.takeWhile (· ≠ 58) = field.name := by
    rw [line, List.takeWhile_append_of_pos hcolon, List.takeWhile_cons_of_neg (by decide),
      List.append_nil]
  have hdrop : field.line.dropWhile (· ≠ 58) = 58 :: 32 :: field.value := by
    rw [line, List.dropWhile_append_of_pos hcolon, List.dropWhile_cons_of_neg (by decide)]
  have hname : Trimmed field.name := by
    refine ⟨?_, ?_⟩
    · intro ch hch
      exact (field.name_chars ch (List.mem_of_head? hch)).2
    · intro ch hch
      exact (field.name_chars ch (List.mem_of_getLast? hch)).2
  have hmem : (58 : UInt8) ∈ field.line := by
    rw [line]
    simp
  simp only [parseHeaderLine, stripReturn_line field.line_isLine, if_pos hmem, htake, hdrop,
    List.drop_one, List.tail_cons, trim_space, trim_trimmed hname,
    trim_trimmed field.value_trimmed]
  rfl

end HeaderField

/-- The value of the last field with the key. -/
def lastValue (key : CppString) : List HeaderField → Option CppString
  | [] => none
  | field :: fields =>
      (lastValue key fields).or (if field.key = key then some field.value else none)

/-- The last field with a name has its last value. -/
theorem lastValue_concat (key : CppString) (fields : List HeaderField) (field : HeaderField) :
    lastValue key (fields ++ [field]) =
      (if field.key = key then some field.value else none).or (lastValue key fields) := by
  induction fields with
  | nil => simp [lastValue]
  | cons first fields ih => rw [List.cons_append, lastValue, ih, lastValue, Option.or_assoc]

/-- An assigned field is found, and the others are as before. -/
theorem findHeader_assignHeader (key key' value : CppString)
    (headers : List (CppString × CppString)) :
    findHeader key (assignHeader key' value headers) =
      if key' = key then some value else findHeader key headers := by
  induction headers with
  | nil =>
      by_cases hkey : key' = key
      · simp [assignHeader, findHeader, hkey]
      · simp [assignHeader, findHeader, hkey]
  | cons entry headers ih =>
      rw [assignHeader]
      by_cases hkey : key' = key
      · subst hkey
        rw [if_pos rfl] at ih ⊢
        split
        · simp [findHeader]
        · split
          · simp [findHeader]
          · rename_i hentry hless
            have hother : ¬entry.1 = key' := fun h => hentry h.symm
            simpa [findHeader, hother] using ih
      · rw [if_neg hkey] at ih ⊢
        split
        · rename_i hentry
          simp [findHeader, hkey, ← hentry]
        · split
          · simp [findHeader, hkey]
          · by_cases hfound : entry.1 = key
            · simp [findHeader, hfound]
            · simpa [findHeader, hfound] using ih

/-- Reading the lines of fields leaves each key with its last value. -/
theorem findHeader_fields (key : CppString) (fields : List HeaderField)
    (headers : List (CppString × CppString)) :
    findHeader key ((fields.map HeaderField.line).foldl parseHeaderLine headers) =
      (lastValue key fields).or (findHeader key headers) := by
  induction fields generalizing headers with
  | nil => rfl
  | cons field fields ih =>
      rw [List.map_cons, List.foldl_cons, ih, field.parse_line, findHeader_assignHeader,
        lastValue, Option.or_assoc]
      congr 1
      by_cases hkey : field.key = key
      · simp [hkey]
      · simp [hkey]

/-! ## Requests -/

/-- A standard request, whose last header announces its body. -/
structure RequestText where
  method : Token
  path : Token
  version : Token
  fields : List HeaderField
  length : HeaderField
  body : CppString
  length_key : length.key = str "content-length"
  length_value : length.value = decimal body.length

namespace RequestText

variable (r : RequestText)

/-- The first line of the request. -/
def requestLine : CppString :=
  r.method.val ++ 32 :: (r.path.val ++ 32 :: r.version.val)

/-- The lines of the head, with the length of the body as the last. -/
def lines : List CppString :=
  r.requestLine :: (r.fields ++ [r.length]).map HeaderField.line

/-- The request line, the headers and the empty line behind them. -/
def headerSection : CppString :=
  joinLines r.lines ++ crlfEnd

/-- The first line is a line. -/
theorem requestLine_isLine : IsLine r.requestLine := by
  have htoken : ∀ (word : Token) (ch : UInt8), ch ∈ word.val → ch ≠ 13 ∧ ch ≠ 10 := by
    intro word ch hch
    have hspace := word.property.2 ch hch
    refine ⟨?_, ?_⟩
    · rintro rfl
      exact absurd hspace (by decide)
    · rintro rfl
      exact absurd hspace (by decide)
  refine ⟨?_, ?_⟩
  · rw [requestLine]
    simp
  · intro ch hch
    simp only [requestLine, List.mem_append, List.mem_cons] at hch
    rcases hch with h | rfl | h | rfl | h
    · exact htoken r.method ch h
    · decide
    · exact htoken r.path ch h
    · decide
    · exact htoken r.version ch h

/-- There is at least one line. -/
theorem lines_ne_nil : r.lines ≠ [] :=
  List.cons_ne_nil _ _

/-- All of them are lines. -/
theorem lines_isLine : ∀ line ∈ r.lines, IsLine line := by
  intro line hline
  rcases List.mem_cons.mp hline with rfl | hfield
  · exact r.requestLine_isLine
  · rcases List.mem_map.mp hfield with ⟨field, -, rfl⟩
    exact field.line_isLine

/-- The head of the request is read back. -/
theorem parseHead_block :
    parseHead (joinLines r.lines) =
      .ok { method := r.method.val
            path := r.path.val
            headers := ((r.fields ++ [r.length]).map HeaderField.line).foldl
              parseHeaderLine [] } := by
  have hread := getLines_joinLines r.lines_ne_nil r.lines_isLine
  unfold parseHead
  cases hlines : getLines (joinLines r.lines) [] with
  | nil =>
      rw [hlines] at hread
      contradiction
  | cons line lines =>
      rw [hlines, List.map_cons] at hread
      rcases List.cons.inj hread with ⟨hline, hrest⟩
      have hwords : parseRequestLine r.requestLine = some (r.method.val, r.path.val) :=
        parseRequestLine_tokens r.method r.path r.version
      have hfields : ∀ line ∈ (r.fields ++ [r.length]).map HeaderField.line, IsLine line := by
        intro line' hline'
        exact r.lines_isLine line' (List.mem_cons_of_mem _ hline')
      dsimp only
      rw [hline, hwords, foldl_stripReturn hrest hfields]

end RequestText

/-- A digit is neither a space nor a sign. -/
theorem isDigit_ne {ch : UInt8} (h : isDigit ch = true) :
    isSpace ch = false ∧ ch ≠ 45 ∧ ch ≠ 43 := by
  refine ⟨?_, ?_, ?_⟩
  · by_contra hspace
    simp only [isDigit, isSpace, Bool.and_eq_true, Bool.or_eq_true, decide_eq_true_eq,
      Bool.not_eq_false, UInt8.le_iff_toNat_le, ← UInt8.toNat_inj, UInt8.reduceToNat] at h hspace
    omega
  · rintro rfl
    exact absurd h (by decide)
  · rintro rfl
    exact absurd h (by decide)

/-- A number that fits is read back by `strtoul`. -/
theorem strtoul_decimal {n : Nat} (h : n ≤ ulongMax) : strtoul (decimal n) = n := by
  have hdigits := decimal_digits n
  have htake : (decimal n).takeWhile isDigit = decimal n :=
    List.takeWhile_eq_self_iff.mpr hdigits
  have hstart : (decimal n).dropWhile isSpace = decimal n := by
    apply dropWhile_of_head
    intro ch hch
    exact (isDigit_ne (hdigits ch (List.mem_of_head? hch))).1
  have hsign : splitSign (decimal n) = (false, decimal n) := by
    cases hdecimal : decimal n with
    | nil => rfl
    | cons ch rest =>
        rw [hdecimal] at hdigits
        have hch := isDigit_ne (hdigits ch List.mem_cons_self)
        rw [splitSign, if_neg hch.2.1, if_neg hch.2.2]
  simp only [strtoul, hstart, hsign, htake, natOfDigits_decimal]
  rw [if_neg (by omega), if_neg (by decide)]

/-- A standard request is read back, however the stream is cut and whatever follows, if
its header section keeps one buffer's distance from the size limit.  The body is the
announced one, and each header has its last value. -/
theorem readHttpRequest_text (r : RequestText) (after : CppString) (ending : ReadEnd)
    (pieces : List CppString) (hcut : CutInto (r.headerSection ++ r.body ++ after) pieces)
    (hsection : r.headerSection.length ≤ 2 ^ 20 - 4100) (hbody : r.body.length ≤ ulongMax) :
    ∃ headers, readHttpRequest ending pieces =
        .ok { method := r.method.val, path := r.path.val, body := r.body, headers := headers } ∧
      ∀ key, findHeader key headers = lastValue key (r.fields ++ [r.length]) := by
  have hstream : r.headerSection ++ r.body ++ after =
      joinLines r.lines ++ (crlfEnd ++ (r.body ++ after)) := by
    simp [RequestText.headerSection]
  have hlength : r.headerSection.length = (joinLines r.lines).length + 4 := by
    rw [RequestText.headerSection, List.length_append]
    rfl
  have hmax : maxHeaderBytes = 2 ^ 20 := by decide
  rcases findText_joinLines r.lines_ne_nil r.lines_isLine (r.body ++ after) with
    ⟨hcrlf, hlf⟩
  rw [← hstream] at hcrlf hlf
  -- The first end of the headers is the intended one.
  have hhead : headLength (r.headerSection ++ r.body ++ after) =
      some ((joinLines r.lines).length + 4) := by
    rw [headLength, hcrlf, hlf]
    cases findText lfEnd (10 :: (r.body ++ after)) with
    | none => rfl
    | some q =>
        simp only [Option.map_some, Option.some.injEq]
        omega
  rcases (readHttpRequest_range ending hhead _).mp ⟨pieces, hcut, rfl⟩ with
    ⟨b, hlow, hhigh, -, hresult⟩
  rw [outcome_crlf ending hcrlf hlow (by omega)] at hresult
  have htake : (r.headerSection ++ r.body ++ after).take (joinLines r.lines).length =
      joinLines r.lines := by
    rw [hstream, List.take_left]
  have hdrop : (r.headerSection ++ r.body ++ after).drop ((joinLines r.lines).length + 4) =
      r.body ++ after := by
    rw [← hlength, List.append_assoc, List.drop_left]
  let headers := ((r.fields ++ [r.length]).map HeaderField.line).foldl parseHeaderLine []
  have hfind : ∀ key, findHeader key headers = lastValue key (r.fields ++ [r.length]) := by
    intro key
    rw [findHeader_fields key (r.fields ++ [r.length]) []]
    exact Option.or_none
  have hcontent : contentLength headers = r.body.length := by
    have hlast : lastValue (str "content-length") (r.fields ++ [r.length]) =
        some (decimal r.body.length) := by
      rw [lastValue_concat, if_pos r.length_key, r.length_value]
      rfl
    rw [contentLength, hfind, hlast]
    exact strtoul_decimal hbody
  refine ⟨headers, ?_, hfind⟩
  rw [← hresult, finishRequest, htake, r.parseHead_block, hdrop]
  dsimp only
  rw [if_neg, hcontent, List.take_left]
  change ¬(r.body ++ after).length < contentLength headers
  rw [hcontent, List.length_append]
  omega

/-- A request whose body contains CR LF CR LF. -/
def sampleRequest : RequestText where
  method := ⟨str "POST", by decide⟩
  path := ⟨str "/v1/sessions", by decide⟩
  version := ⟨str "HTTP/1.1", by decide⟩
  fields := []
  length := {
    name := str "Content-Length"
    value := str "6"
    name_ne := by decide
    name_chars := by decide
    value_chars := by decide
    value_trimmed := by
      constructor <;>
      · intro ch hch
        cases hch
        decide }
  body := crlfBody
  length_key := by decide
  length_value := by decide

theorem readHttpRequest_text_sample :
    ∃ headers, readHttpRequest .closed [sampleRequest.headerSection, crlfBody ++ str "GET"] =
        .ok { method := str "POST", path := str "/v1/sessions", body := crlfBody,
              headers := headers } ∧
      ∀ key, findHeader key headers = lastValue key [sampleRequest.length] :=
  readHttpRequest_text sampleRequest (str "GET") .closed _ ⟨by decide, by decide⟩ (by decide)
    (by decide)

end SctpConformance
