import SctpConformance.Runner.Lines
import SctpConformance.Library.Utf8
import Mathlib.Data.List.Forall2
import Mathlib.Algebra.Group.Nat.Defs

/-!
# What the C helper prints

`adapters/freebsd_c/helper.c`: the line that `emit_recv` prints for a received message, and
what becomes of it on its way through the pipe to `extract_events`.

`json_escape` escapes quotes, backslashes, newlines, carriage returns and tabs, and prints
every other byte as it is.  A text that contains another control character is no JSON, and
some characters end a line for `str.splitlines`; of what is left of such a line nothing is
an event of the helper.

Main results:

- Theorem `emitRecv_text`: the printed bytes are the encoding of a line of text.
- Theorem `loads_recvText`: what is read from a line whose payload is carried.
- Theorem `recvText_pieces`: from no piece of another line an event is read that has a name.
- Theorem `recv_reported_iff`: all events are read back if and only if all payloads are
  carried.
-/

namespace SctpConformance.Runner

open Library

/-! ## The helper -/

/-- What a Helper handles and prints. -/
abbrev Bytes := List UInt8

/-- The bytes that `printf` writes for a text. -/
def encodeUtf8 (text : Text) : Bytes :=
  text.flatMap String.utf8EncodeChar

/-- The `switch` of `json_escape`. -/
def escapeByte (b : UInt8) : Bytes :=
  if b = 92 ∨ b = 34 then [92, b]
  else if b = 10 then [92, 110]
  else if b = 13 then [92, 114]
  else if b = 9 then [92, 116]
  else [b]

/-- `json_escape`, on the bytes of a C string up to its NUL byte. -/
def jsonEscape (value : Bytes) : Bytes :=
  [34] ++ (value.takeWhile (· ≠ 0)).flatMap escapeByte ++ [34]

/-- The conversion `%u`. -/
def unsigned (n : Nat) : Text :=
  Nat.toDigits 10 n

/-- The call that prints a received message. -/
def emitRecv (payload : Bytes) (stream : UInt16) (ppid assocId : UInt32) : Bytes :=
  encodeUtf8 "\x7b\"event\":\"recv\",\"payload\":".toList ++ jsonEscape payload ++
    encodeUtf8 (",\"stream\":".toList ++ unsigned stream.toNat ++ ",\"ppid\":".toList ++
      unsigned ppid.toNat ++ ",\"assoc_id\":".toList ++ unsigned assocId.toNat ++ "\x7d\n".toList)

/-- A message as `emit_recv` gets it. -/
structure RecvEvent where
  payload : Bytes
  stream : UInt16
  ppid : UInt32
  assocId : UInt32
  payload_utf8 : IsUtf8 payload
  payload_nul : 0 ∉ payload
  payload_length : payload.length ≤ 8192

/-- The line of an event. -/
def RecvEvent.emit (event : RecvEvent) : Bytes :=
  emitRecv event.payload event.stream event.ppid event.assocId

/-- What the helper has written to its standard output. -/
def helperOutput (sent : List RecvEvent) : Bytes :=
  sent.flatMap RecvEvent.emit

/-! ## The pipe -/

/-- `bytes.decode("utf-8")` -/
def decodeUtf8 (bytes : Bytes) : Option Text :=
  bytes.toByteArray.utf8Decode?.map Array.toList

/-- What a text stream makes of the carriage returns in what it reads. -/
def universalNewlines : Text → Text
  | [] => []
  | '\r' :: '\n' :: rest => '\n' :: universalNewlines rest
  | '\r' :: rest => '\n' :: universalNewlines rest
  | ch :: rest => ch :: universalNewlines rest

/-- The output of the helper as the runner gets it, unless it cannot be decoded. -/
def capturedText (output : Bytes) : Option Text :=
  (decodeUtf8 output).map universalNewlines

/-- The event that was read tells what was received. -/
structure RecvEvent.ReadAs (sent : RecvEvent) (event : Event) : Prop where
  name : event.get "event".toList = some (.str "recv".toList)
  payload : ∃ text ∈ decodeUtf8 sent.payload, event.get "payload".toList = some (.str text)
  stream : event.get "stream".toList = some (.int sent.stream.toNat)
  ppid : event.get "ppid".toList = some (.int sent.ppid.toNat)

/-- For each line that was printed one event is read, in the same order. -/
def AllReported (interpreter : Interpreter) (sent : List RecvEvent) : Prop :=
  ∃ output events, capturedText (helperOutput sent) = some output ∧
    extractEvents interpreter.python output = .ok events ∧
    List.Forall₂ RecvEvent.ReadAs sent events

/-- A character that comes through: no control character but those that are escaped, and
none of the other line boundaries. -/
def Carried (ch : Char) : Prop :=
  (' ' ≤ ch ∨ ch = '\t' ∨ ch = '\n' ∨ ch = '\r') ∧
    ch ≠ '\u0085' ∧ ch ≠ '\u2028' ∧ ch ≠ '\u2029'

instance : DecidablePred Carried := fun _ =>
  inferInstanceAs (Decidable (_ ∧ _))

/-- The payload as a text. -/
def RecvEvent.text (event : RecvEvent) : Text :=
  (decodeUtf8 event.payload).getD []

/-- All characters of the payload come through. -/
def RecvEvent.Carried (event : RecvEvent) : Prop :=
  ∀ ch ∈ event.text, Runner.Carried ch

instance : DecidablePred RecvEvent.Carried := fun event =>
  inferInstanceAs (Decidable (∀ ch ∈ event.text, _))

/-! ## The encoding -/

/-- An encoded text is decoded again. -/
theorem decodeUtf8_encodeUtf8 (text : Text) : decodeUtf8 (encodeUtf8 text) = some text := by
  have h := List.utf8Decode?_utf8Encode (l := text)
  unfold decodeUtf8
  rw [encodeUtf8, ← List.utf8Encode, h]
  simp

/-- Texts are encoded character by character. -/
theorem encodeUtf8_append (text text' : Text) :
    encodeUtf8 (text ++ text') = encodeUtf8 text ++ encodeUtf8 text' :=
  List.flatMap_append

/-- `json_escape` on characters. -/
def escapeChar (ch : Char) : Text :=
  if ch = '\\' ∨ ch = '"' then ['\\', ch]
  else if ch = '\n' then ['\\', 'n']
  else if ch = '\r' then ['\\', 'r']
  else if ch = '\t' then ['\\', 't']
  else [ch]

/-- The payload between the quotes, as characters. -/
def escapeText (text : Text) : Text :=
  text.flatMap escapeChar

/-- An ASCII byte is in the encoding of its own character only. -/
theorem eq_of_mem_utf8EncodeChar {ch : Char} {b : UInt8} (hb : b < 0x80)
    (h : b ∈ String.utf8EncodeChar ch) : ch = Char.ofNat b.toNat := by
  rcases utf8EncodeChar_cases ch with ⟨b', -, hsingle⟩ | hlead
  · rw [hsingle, List.mem_singleton] at h
    subst h
    have hsame : encodeUtf8 [ch] = encodeUtf8 [Char.ofNat b.toNat] := by
      simp [encodeUtf8, hsingle, utf8EncodeChar_ascii hb]
    have hdecode := decodeUtf8_encodeUtf8 [ch]
    rw [hsame, decodeUtf8_encodeUtf8] at hdecode
    simpa using hdecode.symm
  · exact absurd hb (UInt8.not_lt.mpr (hlead b h).1)

/-- The characters of an escape are the bytes that the Helper prints. -/
theorem encodeUtf8_escapeChar (ch : Char) :
    encodeUtf8 (escapeChar ch) = (String.utf8EncodeChar ch).flatMap escapeByte := by
  by_cases hspecial : ch = '\\' ∨ ch = '"' ∨ ch = '\n' ∨ ch = '\r' ∨ ch = '\t'
  · rcases hspecial with rfl | rfl | rfl | rfl | rfl <;> decide
  · simp only [not_or] at hspecial
    obtain ⟨hbackslash, hquote, hnewline, hreturn, htab⟩ := hspecial
    have hchar : escapeChar ch = [ch] := by
      simp [escapeChar, hbackslash, hquote, hnewline, hreturn, htab]
    have hbytes : ∀ b ∈ String.utf8EncodeChar ch, escapeByte b = [b] := by
      intro b hb
      have hne : ∀ b' : UInt8, b' < 0x80 → ch ≠ Char.ofNat b'.toNat → b ≠ b' := by
        rintro b' hb' hch rfl
        exact hch (eq_of_mem_utf8EncodeChar hb' hb)
      have h92 := hne 92 (by decide) hbackslash
      have h34 := hne 34 (by decide) hquote
      have h10 := hne 10 (by decide) hnewline
      have h13 := hne 13 (by decide) hreturn
      have h9 := hne 9 (by decide) htab
      simp [escapeByte, h92, h34, h10, h13, h9]
    rw [hchar, List.flatMap_congr hbytes]
    simp [encodeUtf8]

/-- The bytes of an escaped text are the escaped bytes of the text. -/
theorem encodeUtf8_escapeText (text : Text) :
    encodeUtf8 (escapeText text) = (encodeUtf8 text).flatMap escapeByte := by
  induction text with
  | nil => rfl
  | cons ch text ih =>
      have hcons : encodeUtf8 (ch :: text) = String.utf8EncodeChar ch ++ encodeUtf8 text := rfl
      have hescape : escapeText (ch :: text) = escapeChar ch ++ escapeText text := rfl
      rw [hescape, encodeUtf8_append, encodeUtf8_escapeChar, ih, hcons, List.flatMap_append]

/-! ## The printed line -/

/-- A line up to the characters of the payload. -/
def recvFront : Text :=
  "\x7b\"event\":\"recv\",\"payload\":\"".toList

/-- A line behind the payload and its closing quote. -/
def recvBack (stream ppid assocId : Nat) : Text :=
  ",\"stream\":".toList ++ unsigned stream ++ ",\"ppid\":".toList ++ unsigned ppid ++
    ",\"assoc_id\":".toList ++ unsigned assocId ++ "\x7d".toList

/-- The line of an event, as characters. -/
def recvText (payload : Text) (stream ppid assocId : Nat) : Text :=
  recvFront ++ escapeText payload ++ '"' :: recvBack stream ppid assocId

/-- The line that is printed for an event. -/
def RecvEvent.line (event : RecvEvent) : Text :=
  recvText event.text event.stream.toNat event.ppid.toNat event.assocId.toNat

/-- A payload that can be decoded is the encoding of its text. -/
theorem RecvEvent.payload_text (event : RecvEvent) :
    decodeUtf8 event.payload = some event.text ∧ event.payload = encodeUtf8 event.text := by
  obtain ⟨text, htext⟩ := event.payload_utf8
  have hpayload : event.payload = encodeUtf8 text := htext.symm
  have hdecode : decodeUtf8 event.payload = some text := by
    rw [hpayload, decodeUtf8_encodeUtf8]
  rw [RecvEvent.text, hdecode]
  exact ⟨rfl, hpayload⟩

/-- The printed bytes are the encoding of a line. -/
theorem emitRecv_text (event : RecvEvent) :
    event.emit = encodeUtf8 (event.line ++ ['\n']) := by
  have hwhole : event.payload.takeWhile (· ≠ 0) = event.payload := by
    rw [List.takeWhile_eq_self_iff]
    intro b hb
    simp only [decide_eq_true_eq]
    rintro rfl
    exact event.payload_nul hb
  have hescape : event.payload.flatMap escapeByte = encodeUtf8 (escapeText event.text) := by
    rw [encodeUtf8_escapeText, ← event.payload_text.2]
  have hquote : ([34] : Bytes) = encodeUtf8 ['"'] := by decide
  have hfront : recvFront = "\x7b\"event\":\"recv\",\"payload\":".toList ++ ['"'] := by decide
  have hend : "\x7d\n".toList = "\x7d".toList ++ ['\n'] := by decide
  rw [RecvEvent.emit, emitRecv, jsonEscape, hwhole, hescape, hquote]
  simp only [← encodeUtf8_append]
  refine congrArg encodeUtf8 ?_
  unfold RecvEvent.line recvText recvBack
  simp only [hfront, hend, List.append_assoc, List.cons_append, List.nil_append]

/-! ## Boundaries -/

/-- A character that a line boundary is made of, but no newline and no carriage return. -/
def Cuts (ch : Char) : Prop :=
  isLineBoundary ch = true ∧ ch ≠ '\n' ∧ ch ≠ '\r'

instance : DecidablePred Cuts := fun _ =>
  inferInstanceAs (Decidable (_ ∧ _))

/-- A character that a string can contain once it is escaped. -/
def Readable (ch : Char) : Prop :=
  ' ' ≤ ch ∨ ch = '\t' ∨ ch = '\n' ∨ ch = '\r'

instance : DecidablePred Readable := fun _ =>
  inferInstanceAs (Decidable (_ ∨ _))

/-- What comes through is readable and cuts nothing. -/
theorem carried_iff (ch : Char) : Carried ch ↔ Readable ch ∧ ¬Cuts ch := by
  unfold Carried Readable Cuts isLineBoundary
  by_cases hspace : ' ' ≤ ch
  · have hcontrol : ∀ other : Char, other < ' ' → ch ≠ other := by
      rintro other hother rfl
      exact absurd hspace (Char.not_le.mpr hother)
    simp [hspace, hcontrol '\n' (by decide), hcontrol '\r' (by decide),
      hcontrol '\x0b' (by decide), hcontrol '\x0c' (by decide), hcontrol '\x1c' (by decide),
      hcontrol '\x1d' (by decide), hcontrol '\x1e' (by decide), and_assoc]
  · by_cases hescaped : ch = '\t' ∨ ch = '\n' ∨ ch = '\r'
    · rcases hescaped with rfl | rfl | rfl <;> decide
    · simp [hspace, hescaped]

/-- A digit ends no line. -/
theorem boundary_of_isDigit {ch : Char} (h : ch.isDigit = true) : isLineBoundary ch = false := by
  have hne : ∀ other : Char, other.isDigit = false → ch ≠ other := by
    rintro other hother rfl
    rw [h] at hother
    cases hother
  simp [isLineBoundary, hne]

/-- A number ends no line. -/
theorem unsigned_boundary {n : Nat} : ∀ ch ∈ unsigned n, isLineBoundary ch = false := by
  intro ch hch
  exact boundary_of_isDigit (Nat.isDigit_of_mem_toDigits (by decide) (by decide) hch)

/-- What stands in front of the payload ends no line. -/
theorem recvFront_boundary : ∀ ch ∈ recvFront, isLineBoundary ch = false := by
  decide

/-- What stands behind it ends no line. -/
theorem recvBack_boundary {stream ppid assocId : Nat} :
    ∀ ch ∈ recvBack stream ppid assocId, isLineBoundary ch = false := by
  intro ch hch
  unfold recvBack at hch
  simp only [List.mem_append] at hch
  rcases hch with (((((hch | hch) | hch) | hch) | hch) | hch) | hch
  · exact (by decide : ∀ ch ∈ ",\"stream\":".toList, isLineBoundary ch = false) ch hch
  · exact unsigned_boundary ch hch
  · exact (by decide : ∀ ch ∈ ",\"ppid\":".toList, isLineBoundary ch = false) ch hch
  · exact unsigned_boundary ch hch
  · exact (by decide : ∀ ch ∈ ",\"assoc_id\":".toList, isLineBoundary ch = false) ch hch
  · exact unsigned_boundary ch hch
  · exact (by decide : ∀ ch ∈ "\x7d".toList, isLineBoundary ch = false) ch hch

/-- What is escaped holds no boundary, and what cuts is not escaped. -/
theorem escapeChar_boundary {ch : Char} (h : ¬Cuts ch) :
    ∀ c ∈ escapeChar ch, isLineBoundary c = false := by
  unfold escapeChar
  split
  · rename_i hspecial
    rcases hspecial with rfl | rfl <;> decide
  · split
    · decide
    · split
      · decide
      · split
        · decide
        · rename_i hnewline hreturn _
          intro c hc
          obtain rfl := List.mem_singleton.mp hc
          rw [← Bool.not_eq_true]
          exact fun hboundary => h ⟨hboundary, hnewline, hreturn⟩

/-- The characters that end a line for Python are printed as they are. -/
theorem escapeChar_of_cuts {ch : Char} (h : Cuts ch) : escapeChar ch = [ch] := by
  have hne : ∀ other : Char, isLineBoundary other = false → ch ≠ other := by
    rintro other hother rfl
    rw [h.1] at hother
    cases hother
  rw [escapeChar, if_neg (not_or.mpr ⟨hne _ rfl, hne _ rfl⟩), if_neg h.2.1, if_neg h.2.2,
    if_neg (hne _ rfl)]

/-- Without such characters the payload ends no line. -/
theorem escapeText_boundary {text : Text} (h : ∀ ch ∈ text, ¬Cuts ch) :
    ∀ c ∈ escapeText text, isLineBoundary c = false := by
  intro c hc
  obtain ⟨ch, hch, hmem⟩ := List.mem_flatMap.mp hc
  exact escapeChar_boundary (h ch hch) c hmem

/-- No line feed and no carriage return is left in an escaped text. -/
theorem escapeText_newline (text : Text) : '\r' ∉ escapeText text := by
  intro hmem
  obtain ⟨ch, -, hch⟩ := List.mem_flatMap.mp hmem
  by_cases hcuts : Cuts ch
  · rw [escapeChar_of_cuts hcuts] at hch
    exact hcuts.2.2 (List.mem_singleton.mp hch).symm
  · exact absurd (escapeChar_boundary hcuts _ hch) (by decide)

/-! ## Reading the payload -/

section Reading

variable {interpreter : Interpreter}

/-- An escaped character is read back. -/
theorem scanString_escapeChar {ch : Char} (h : Readable ch) (rest : Text) :
    interpreter.scanString (escapeChar ch ++ rest) =
      interpreter.scanString rest >>= fun scanned => pure (ch :: scanned.1, scanned.2) := by
  unfold escapeChar
  split
  · rename_i hspecial
    rcases hspecial with rfl | rfl
    · exact Interpreter.scanString_escape rfl (by decide) rest
    · exact Interpreter.scanString_escape rfl (by decide) rest
  · split
    · rename_i hch
      subst hch
      exact Interpreter.scanString_escape rfl (by decide) rest
    · split
      · rename_i hch
        subst hch
        exact Interpreter.scanString_escape rfl (by decide) rest
      · split
        · rename_i hch
          subst hch
          exact Interpreter.scanString_escape rfl (by decide) rest
        · rename_i hspecial hnewline hreturn htab
          rw [not_or] at hspecial
          have hspace : ' ' ≤ ch := by
            rcases h with hspace | heq | heq | heq
            · exact hspace
            · exact absurd heq htab
            · exact absurd heq hnewline
            · exact absurd heq hreturn
          have hcontrol : ¬ch ≤ '\x1f' := by
            intro hle
            exact absurd (Char.le_trans hspace hle) (by decide)
          exact Interpreter.scanString_plain ⟨hspecial.2, hspecial.1, hcontrol⟩ rest

/-- Another control character stops the reading. -/
theorem scanString_unreadable {ch : Char} (h : ¬Readable ch) (rest : Text) :
    interpreter.scanString (escapeChar ch ++ rest) = .error .decodeError := by
  have hne : ∀ other : Char, Readable other → ch ≠ other := by
    rintro other hother rfl
    exact h hother
  have hcontrol : ch ≤ '\x1f' := by
    have hlt := Char.not_le.mp (not_or.mp h).1
    rw [Char.lt_def, UInt32.lt_iff_toNat_lt] at hlt
    rw [Char.le_def, UInt32.le_iff_toNat_le]
    exact Nat.le_of_lt_succ hlt
  rw [escapeChar, if_neg (not_or.mpr ⟨hne _ (by decide), hne _ (by decide)⟩),
    if_neg (hne _ (by decide)), if_neg (hne _ (by decide)), if_neg (hne _ (by decide))]
  exact Interpreter.scanString_control hcontrol rest

/-- An escaped text is read back. -/
theorem scanString_escapeText {text : Text} (h : ∀ ch ∈ text, Readable ch) (rest : Text) :
    interpreter.scanString (escapeText text ++ '"' :: rest) = .ok (text, rest) := by
  induction text with
  | nil => exact Interpreter.scanString_quote rest
  | cons ch text ih =>
      have hescape : escapeText (ch :: text) = escapeChar ch ++ escapeText text := rfl
      rw [hescape, List.append_assoc, scanString_escapeChar (h ch List.mem_cons_self),
        ih fun c hc => h c (List.mem_cons_of_mem _ hc)]
      rfl

/-- Where a text is not read, an escaped text in front of it is not read either; nor is one
that has another control character. -/
theorem scanString_fault {text rest : Text}
    (h : interpreter.scanString rest = .error .decodeError ∨ ∃ ch ∈ text, ¬Readable ch) :
    interpreter.scanString (escapeText text ++ rest) = .error .decodeError := by
  induction text with
  | nil =>
      rcases h with h | ⟨ch, hch, -⟩
      · exact h
      · cases hch
  | cons ch text ih =>
      have hescape : escapeText (ch :: text) = escapeChar ch ++ escapeText text := rfl
      rw [hescape, List.append_assoc]
      by_cases hch : Readable ch
      · rw [scanString_escapeChar hch, ih]
        · rfl
        · rcases h with h | ⟨other, hother, hcontrol⟩
          · exact Or.inl h
          · rcases List.mem_cons.mp hother with rfl | hother
            · exact absurd hch hcontrol
            · exact Or.inr ⟨other, hother, hcontrol⟩
      · exact scanString_unreadable hch _

/-! ## Lines that are read -/

/-- The line begins with the name of the event and the key of the payload. -/
theorem recvFront_eq (rest : Text) :
    recvFront ++ rest = '{' :: Interpreter.memberText "event".toList
      ('"' :: ("recv".toList ++ ['"']) ++ ',' ::
        Interpreter.memberText "payload".toList ('"' :: rest)) := by
  rfl

/-- The string that is the value of `event`. -/
theorem shows_recv : interpreter.Shows (.str "recv".toList) ('"' :: ("recv".toList ++ ['"'])) :=
  Interpreter.shows_string fun rest => Interpreter.scanString_literal (by decide) rest

/-- What is read from a line. -/
def recvRead (payload : Text) (stream ppid assocId : Nat) : Event :=
  [("event".toList, .str "recv".toList), ("payload".toList, .str payload),
    ("stream".toList, .int stream), ("ppid".toList, .int ppid), ("assoc_id".toList, .int assocId)]

/-- The line ends with three numbers under their keys. -/
theorem recvBack_eq (stream ppid assocId : Nat) :
    recvBack stream ppid assocId = ',' :: Interpreter.memberText "stream".toList
      (unsigned stream ++ ',' :: Interpreter.memberText "ppid".toList
        (unsigned ppid ++ ',' :: Interpreter.memberText "assoc_id".toList
          (unsigned assocId ++ ['}']))) := by
  unfold recvBack
  simp only [List.append_assoc]
  rfl

/-- A line whose payload is readable is read as an event. -/
theorem loads_recvText {payload : Text} (h : ∀ ch ∈ payload, Readable ch)
    {stream ppid assocId : Nat} (hstream : (unsigned stream).length ≤ 640)
    (hppid : (unsigned ppid).length ≤ 640) (hassoc : (unsigned assocId).length ≤ 640) :
    interpreter.loads (recvText payload stream ppid assocId) =
      .value (.dict (recvRead payload stream ppid assocId)) := by
  have hpayload : interpreter.Shows (.str payload) ('"' :: (escapeText payload ++ ['"'])) :=
    Interpreter.shows_string fun rest => scanString_escapeText h rest
  have hnumber : ∀ n, (unsigned n).length ≤ 640 → interpreter.Shows (.int n) (unsigned n) :=
    fun n hn => Interpreter.shows_natural hn
  have htext : recvText payload stream ppid assocId = recvFront ++
      (escapeText payload ++ ['"'] ++ recvBack stream ppid assocId) := by
    simp [recvText]
  obtain ⟨fuel, hdecode⟩ := interpreter.decode_object
    "event".toList ('"' :: ("recv".toList ++ ['"']) ++ ',' ::
      Interpreter.memberText "payload".toList
        ('"' :: (escapeText payload ++ ['"']) ++ recvBack stream ppid assocId))
  rw [Interpreter.scanMembers_more (by decide) shows_recv, recvBack_eq,
    Interpreter.scanMembers_more (by decide) hpayload,
    Interpreter.scanMembers_more (by decide) (hnumber stream hstream),
    Interpreter.scanMembers_more (by decide) (hnumber ppid hppid),
    Interpreter.scanMembers_last (by decide) (hnumber assocId hassoc), ← recvBack_eq] at hdecode
  rw [htext, recvFront_eq, Interpreter.loads]
  simp only [List.cons_append] at hdecode ⊢
  rw [hdecode]
  rfl

/-- A line is not read if its payload is not. -/
theorem loads_recvFront {rest : Text}
    (h : interpreter.scanString rest = .error .decodeError) :
    interpreter.loads (recvFront ++ rest) = .jsonDecodeError := by
  obtain ⟨fuel, hdecode⟩ := interpreter.decode_object
    "event".toList ('"' :: ("recv".toList ++ ['"']) ++ ',' ::
      Interpreter.memberText "payload".toList ('"' :: rest))
  rw [Interpreter.scanMembers_more (by decide) shows_recv,
    Interpreter.scanMembers_faulty (by decide) h] at hdecode
  rw [recvFront_eq, Interpreter.loads, hdecode]
  rfl

/-! ## Pieces that are not read -/

/-- A quote of the payload is printed behind a backslash. -/
theorem escapeChar_quote {ch : Char} {front rest : Text}
    (h : escapeChar ch = front ++ '"' :: rest) : '\\' ∈ front := by
  have hmem : '"' ∈ escapeChar ch := by
    rw [h]
    exact List.mem_append_right _ List.mem_cons_self
  by_cases hspecial : ch = '\\' ∨ ch = '"'
  · rw [escapeChar, if_pos hspecial] at h
    cases front with
    | nil => cases h
    | cons first front =>
        obtain ⟨rfl, -⟩ := List.cons.inj h
        exact List.mem_cons_self
  · rw [escapeChar, if_neg hspecial] at hmem
    have hne : '"' ≠ ch := fun heq => hspecial (Or.inr heq.symm)
    split at hmem
    · exact absurd hmem (by decide)
    · split at hmem
      · exact absurd hmem (by decide)
      · split at hmem
        · exact absurd hmem (by decide)
        · exact absurd (List.mem_singleton.mp hmem) hne

/-- Every quote in an escaped text stands behind a backslash. -/
theorem escapeText_quote {text front rest : Text} (h : escapeText text = front ++ '"' :: rest) :
    '\\' ∈ front := by
  induction text generalizing front with
  | nil =>
      have hlength := congrArg List.length h
      simp [escapeText] at hlength
  | cons ch text ih =>
      have hescape : escapeText (ch :: text) = escapeChar ch ++ escapeText text := rfl
      rw [hescape, List.append_eq_append_iff] at h
      rcases h with ⟨behind, rfl, hbehind⟩ | ⟨inside, hinside, hrest⟩
      · exact List.mem_append_right _ (ih hbehind)
      · cases inside with
        | nil =>
            have hnone : '\\' ∈ ([] : Text) := ih hrest.symm
            cases hnone
        | cons c inside =>
            obtain rfl : c = '"' := (List.cons.inj hrest).1.symm
            exact escapeChar_quote hinside

variable (interpreter)

/-- From the piece no object with members is read. -/
def Mute (piece : Text) : Prop :=
  ∀ event, interpreter.loads piece = .value (.dict event) → event = []

variable {interpreter}

/-- What is read as an object with members begins with a key; nothing in front of its quote
is a backslash or another quote. -/
theorem exists_key_of_not_mute {piece : Text} (h : ¬Mute interpreter piece) :
    ∃ front keyText key behind value, piece = front ++ '"' :: keyText ∧
      '\\' ∉ front ∧ '"' ∉ front ∧ interpreter.scanString keyText = .ok (key, behind) ∧
      skipWhitespace behind = ':' :: value := by
  unfold Mute at h
  push Not at h
  obtain ⟨event, hloads, hne⟩ := h
  obtain ⟨inner, keyText, key, behind, value, hbrace, hquote, hkey, hcolon⟩ :=
    Interpreter.loads_dict hloads hne
  obtain ⟨spaces, hspaces, hpiece⟩ := exists_skipWhitespace piece
  obtain ⟨spaces', hspaces', hinner⟩ := exists_skipWhitespace inner
  rw [hbrace] at hpiece
  rw [hquote] at hinner
  have hfront : ∀ ch : Char, isWhitespace ch = false → ch ≠ '\x7b' →
      ch ∉ spaces ++ '\x7b' :: spaces' := by
    intro ch hch hne hmem
    rcases List.mem_append.mp hmem with hmem | hmem
    · rw [hspaces ch hmem] at hch
      cases hch
    · rcases List.mem_cons.mp hmem with rfl | hmem
      · exact hne rfl
      · rw [hspaces' ch hmem] at hch
        cases hch
  refine ⟨spaces ++ '\x7b' :: spaces', keyText, key, behind, value, ?_,
    hfront _ (by decide) (by decide), hfront _ (by decide) (by decide), hkey, hcolon⟩
  rw [hpiece, hinner, List.append_assoc, List.cons_append]

/-- No object with members is read from an escaped payload. -/
theorem mute_escapeText (text : Text) : Mute interpreter (escapeText text) := by
  by_contra h
  obtain ⟨front, keyText, -, -, -, hpiece, hbackslash, -⟩ := exists_key_of_not_mute h
  exact hbackslash (escapeText_quote hpiece)

/-- The end of a line is not read: its first key would be a comma, without a colon. -/
theorem mute_end (text : Text) (stream ppid assocId : Nat) :
    Mute interpreter (escapeText text ++ '"' :: recvBack stream ppid assocId) := by
  by_contra h
  obtain ⟨front, keyText, key, behind, value, hpiece, hbackslash, hquote, hkey, hcolon⟩ :=
    exists_key_of_not_mute h
  have hback : keyText = recvBack stream ppid assocId := by
    rcases List.append_eq_append_iff.mp hpiece with ⟨inside, rfl, hrest⟩ | ⟨inside, hinside, hrest⟩
    · cases inside with
      | nil => exact (List.cons.inj hrest).2.symm
      | cons c inside =>
          obtain ⟨rfl, -⟩ := List.cons.inj hrest
          exact absurd (by simp) hquote
    · cases inside with
      | nil => exact (List.cons.inj hrest).2
      | cons c inside =>
          obtain ⟨rfl, -⟩ := List.cons.inj hrest
          exact absurd (escapeText_quote hinside) hbackslash
  have hcomma : recvBack stream ppid assocId = [','] ++ '"' :: ("stream".toList ++ '"' :: ':' ::
      (unsigned stream ++ ',' :: Interpreter.memberText "ppid".toList
        (unsigned ppid ++ ',' :: Interpreter.memberText "assoc_id".toList
          (unsigned assocId ++ ['\x7d'])))) := by
    rw [recvBack_eq]
    rfl
  rw [hback, hcomma, Interpreter.scanString_literal (by decide)] at hkey
  cases hkey
  cases hcolon

/-- The rest of a line behind one of the other boundaries is not read, nor is any piece of
it. -/
theorem pieces_mute (interpreter : Interpreter) (text front rest : Text) (stream ppid assocId : Nat) :
    ∃ pieces, splitlinesFrom (escapeText front)
        (escapeText text ++ '"' :: recvBack stream ppid assocId ++ '\n' :: rest) =
          pieces ++ splitlinesFrom [] rest ∧
      ∀ piece ∈ pieces, Mute interpreter piece := by
  induction text generalizing front with
  | nil =>
      have hback : ∀ ch ∈ '"' :: recvBack stream ppid assocId, isLineBoundary ch = false :=
        List.forall_mem_cons.mpr ⟨by decide, recvBack_boundary⟩
      refine ⟨[escapeText front ++ '"' :: recvBack stream ppid assocId],
        splitlinesFrom_whole hback _ _, ?_⟩
      intro piece hpiece
      rw [List.mem_singleton.mp hpiece]
      exact mute_end front stream ppid assocId
  | cons ch text ih =>
      have hescape : escapeText (ch :: text) = escapeChar ch ++ escapeText text := rfl
      by_cases hcuts : Cuts ch
      · obtain ⟨pieces, hpieces, hmute⟩ := ih []
        refine ⟨escapeText front :: pieces, ?_, ?_⟩
        · rw [hescape, escapeChar_of_cuts hcuts, List.singleton_append, List.cons_append,
            List.cons_append, splitlinesFrom_boundary hcuts.1 hcuts.2.2, List.cons_append]
          exact congrArg _ hpieces
        · exact List.forall_mem_cons.mpr ⟨mute_escapeText front, hmute⟩
      · obtain ⟨pieces, hpieces, hmute⟩ := ih (front ++ [ch])
        refine ⟨pieces, ?_, hmute⟩
        have hfront : escapeText front ++ escapeChar ch = escapeText (front ++ [ch]) := by
          simp [escapeText]
        rw [hescape, List.append_assoc, List.append_assoc,
          splitlinesFrom_append (escapeChar_boundary hcuts), hfront, ← List.append_assoc, hpieces]

/-- The pieces of a line are the line itself if its payload is carried, and otherwise none of
them is read. -/
theorem recvText_pieces (interpreter : Interpreter) (payload rest : Text) (stream ppid assocId : Nat) :
    ∃ pieces, splitlinesFrom [] (recvText payload stream ppid assocId ++ '\n' :: rest) =
        pieces ++ splitlinesFrom [] rest ∧
      ((∀ ch ∈ payload, Carried ch) → pieces = [recvText payload stream ppid assocId]) ∧
      ((∃ ch ∈ payload, ¬Carried ch) → ∀ piece ∈ pieces, Mute interpreter piece) := by
  cases hcut : payload.find? fun ch => decide (Cuts ch) with
  | none =>
      have huncut : ∀ ch ∈ payload, ¬Cuts ch := by
        intro ch hch
        simpa using List.find?_eq_none.mp hcut ch hch
      have hline : ∀ ch ∈ recvText payload stream ppid assocId, isLineBoundary ch = false := by
        intro ch hch
        rcases List.mem_append.mp hch with hch | hch
        · rcases List.mem_append.mp hch with hch | hch
          · exact recvFront_boundary ch hch
          · exact escapeText_boundary huncut ch hch
        · rcases List.mem_cons.mp hch with rfl | hch
          · decide
          · exact recvBack_boundary ch hch
      refine ⟨[recvText payload stream ppid assocId], splitlinesFrom_whole hline [] rest,
        fun _ => rfl, ?_⟩
      rintro ⟨ch, hch, hnot⟩ piece hpiece event hloads
      have hunreadable : ¬Readable ch := fun h => hnot ((carried_iff ch).mpr ⟨h, huncut ch hch⟩)
      rw [List.mem_singleton.mp hpiece, recvText, List.append_assoc, loads_recvFront] at hloads
      · cases hloads
      · exact scanString_fault (Or.inr ⟨ch, hch, hunreadable⟩)
  | some ch =>
      obtain ⟨hch, front, text, rfl, hfront⟩ := List.find?_eq_some_iff_append.mp hcut
      have hcuts : Cuts ch := of_decide_eq_true hch
      have huncut : ∀ c ∈ front, ¬Cuts c := by
        intro c hc
        simpa using hfront c hc
      obtain ⟨pieces, hpieces, hmute⟩ :=
        pieces_mute interpreter text [] rest stream ppid assocId
      refine ⟨(recvFront ++ escapeText front) :: pieces, ?_, ?_, ?_⟩
      · have hfirst : ∀ c ∈ recvFront ++ escapeText front, isLineBoundary c = false :=
          List.forall_mem_append.mpr ⟨recvFront_boundary, escapeText_boundary huncut⟩
        have hescape : escapeText (front ++ ch :: text) =
            escapeText front ++ ch :: escapeText text := by
          have hone := escapeChar_of_cuts hcuts
          simp [escapeText, hone]
        have hline : recvText (front ++ ch :: text) stream ppid assocId ++ '\n' :: rest =
            (recvFront ++ escapeText front) ++ ch :: (escapeText text ++
              '"' :: recvBack stream ppid assocId ++ '\n' :: rest) := by
          rw [recvText, hescape]
          simp only [List.append_assoc, List.cons_append]
        rw [hline, splitlinesFrom_append hfirst, List.nil_append,
          splitlinesFrom_boundary hcuts.1 hcuts.2.2, List.cons_append]
        exact congrArg _ hpieces
      · intro hcarried
        have := (carried_iff ch).mp (hcarried ch (by simp))
        exact absurd hcuts this.2
      · rintro -
        refine List.forall_mem_cons.mpr ⟨?_, hmute⟩
        intro event hloads
        have hfault : interpreter.scanString (escapeText front ++ []) = .error .decodeError :=
          scanString_fault (Or.inl Interpreter.scanString_nil)
        rw [List.append_nil] at hfault
        rw [loads_recvFront hfault] at hloads
        cases hloads

end Reading

/-! ## What is reported -/

/-- The output of the helper as a text. -/
def outputText (sent : List RecvEvent) : Text :=
  sent.flatMap fun event => event.line ++ ['\n']

/-- Without carriage returns a text stays as it is. -/
theorem universalNewlines_eq {text : Text} (h : '\r' ∉ text) : universalNewlines text = text := by
  induction text with
  | nil => rfl
  | cons ch text ih =>
      rw [List.mem_cons, not_or] at h
      have hcr : ch ≠ '\r' := fun heq => h.1 heq.symm
      rw [universalNewlines.eq_4 _ _ (fun _ heq _ => hcr heq) hcr, ih h.2]

/-- A line has no carriage returns. -/
theorem recvText_return (payload : Text) (stream ppid assocId : Nat) :
    '\r' ∉ recvText payload stream ppid assocId := by
  have hboundary : ∀ {text : Text}, (∀ ch ∈ text, isLineBoundary ch = false) → '\r' ∉ text :=
    fun htext hmem => absurd (htext _ hmem) (by decide)
  intro hmem
  rcases List.mem_append.mp hmem with hmem | hmem
  · rcases List.mem_append.mp hmem with hmem | hmem
    · exact hboundary recvFront_boundary hmem
    · exact escapeText_newline payload hmem
  · rcases List.mem_cons.mp hmem with heq | hmem
    · exact absurd heq (by decide)
    · exact hboundary recvBack_boundary hmem

/-- The runner gets the printed lines. -/
theorem capturedText_helperOutput (sent : List RecvEvent) :
    capturedText (helperOutput sent) = some (outputText sent) := by
  have hbytes : helperOutput sent = encodeUtf8 (outputText sent) := by
    induction sent with
    | nil => rfl
    | cons event sent ih =>
        have houtput : helperOutput (event :: sent) = event.emit ++ helperOutput sent := rfl
        have htext : outputText (event :: sent) = event.line ++ ['\n'] ++ outputText sent := rfl
        rw [houtput, htext, encodeUtf8_append, ih, emitRecv_text]
  have hreturn : '\r' ∉ outputText sent := by
    intro hmem
    obtain ⟨event, -, hline⟩ := List.mem_flatMap.mp hmem
    rcases List.mem_append.mp hline with hline | hline
    · exact recvText_return _ _ _ _ hline
    · exact absurd hline (by decide)
  rw [capturedText, hbytes, decodeUtf8_encodeUtf8, Option.map_some, universalNewlines_eq hreturn]

section Reported

variable {interpreter : Interpreter}

/-- What is read for an event whose payload is carried. -/
def RecvEvent.read (event : RecvEvent) : Event :=
  recvRead event.text event.stream.toNat event.ppid.toNat event.assocId.toNat

/-- The value of the line has the fields of the event. -/
theorem RecvEvent.readAs_read (event : RecvEvent) : event.ReadAs event.read where
  name := rfl
  payload := ⟨event.text, event.payload_text.1, rfl⟩
  stream := rfl
  ppid := rfl

/-- A number of the code has fewer digits than Python's limit. -/
theorem unsigned_length {n : Nat} (hn : n < 2 ^ 32) : (unsigned n).length ≤ 640 := by
  have hten : (unsigned n).length ≤ 10 :=
    (Nat.length_toDigits_le_iff (by decide) (by decide)).mpr (Nat.lt_trans hn (by decide))
  omega

/-- The parser reads the line of an event that comes through. -/
theorem loads_line {event : RecvEvent} (h : event.Carried) :
    interpreter.loads event.line = .value (.dict event.read) := by
  have hstream := event.stream.toNat_lt
  refine loads_recvText (fun ch hch => ((carried_iff ch).mp (h ch hch)).1) ?_ ?_ ?_
  · exact unsigned_length (by omega)
  · exact unsigned_length event.ppid.toNat_lt
  · exact unsigned_length event.assocId.toNat_lt

/-- The first line that was printed, in the pieces that `extract_events` looks at. -/
theorem outputText_cons (interpreter : Interpreter) (event : RecvEvent) (sent : List RecvEvent) :
    ∃ pieces, splitlines (outputText (event :: sent)) = pieces ++ splitlines (outputText sent) ∧
      (event.Carried → pieces = [event.line]) ∧
      (¬event.Carried → ∀ piece ∈ pieces, Mute interpreter piece) := by
  obtain ⟨pieces, hpieces, hcarried, hmute⟩ := recvText_pieces interpreter
    event.text (outputText sent) event.stream.toNat event.ppid.toNat event.assocId.toNat
  refine ⟨pieces, ?_, hcarried, ?_⟩
  · have htext : outputText (event :: sent) = event.line ++ '\n' :: outputText sent := by
      simp [outputText]
    rw [splitlines, htext]
    exact hpieces
  · intro hnot
    unfold RecvEvent.Carried at hnot
    push Not at hnot
    exact hmute hnot

/-- If all payloads are carried, the lines are read one by one. -/
theorem splitlines_outputText {sent : List RecvEvent} (h : ∀ event ∈ sent, event.Carried) :
    splitlines (outputText sent) = sent.map RecvEvent.line := by
  induction sent with
  | nil => rfl
  | cons event sent ih =>
      obtain ⟨pieces, hpieces, hcarried, -⟩ :=
        outputText_cons sampleInterpreter event sent
      rw [hpieces, hcarried (h event List.mem_cons_self),
        ih fun e he => h e (List.mem_cons_of_mem _ he)]
      rfl

/-- A carried line is one event. -/
theorem eventOf_line {event : RecvEvent} (h : event.Carried) :
    eventOf interpreter.python event.line = [event.read] := by
  rw [eventOf, Interpreter.python_loads, loads_line h]

/-- Such a line does not stop the reader. -/
theorem not_raises_line {event : RecvEvent} (h : event.Carried) :
    ¬Raises interpreter.python event.line := by
  rintro ⟨exception, hraises⟩
  rw [Interpreter.python_loads, loads_line h] at hraises
  cases hraises

/-- Events that come through are all reported. -/
theorem reported_of_carried {sent : List RecvEvent} (h : ∀ event ∈ sent, event.Carried) :
    AllReported interpreter sent := by
  have hevents : extractEvents interpreter.python (outputText sent) =
      .ok (sent.map RecvEvent.read) := by
    unfold extractEvents
    rw [splitlines_outputText h, eventsOfLines_eq_ok]
    constructor
    · intro line hline
      obtain ⟨event, hevent, rfl⟩ := List.mem_map.mp hline
      exact not_raises_line (h event hevent)
    · rw [List.flatMap_map, List.flatMap_congr fun event hevent => eventOf_line (h event hevent)]
      exact List.map_eq_flatMap
  refine ⟨outputText sent, sent.map RecvEvent.read, capturedText_helperOutput sent, hevents, ?_⟩
  rw [List.forall₂_map_right_iff]
  exact List.forall₂_same.mpr fun event _ => event.readAs_read

/-- Of the events that are read, as many have members as payloads are carried. -/
theorem countP_events (sent : List RecvEvent) :
    ((splitlines (outputText sent)).flatMap (eventOf interpreter.python)).countP
        (fun event => !event.isEmpty) = sent.countP fun event => event.Carried := by
  induction sent with
  | nil => rfl
  | cons event sent ih =>
      obtain ⟨pieces, hpieces, hcarried, hmute⟩ :=
        outputText_cons interpreter event sent
      rw [hpieces, List.flatMap_append, List.countP_append, ih, List.countP_cons]
      by_cases h : event.Carried
      · rw [hcarried h, List.flatMap_singleton, eventOf_line h]
        simp [h, RecvEvent.read, recvRead, Nat.add_comm]
      · have hnone : ((pieces.flatMap (eventOf interpreter.python)).countP
            fun event => !event.isEmpty) = 0 := by
          rw [List.countP_eq_zero]
          intro found hfound
          obtain ⟨piece, hpiece, hmem⟩ := List.mem_flatMap.mp hfound
          unfold eventOf at hmem
          split at hmem
          · rename_i event' hloads
            obtain rfl := List.mem_singleton.mp hmem
            rw [hmute h piece hpiece found hloads]
            simp
          · cases hmem
        rw [hnone]
        simp [h]

/-- Events that are all reported have come through. -/
theorem carried_of_reported {sent : List RecvEvent} (h : AllReported interpreter sent) :
    ∀ event ∈ sent, event.Carried := by
  obtain ⟨output, events, houtput, hevents, hread⟩ := h
  rw [capturedText_helperOutput, Option.some.injEq] at houtput
  subst houtput
  obtain ⟨-, rfl⟩ := (eventsOfLines_eq_ok interpreter.python).mp hevents
  have hall : ∀ {sent : List RecvEvent} {events : List Event},
      List.Forall₂ RecvEvent.ReadAs sent events →
      events.countP (fun event => !event.isEmpty) = sent.length := by
    intro sent events hread
    induction hread with
    | nil => rfl
    | @cons event found sent events hfirst _ ih =>
        have hne : found ≠ [] := by
          rintro rfl
          cases hfirst.name
        rw [List.countP_cons_of_pos (by simpa using hne), ih, List.length_cons]
  have hcount := hall hread
  rw [countP_events, List.countP_eq_length] at hcount
  intro event hevent
  exact of_decide_eq_true (hcount event hevent)

/-- Every message is reported, once, in order and as it was received, if and only if all
characters of all payloads come through. -/
theorem recv_reported_iff (interpreter : Interpreter) (sent : List RecvEvent) :
    AllReported interpreter sent ↔ ∀ event ∈ sent, event.Carried :=
  ⟨carried_of_reported, reported_of_carried⟩

end Reported

/-- A message of one byte, a control character. -/
def controlMessage : RecvEvent where
  payload := [1]
  stream := 0
  ppid := 0
  assocId := 7
  payload_utf8 := isUtf8_ascii (by decide)
  payload_nul := by decide
  payload_length := by decide

/-- The line of this message is no event. -/
theorem control_not_reported :
    ¬∀ (interpreter : Interpreter) (sent : List RecvEvent), AllReported interpreter sent := by
  intro hclaim
  have hcarried := carried_of_reported (hclaim sampleInterpreter [controlMessage]) controlMessage
    List.mem_cons_self
  have htext : controlMessage.text = ['\x01'] := by
    have hpayload : controlMessage.payload = encodeUtf8 ['\x01'] := by decide
    rw [RecvEvent.text, hpayload, decodeUtf8_encodeUtf8]
    rfl
  unfold RecvEvent.Carried at hcarried
  rw [htext] at hcarried
  exact absurd (hcarried '\x01' List.mem_cons_self) (by decide)

end SctpConformance.Runner
