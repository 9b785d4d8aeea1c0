import SctpConformance.Runner.JsonWritten
import SctpConformance.Runner.HelperOutput
import SctpConformance.Helpers.ClientMessages

/-!
# The events of the C helper

What the `emit_` functions of `adapters/freebsd_c/helper.c` print, and what the runner reads
from it.

Main results:

- Definition `HelperEvent.print`: the line that is printed for an event.
- Theorem `loads_line`: the line is loaded as the event.
- Theorem `extractEvents_printed`: from the whole output all events are read, in their order.
-/

namespace SctpConformance.FreebsdHelper

open Library
open Runner (Interpreter Readable Text Value capturedText decodeUtf8 decodeUtf8_encodeUtf8
  encodeUtf8 encodeUtf8_append escapeByte escapeText encodeUtf8_escapeText extractEvents
  isLineBoundary joinTexts splitlines unsigned)

/-! ## The events -/

/-- What `emit_complete` says that it counts. -/
inductive CountField where
  | recvCount
  | sentCount
deriving DecidableEq

/-- The name of the count. -/
def CountField.name : CountField → String
  | .recvCount => "recv_count"
  | .sentCount => "sent_count"

/-- A call of one of the `emit_` functions. -/
inductive HelperEvent where
  | ready (localAddrs : List CppString)
  | addrs (event : CppString) (addrs : List CppString)
  | recv (payload : CppString) (stream : UInt16) (ppid assocId : UInt32)
  | sent (payload : CppString) (stream : UInt16) (ppid : UInt32)
  | notify (type : UInt16) (flags : Int32)
  | expectedFailure (stage message : CppString)
  | complete (count : Int32) (field : CountField)
  | error (message : CppString)
deriving DecidableEq

/-- The loop that prints addresses with commas between them. -/
def printAddrs : List CppString → CppString
  | [] => []
  | [addr] => Runner.jsonEscape addr
  | addr :: rest => Runner.jsonEscape addr ++ str "," ++ printAddrs rest

/-- The conversion `%d`. -/
def signed (n : Int) : CppString :=
  encodeUtf8 (Interpreter.signed n)

/-- `emit_ready` -/
def emitReady (addrs : List CppString) : CppString :=
  str "\x7b\"event\":\"ready\",\"local_addrs\":[" ++ printAddrs addrs ++ str "]\x7d\n"

/-- `emit_addrs` -/
def emitAddrs (event : CppString) (addrs : List CppString) : CppString :=
  str "\x7b\"event\":" ++ Runner.jsonEscape event ++ str ",\"addrs\":[" ++ printAddrs addrs ++
    str "]\x7d\n"

/-- `emit_sent` -/
def emitSent (payload : CppString) (stream : UInt16) (ppid : UInt32) : CppString :=
  str "\x7b\"event\":\"sent\",\"payload\":" ++ Runner.jsonEscape payload ++ str ",\"stream\":" ++
    encodeUtf8 (unsigned stream.toNat) ++ str ",\"ppid\":" ++ encodeUtf8 (unsigned ppid.toNat) ++
    str "\x7d\n"

/-- `emit_notify` -/
def emitNotify (type : UInt16) (flags : Int32) : CppString :=
  str "\x7b\"event\":\"notify\",\"type\":" ++ encodeUtf8 (unsigned type.toNat) ++ str ",\"flags\":" ++
    signed flags.toInt ++ str "\x7d\n"

/-- `emit_expected_failure` -/
def emitExpectedFailure (stage message : CppString) : CppString :=
  str "\x7b\"event\":\"expected_failure\",\"stage\":" ++ Runner.jsonEscape stage ++
    str ",\"message\":" ++ Runner.jsonEscape message ++ str "\x7d\n"

/-- `emit_complete` -/
def emitComplete (count : Int32) (field : CppString) : CppString :=
  str "\x7b\"event\":\"complete\",\"" ++ field ++ str "\":" ++ signed count.toInt ++ str "\x7d\n"

/-- `emit_error` -/
def emitError (message : CppString) : CppString :=
  str "\x7b\"event\":\"error\",\"message\":" ++ Runner.jsonEscape message ++ str "\x7d\n"

/-- What is printed for an event. -/
def HelperEvent.print : HelperEvent → CppString
  | .ready localAddrs => emitReady localAddrs
  | .addrs event list => emitAddrs event list
  | .recv payload stream ppid assocId => Runner.emitRecv payload stream ppid assocId
  | .sent payload stream ppid => emitSent payload stream ppid
  | .notify type flags => emitNotify type flags
  | .expectedFailure stage message => emitExpectedFailure stage message
  | .complete count field => emitComplete count (str field.name)
  | .error message => emitError message

/-! ## Members -/

/-- The value of a member, as it is printed. -/
inductive Field where
  | text (value : CppString)
  | number (value : Int)
  | texts (values : List CppString)

/-- The members of the object that is printed for an event. -/
def HelperEvent.members : HelperEvent → List (String × Field)
  | .ready localAddrs => [("event", .text (str "ready")), ("local_addrs", .texts localAddrs)]
  | .addrs event list => [("event", .text event), ("addrs", .texts list)]
  | .recv payload stream ppid assocId => [("event", .text (str "recv")), ("payload", .text payload),
      ("stream", .number stream.toNat), ("ppid", .number ppid.toNat),
      ("assoc_id", .number assocId.toNat)]
  | .sent payload stream ppid => [("event", .text (str "sent")), ("payload", .text payload),
      ("stream", .number stream.toNat), ("ppid", .number ppid.toNat)]
  | .notify type flags => [("event", .text (str "notify")), ("type", .number type.toNat),
      ("flags", .number flags.toInt)]
  | .expectedFailure stage message => [("event", .text (str "expected_failure")),
      ("stage", .text stage), ("message", .text message)]
  | .complete count field => [("event", .text (str "complete")),
      (field.name, .number count.toInt)]
  | .error message => [("event", .text (str "error")), ("message", .text message)]

/-- A C string as a text. -/
def cText (value : CppString) : Text :=
  (decodeUtf8 (value.takeWhile (· ≠ 0))).getD []

/-- The strings in a value. -/
def Field.strings : Field → List CppString
  | .text value => [value]
  | .number _ => []
  | .texts values => values

/-- The printed value, as a text. -/
def Field.shown : Field → Text
  | .text value => '"' :: (escapeText (cText value) ++ ['"'])
  | .number value => Interpreter.signed value
  | .texts values => '[' ::
      (",".toList.intercalate (values.map fun value => '"' :: (escapeText (cText value) ++ ['"'])) ++
        [']'])

/-- What is read from it. -/
def Field.read : Field → Value
  | .text value => .str (cText value)
  | .number value => .int value
  | .texts values => .list (values.map fun value => .str (cText value))

/-- The text of an object with these members, without blanks. -/
def objectText (members : List (String × Field)) : Text :=
  '{' :: (",".toList.intercalate (members.map fun member =>
    '"' :: (member.1.toList ++ '"' :: ':' :: member.2.shown)) ++ ['}'])

/-- The line that is printed for an event. -/
def HelperEvent.line (event : HelperEvent) : Text :=
  objectText event.members

/-- The event that is read. -/
def HelperEvent.read (event : HelperEvent) : Runner.Event :=
  event.members.map fun member => (member.1.toList, member.2.read)

/-- A C string of which all characters come through. -/
def CarriedString (value : CppString) : Prop :=
  IsUtf8 (value.takeWhile (· ≠ 0)) ∧ ∀ ch ∈ cText value, Runner.Carried ch

/-- All texts of the event come through. -/
def HelperEvent.Carried (event : HelperEvent) : Prop :=
  ∀ member ∈ event.members, ∀ value ∈ member.2.strings, CarriedString value

/-! ## The printed bytes -/

/-- A literal is encoded in UTF-8. -/
theorem str_eq_encodeUtf8 (literal : String) : str literal = encodeUtf8 literal.toList := by
  have h := str_ofList literal.toList
  rwa [String.ofList_toList] at h

/-- The text of a C string in UTF-8. -/
theorem encodeUtf8_cText {value : CppString} (h : IsUtf8 (value.takeWhile (· ≠ 0))) :
    encodeUtf8 (cText value) = value.takeWhile (· ≠ 0) := by
  obtain ⟨text, htext⟩ := h
  have hbytes : value.takeWhile (· ≠ 0) = encodeUtf8 text := htext.symm
  rw [cText, hbytes, decodeUtf8_encodeUtf8]
  rfl

/-- A string is escaped up to its first NUL. -/
theorem jsonEscape_eq {value : CppString} (h : IsUtf8 (value.takeWhile (· ≠ 0))) :
    Runner.jsonEscape value = encodeUtf8 ('"' :: (escapeText (cText value) ++ ['"'])) := by
  have hquote : encodeUtf8 ['"'] = [34] := by decide
  rw [← List.singleton_append, encodeUtf8_append, encodeUtf8_append, encodeUtf8_escapeText,
    encodeUtf8_cText h, hquote, Runner.jsonEscape, List.append_assoc]

/-- A text without NUL is encoded without one. -/
theorem takeWhile_encodeUtf8 {text : Text} (h : '\x00' ∉ text) :
    (encodeUtf8 text).takeWhile (· ≠ 0) = encodeUtf8 text := by
  rw [List.takeWhile_eq_self_iff]
  intro b hb
  simp only [decide_eq_true_eq]
  rintro rfl
  obtain ⟨ch, hch, hzero⟩ := List.mem_flatMap.mp hb
  obtain rfl := Runner.eq_of_mem_utf8EncodeChar (by decide) hzero
  exact h hch

/-- The text of a C string that was encoded from this text. -/
theorem cText_encodeUtf8 {text : Text} (h : '\x00' ∉ text) : cText (encodeUtf8 text) = text := by
  rw [cText, takeWhile_encodeUtf8 h, decodeUtf8_encodeUtf8]
  rfl

/-- A text of characters that come through comes through. -/
theorem carriedString_encodeUtf8 {text : Text} (h : '\x00' ∉ text)
    (hcarried : ∀ ch ∈ text, Runner.Carried ch) : CarriedString (encodeUtf8 text) := by
  refine ⟨?_, by rwa [cText_encodeUtf8 h]⟩
  rw [takeWhile_encodeUtf8 h]
  exact ⟨text, rfl⟩

/-- A literal without NUL is read as it stands. -/
theorem cText_str {literal : String} (h : '\x00' ∉ literal.toList) :
    cText (str literal) = literal.toList := by
  rw [str_eq_encodeUtf8, cText_encodeUtf8 h]

/-- So it comes through. -/
theorem carriedString_str {literal : String} (h : '\x00' ∉ literal.toList)
    (hcarried : ∀ ch ∈ literal.toList, Runner.Carried ch) : CarriedString (str literal) := by
  rw [str_eq_encodeUtf8]
  exact carriedString_encodeUtf8 h hcarried

/-- Addresses are printed as strings with commas between them. -/
theorem printAddrs_eq {values : List CppString}
    (h : ∀ value ∈ values, IsUtf8 (value.takeWhile (· ≠ 0))) :
    printAddrs values = encodeUtf8 (",".toList.intercalate
      (values.map fun value => '"' :: (escapeText (cText value) ++ ['"']))) := by
  induction values with
  | nil => rfl
  | cons value rest ih =>
      have hvalue := jsonEscape_eq (h value List.mem_cons_self)
      cases rest with
      | nil => rw [printAddrs, hvalue, List.map_cons, List.map_nil, List.intercalate_singleton]
      | cons value' rest =>
          have hcons : printAddrs (value :: value' :: rest) =
              Runner.jsonEscape value ++ str "," ++ printAddrs (value' :: rest) := rfl
          rw [hcons, hvalue, ih fun v hv => h v (List.mem_cons_of_mem _ hv), str_eq_encodeUtf8,
            ← encodeUtf8_append, ← encodeUtf8_append]
          simp only [List.map_cons, List.intercalate_cons_cons]

/-- A natural number has no sign. -/
theorem signed_natCast (n : Nat) : Interpreter.signed n = unsigned n := by
  simp [Interpreter.signed, unsigned]

/-- The bytes that are printed are those of the line. -/
theorem print_eq {event : HelperEvent} (h : event.Carried) :
    event.print = encodeUtf8 (event.line ++ ['\n']) := by
  have hname : ∀ literal ∈ ["ready", "recv", "sent", "notify", "expected_failure", "complete",
      "error"], escapeText (cText (str literal)) = literal.toList := by
    have hplain : ∀ literal ∈ ["ready", "recv", "sent", "notify", "expected_failure", "complete",
        "error"], '\x00' ∉ literal.toList ∧ escapeText literal.toList = literal.toList := by
      decide
    intro literal hliteral
    rw [cText_str (hplain literal hliteral).1, (hplain literal hliteral).2]
  cases event with
  | ready localAddrs =>
      have haddrs : printAddrs localAddrs = _ := printAddrs_eq fun value hvalue =>
        (h ("local_addrs", .texts localAddrs) (by simp [HelperEvent.members]) value hvalue).1
      rw [HelperEvent.print, emitReady, haddrs]
      simp only [str_eq_encodeUtf8, ← encodeUtf8_append]
      refine congrArg encodeUtf8 ?_
      simp [HelperEvent.line, objectText, HelperEvent.members, Field.shown, hname]
  | addrs name list =>
      have haddrs : printAddrs list = _ := printAddrs_eq fun value hvalue =>
        (h ("addrs", .texts list) (by simp [HelperEvent.members]) value hvalue).1
      have hevent := jsonEscape_eq (h ("event", .text name) (by simp [HelperEvent.members]) name
        (by simp [Field.strings])).1
      rw [HelperEvent.print, emitAddrs, haddrs, hevent]
      simp only [str_eq_encodeUtf8, ← encodeUtf8_append]
      refine congrArg encodeUtf8 ?_
      simp [HelperEvent.line, objectText, HelperEvent.members, Field.shown]
  | recv payload stream ppid assocId =>
      have hpayload := jsonEscape_eq (h ("payload", .text payload) (by simp [HelperEvent.members])
        payload (by simp [Field.strings])).1
      rw [HelperEvent.print, Runner.emitRecv, hpayload]
      simp only [← encodeUtf8_append]
      refine congrArg encodeUtf8 ?_
      simp [HelperEvent.line, objectText, HelperEvent.members, Field.shown, hname, signed_natCast]
  | sent payload stream ppid =>
      have hpayload := jsonEscape_eq (h ("payload", .text payload) (by simp [HelperEvent.members])
        payload (by simp [Field.strings])).1
      rw [HelperEvent.print, emitSent, hpayload]
      simp only [str_eq_encodeUtf8, ← encodeUtf8_append]
      refine congrArg encodeUtf8 ?_
      simp [HelperEvent.line, objectText, HelperEvent.members, Field.shown, hname, signed_natCast]
  | notify type flags =>
      rw [HelperEvent.print, emitNotify, signed]
      simp only [str_eq_encodeUtf8, ← encodeUtf8_append]
      refine congrArg encodeUtf8 ?_
      simp [HelperEvent.line, objectText, HelperEvent.members, Field.shown, hname, signed_natCast]
  | expectedFailure stage message =>
      have hstage := jsonEscape_eq (h ("stage", .text stage) (by simp [HelperEvent.members])
        stage (by simp [Field.strings])).1
      have hmessage := jsonEscape_eq (h ("message", .text message) (by simp [HelperEvent.members])
        message (by simp [Field.strings])).1
      rw [HelperEvent.print, emitExpectedFailure, hstage, hmessage]
      simp only [str_eq_encodeUtf8, ← encodeUtf8_append]
      refine congrArg encodeUtf8 ?_
      simp [HelperEvent.line, objectText, HelperEvent.members, Field.shown, hname]
  | complete count field =>
      rw [HelperEvent.print, emitComplete, signed]
      simp only [str_eq_encodeUtf8, ← encodeUtf8_append]
      refine congrArg encodeUtf8 ?_
      simp [HelperEvent.line, objectText, HelperEvent.members, Field.shown, hname]
  | error message =>
      have hmessage := jsonEscape_eq (h ("message", .text message) (by simp [HelperEvent.members])
        message (by simp [Field.strings])).1
      rw [HelperEvent.print, emitError, hmessage]
      simp only [str_eq_encodeUtf8, ← encodeUtf8_append]
      refine congrArg encodeUtf8 ?_
      simp [HelperEvent.line, objectText, HelperEvent.members, Field.shown, hname]

/-! ## Reading a line -/

section Reading

variable {interpreter : Interpreter}

/-- An escaped string is a string for the decoder. -/
theorem shows_cText {value : CppString} (h : CarriedString value) :
    interpreter.Shows (.str (cText value)) ('"' :: (escapeText (cText value) ++ ['"'])) :=
  Interpreter.shows_string fun rest => Runner.scanString_escapeText
    (fun ch hch => ((Runner.carried_iff ch).mp (h.2 ch hch)).1) rest

/-- Printed strings are an array of JSON. -/
theorem written_strings {values : List CppString} (h : ∀ value ∈ values, CarriedString value)
    (hne : values ≠ []) :
    interpreter.Written 0 (.items (values.map fun value => .str (cText value)))
      (",".toList.intercalate (values.map fun value => '"' :: (escapeText (cText value) ++ ['"'])) ++
        [']']) := by
  have hblank : Interpreter.Blank [] := by simp [Interpreter.Blank]
  induction values with
  | nil => exact absurd rfl hne
  | cons value rest ih =>
      have hvalue : interpreter.Written 0 (.value (.str (cText value))) _ :=
        .atom (shows_cText (h value List.mem_cons_self))
      cases rest with
      | nil =>
          have hlast := Interpreter.Written.lastItem hvalue hblank
          simpa using hlast
      | cons value' rest =>
          have hrest := ih (fun v hv => h v (List.mem_cons_of_mem _ hv)) (by simp)
          have hitem := Interpreter.Written.item hvalue hblank hblank hrest
          simpa using hitem

/-- Numbers that can be read whatever limit the interpreter has for their digits. -/
def Field.Short : Field → Prop
  | .number value => (Nat.toDigits 10 value.natAbs).length ≤ 640
  | _ => True

/-- A printed field is JSON for what is read. -/
theorem written_field {field : Field} (h : ∀ value ∈ field.strings, CarriedString value)
    (hshort : field.Short) : interpreter.Written 1 (.value field.read) field.shown := by
  have hblank : Interpreter.Blank [] := by simp [Interpreter.Blank]
  cases field with
  | text value => exact .atom (shows_cText (h value (by simp [Field.strings])))
  | number value => exact .atom (Interpreter.shows_signed hshort)
  | texts values =>
      cases values with
      | nil => exact .emptyList hblank
      | cons value rest =>
          have hitems : interpreter.Written 0
              (.items ((value :: rest).map fun value => .str (cText value))) _ :=
            written_strings h (List.cons_ne_nil value rest)
          have hlist := Interpreter.Written.list hblank hitems
          exact hlist

/-- A key is quoted as it stands. -/
theorem quotes_key {key : Text} (h : ∀ ch ∈ key, Interpreter.Plain ch) :
    interpreter.Quotes key key :=
  fun rest => Interpreter.scanString_literal h rest

/-- Printed members are an object of JSON. -/
theorem written_members {members : List (String × Field)} (hne : members ≠ [])
    (hkeys : ∀ member ∈ members, ∀ ch ∈ member.1.toList, Interpreter.Plain ch)
    (hstrings : ∀ member ∈ members, ∀ value ∈ member.2.strings, CarriedString value)
    (hshort : ∀ member ∈ members, member.2.Short) :
    interpreter.Written 1 (.members (members.map fun member => (member.1.toList, member.2.read)))
      (",".toList.intercalate (members.map fun member =>
        '"' :: (member.1.toList ++ '"' :: ':' :: member.2.shown)) ++ ['}']) := by
  have hblank : Interpreter.Blank [] := by simp [Interpreter.Blank]
  induction members with
  | nil => exact absurd rfl hne
  | cons member rest ih =>
      have hkey : interpreter.Quotes member.1.toList _ :=
        quotes_key (hkeys member List.mem_cons_self)
      have hvalue : interpreter.Written 1 (.value member.2.read) _ :=
        written_field (hstrings member List.mem_cons_self) (hshort member List.mem_cons_self)
      cases rest with
      | nil =>
          have hlast := Interpreter.Written.lastMember hkey hblank hblank hvalue hblank
          simpa using hlast
      | cons member' rest =>
          have hrest := ih (by simp) (fun m hm => hkeys m (List.mem_cons_of_mem _ hm))
            (fun m hm => hstrings m (List.mem_cons_of_mem _ hm))
            fun m hm => hshort m (List.mem_cons_of_mem _ hm)
          have hmember := Interpreter.Written.member hkey hblank hblank hvalue hblank hblank hrest
          simpa using hmember

/-- A number of 32 bits is short. -/
theorem short_number {n : Int} (h : n.natAbs ≤ 4294967295) : (Field.number n).Short := by
  have hten : (Nat.toDigits 10 n.natAbs).length ≤ 10 :=
    (Nat.length_toDigits_le_iff (by decide) (by decide)).mpr (Nat.lt_of_le_of_lt h (by decide))
  show (Nat.toDigits 10 n.natAbs).length ≤ 640
  omega

/-- All numbers of an event are. -/
theorem members_short (event : HelperEvent) : ∀ member ∈ event.members, member.2.Short := by
  have hint (n : Int32) : (Field.number n.toInt).Short := by
    have hlow := n.le_toInt
    have hhigh := n.toInt_lt
    exact short_number (by omega)
  have hlong (n : UInt32) : (Field.number n.toNat).Short := by
    have hhigh := n.toNat_lt
    exact short_number (by omega)
  have hstream (n : UInt16) : (Field.number n.toNat).Short := by
    have hhigh := n.toNat_lt
    exact short_number (by omega)
  intro member hmember
  cases event with
  | ready localAddrs =>
      rcases List.mem_pair.mp hmember with rfl | rfl <;> trivial
  | addrs event list =>
      rcases List.mem_pair.mp hmember with rfl | rfl <;> trivial
  | recv payload stream ppid assocId =>
      simp only [HelperEvent.members, List.mem_cons, List.not_mem_nil, or_false] at hmember
      rcases hmember with rfl | rfl | rfl | rfl | rfl
      · trivial
      · trivial
      · exact hstream stream
      · exact hlong ppid
      · exact hlong assocId
  | sent payload stream ppid =>
      simp only [HelperEvent.members, List.mem_cons, List.not_mem_nil, or_false] at hmember
      rcases hmember with rfl | rfl | rfl | rfl
      · trivial
      · trivial
      · exact hstream stream
      · exact hlong ppid
  | notify type flags =>
      simp only [HelperEvent.members, List.mem_cons, List.not_mem_nil, or_false] at hmember
      rcases hmember with rfl | rfl | rfl
      · trivial
      · exact hstream type
      · exact hint flags
  | expectedFailure stage message =>
      simp only [HelperEvent.members, List.mem_cons, List.not_mem_nil, or_false] at hmember
      rcases hmember with rfl | rfl | rfl <;> trivial
  | complete count field =>
      rcases List.mem_pair.mp hmember with rfl | rfl
      · trivial
      · exact hint count
  | error message =>
      rcases List.mem_pair.mp hmember with rfl | rfl <;> trivial

/-- The keys of an event: no two are the same, and no character of them needs an escape or
ends a line. -/
theorem members_keys (event : HelperEvent) :
    (event.members.map fun member => member.1.toList).Nodup ∧
      ∀ member ∈ event.members, ∀ ch ∈ member.1.toList,
        Interpreter.Plain ch ∧ isLineBoundary ch = false := by
  have hkeys : ∀ keys ∈ [["event", "local_addrs"], ["event", "addrs"],
      ["event", "payload", "stream", "ppid", "assoc_id"], ["event", "payload", "stream", "ppid"],
      ["event", "type", "flags"], ["event", "stage", "message"], ["event", "recv_count"],
      ["event", "sent_count"], ["event", "message"]],
      (keys.map String.toList).Nodup ∧ ∀ key ∈ keys, ∀ ch ∈ key.toList,
        Interpreter.Plain ch ∧ isLineBoundary ch = false := by
    decide
  have hmem : event.members.map Prod.fst ∈ [["event", "local_addrs"], ["event", "addrs"],
      ["event", "payload", "stream", "ppid", "assoc_id"], ["event", "payload", "stream", "ppid"],
      ["event", "type", "flags"], ["event", "stage", "message"], ["event", "recv_count"],
      ["event", "sent_count"], ["event", "message"]] := by
    cases event with
    | complete count field => cases field <;> simp [HelperEvent.members, CountField.name]
    | _ => simp [HelperEvent.members]
  obtain ⟨hnodup, hplain⟩ := hkeys _ hmem
  rw [List.map_map] at hnodup
  exact ⟨hnodup, fun member hmember => hplain member.1 (List.mem_map_of_mem hmember)⟩

/-- The line of an event is loaded as the event. -/
theorem loads_line {event : HelperEvent} (h : event.Carried)
    (hrecursion : 0 < interpreter.recursion) :
    interpreter.loads event.line = .value (.dict event.read) := by
  have hblank : Interpreter.Blank [] := by simp [Interpreter.Blank]
  have hne : event.members ≠ [] := by
    cases event <;> simp [HelperEvent.members]
  have hmembers : interpreter.Written 1 (.members event.read) _ :=
    written_members hne (fun member hmember ch hch => ((members_keys event).2 member hmember ch hch).1)
      h (members_short event)
  have hkeys : (event.read.map Prod.fst).Nodup := by
    have hmap := (members_keys event).1
    simpa [HelperEvent.read, Function.comp_def] using hmap
  have hloads := Interpreter.loads_written (.dict hblank hmembers hkeys) (by omega) hblank hblank
  rw [List.nil_append, List.append_nil, List.nil_append] at hloads
  exact hloads

end Reading

/-! ## Reading the output -/

/-- What holds of all characters of some texts holds of them joined. -/
theorem forall_mem_intercalate {p : Char → Prop} {separator : Text} {parts : List Text}
    (hseparator : ∀ ch ∈ separator, p ch) (hparts : ∀ part ∈ parts, ∀ ch ∈ part, p ch) :
    ∀ ch ∈ separator.intercalate parts, p ch := by
  induction parts with
  | nil => simp [List.intercalate]
  | cons part rest ih =>
      cases rest with
      | nil =>
          rw [List.intercalate_singleton]
          exact hparts part List.mem_cons_self
      | cons part' rest =>
          simp only [List.intercalate_cons_cons, List.mem_append]
          rintro ch ((hch | hch) | hch)
          · exact hparts part List.mem_cons_self ch hch
          · exact hseparator ch hch
          · exact ih (fun q hq => hparts q (List.mem_cons_of_mem _ hq)) ch hch

/-- A quoted string contains no line boundary. -/
theorem quoted_boundary {value : CppString} (h : CarriedString value) :
    ∀ ch ∈ '"' :: (escapeText (cText value) ++ ['"']), isLineBoundary ch = false := by
  have hescape := Runner.escapeText_boundary fun ch hch => ((Runner.carried_iff ch).mp (h.2 ch hch)).2
  refine List.forall_mem_cons.mpr ⟨by decide, List.forall_mem_append.mpr ⟨hescape, ?_⟩⟩
  exact List.forall_mem_singleton.mpr (by decide)

/-- Nor does a printed field. -/
theorem shown_boundary {field : Field} (h : ∀ value ∈ field.strings, CarriedString value) :
    ∀ ch ∈ field.shown, isLineBoundary ch = false := by
  cases field with
  | text value => exact quoted_boundary (h value (by simp [Field.strings]))
  | number value =>
      have hdigits : ∀ ch ∈ Nat.toDigits 10 value.natAbs, isLineBoundary ch = false :=
        Runner.unsigned_boundary
      change ∀ ch ∈ Interpreter.signed value, isLineBoundary ch = false
      unfold Interpreter.signed
      split
      · exact List.forall_mem_cons.mpr ⟨by decide, hdigits⟩
      · exact hdigits
  | texts values =>
      refine List.forall_mem_cons.mpr ⟨by decide, List.forall_mem_append.mpr ⟨?_, ?_⟩⟩
      · refine forall_mem_intercalate (by decide) fun part hpart => ?_
        obtain ⟨value, hvalue, rfl⟩ := List.mem_map.mp hpart
        exact quoted_boundary (h value hvalue)
      · exact List.forall_mem_singleton.mpr (by decide)

/-- The line of an event is one line for every reader. -/
theorem line_boundary {event : HelperEvent} (h : event.Carried) :
    ∀ ch ∈ event.line, isLineBoundary ch = false := by
  refine List.forall_mem_cons.mpr ⟨by decide, List.forall_mem_append.mpr ⟨?_, ?_⟩⟩
  · refine forall_mem_intercalate (by decide) fun part hpart => ?_
    obtain ⟨member, hmember, rfl⟩ := List.mem_map.mp hpart
    refine List.forall_mem_cons.mpr ⟨by decide, List.forall_mem_append.mpr ⟨?_, ?_⟩⟩
    · exact fun ch hch => ((members_keys event).2 member hmember ch hch).2
    · exact List.forall_mem_cons.mpr ⟨by decide, List.forall_mem_cons.mpr
        ⟨by decide, shown_boundary (h member hmember)⟩⟩
  · exact List.forall_mem_singleton.mpr (by decide)

/-- What the helper has printed for some events. -/
def printed (events : List HelperEvent) : CppString :=
  events.flatMap HelperEvent.print

/-- The printed lines. -/
def outputText (events : List HelperEvent) : Text :=
  events.flatMap fun event => event.line ++ "\n".toList

/-- Newlines and carriage returns are line boundaries. -/
theorem not_mem_of_boundary {text : Text} (h : ∀ ch ∈ text, isLineBoundary ch = false) :
    '\n' ∉ text ∧ '\r' ∉ text :=
  ⟨fun hmem => absurd (h _ hmem) (by decide), fun hmem => absurd (h _ hmem) (by decide)⟩

/-- The runner gets the printed lines. -/
theorem capturedText_printed {events : List HelperEvent} (h : ∀ event ∈ events, event.Carried) :
    capturedText (printed events) = some (outputText events) := by
  have hbytes : printed events = encodeUtf8 (outputText events) := by
    induction events with
    | nil => rfl
    | cons event events ih =>
        have hprinted : printed (event :: events) = event.print ++ printed events := rfl
        have houtput : outputText (event :: events) =
            event.line ++ "\n".toList ++ outputText events := rfl
        rw [hprinted, houtput, encodeUtf8_append, ih fun e he => h e (List.mem_cons_of_mem _ he),
          print_eq (h event List.mem_cons_self)]
        rfl
  have hreturn : '\r' ∉ outputText events := by
    intro hmem
    obtain ⟨event, hevent, hline⟩ := List.mem_flatMap.mp hmem
    rcases List.mem_append.mp hline with hline | hline
    · exact (not_mem_of_boundary (line_boundary (h event hevent))).2 hline
    · exact absurd hline (by decide)
  rw [capturedText, hbytes, decodeUtf8_encodeUtf8, Option.map_some,
    Runner.universalNewlines_eq hreturn]

/-- The lines of the output are those of the events. -/
theorem splitlines_outputText {events : List HelperEvent} (h : ∀ event ∈ events, event.Carried) :
    splitlines (outputText events) = events.map HelperEvent.line := by
  unfold splitlines
  induction events with
  | nil => rfl
  | cons event events ih =>
      have houtput : outputText (event :: events) =
          event.line ++ '\n' :: outputText events := by
        simp [outputText]
      rw [houtput, Runner.splitlinesFrom_whole (line_boundary (h event List.mem_cons_self)),
        ih fun e he => h e (List.mem_cons_of_mem _ he)]
      rfl

variable {interpreter : Interpreter}

/-- The line of an event is read as the event. -/
theorem eventOf_line {event : HelperEvent} (h : event.Carried)
    (hrecursion : 0 < interpreter.recursion) :
    Runner.eventOf interpreter.python event.line = [event.read] := by
  rw [Runner.eventOf, Interpreter.python_loads, loads_line h hrecursion]

/-- Nothing is raised on it. -/
theorem not_raises_line {event : HelperEvent} (h : event.Carried)
    (hrecursion : 0 < interpreter.recursion) : ¬Runner.Raises interpreter.python event.line := by
  rintro ⟨exception, hraises⟩
  rw [Interpreter.python_loads, loads_line h hrecursion] at hraises
  cases hraises

/-- The events are read from their lines. -/
theorem eventsOfLines_printed {events : List HelperEvent} (h : ∀ event ∈ events, event.Carried)
    (hrecursion : 0 < interpreter.recursion) :
    Runner.eventsOfLines interpreter.python (events.map HelperEvent.line) =
      .ok (events.map HelperEvent.read) := by
  rw [Runner.eventsOfLines_eq_ok]
  constructor
  · intro line hline
    obtain ⟨event, hevent, rfl⟩ := List.mem_map.mp hline
    exact not_raises_line (h event hevent) hrecursion
  · rw [List.flatMap_map, List.flatMap_congr fun event hevent => eventOf_line (h event hevent)
      hrecursion]
    exact List.map_eq_flatMap

/-- From the output all events are read, in the order in which they were printed. -/
theorem extractEvents_printed {events : List HelperEvent} (h : ∀ event ∈ events, event.Carried)
    (hrecursion : 0 < interpreter.recursion) :
    extractEvents interpreter.python (outputText events) = .ok (events.map HelperEvent.read) := by
  unfold extractEvents
  rw [splitlines_outputText h, eventsOfLines_printed h hrecursion]

end SctpConformance.FreebsdHelper
