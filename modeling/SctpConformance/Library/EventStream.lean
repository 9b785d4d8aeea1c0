import SctpConformance.Library.Json

/-!
# Server-sent events

The reader of an event stream, as a machine that is fed one byte at a time.  A line
ends at a line feed, a carriage return or both; an empty line dispatches the event
that the lines before it have built up.

Main results:

- Definition `readEvents`: the events of a stream.
- Theorem `EventReader.feed_line`: what a line without control bytes does to the reader.
- Theorem `EventReader.feedAll_event`: an event with one data line is read as it was meant.
- Theorem `EventReader.feedAll_append_blank`: events are read one after the other.
-/

namespace SctpConformance.Library

/-- An event as the client sees it. -/
structure ServerSentEvent where
  name : Bytes
  data : Bytes
deriving DecidableEq

/-- A reader in the middle of a stream: the line so far, the buffers of the event that
is being built up, and the events that have been dispatched. -/
structure EventReader where
  line : Bytes := []
  afterReturn : Bool := false
  name : Bytes := []
  data : Bytes := []
  events : List ServerSentEvent := []
deriving DecidableEq

/-- Remove one space at the beginning. -/
def dropSpace : Bytes → Bytes
  | [] => []
  | ch :: rest => if ch = 32 then rest else ch :: rest

/-- The name of the field in a line, up to its first colon. -/
def fieldName (line : Bytes) : Bytes :=
  line.takeWhile (· ≠ 58)

/-- The value of the field in a line. -/
def fieldValue (line : Bytes) : Bytes :=
  dropSpace ((line.dropWhile (· ≠ 58)).drop 1)

namespace EventReader

/-- An empty line: the event goes out, unless it has no data. -/
def dispatch (r : EventReader) : EventReader :=
  if r.data = [] then { r with name := [], data := [] }
  else
    -- The default name of an event is `message`.
    let name := if r.name = [] then [109, 101, 115, 115, 97, 103, 101] else r.name
    { r with
      name := []
      data := []
      events := r.events ++ [{ name := name, data := r.data.dropLast }] }

/-- A line that is not empty.  A line without a name is a comment; fields other than
`event` and `data` do not change the event. -/
def field (r : EventReader) (line : Bytes) : EventReader :=
  if fieldName line = [101, 118, 101, 110, 116] then { r with name := fieldValue line }
  else if fieldName line = [100, 97, 116, 97] then
    { r with data := r.data ++ fieldValue line ++ [10] }
  else r

/-- A line is complete. -/
def endLine (r : EventReader) : EventReader :=
  let line := r.line
  let r := { r with line := [] }
  if line = [] then r.dispatch else r.field line

/-- One byte; a line feed behind a carriage return ends no further line. -/
def feed (r : EventReader) (ch : UInt8) : EventReader :=
  if ch = 10 then
    if r.afterReturn then { r with afterReturn := false } else r.endLine
  else if ch = 13 then { r.endLine with afterReturn := true }
  else { r with line := r.line ++ [ch], afterReturn := false }

/-- A reader after a whole text. -/
def feedAll (r : EventReader) (text : Bytes) : EventReader :=
  text.foldl feed r

/-- A stream can be fed in parts. -/
theorem feedAll_append (r : EventReader) (s t : Bytes) :
    r.feedAll (s ++ t) = (r.feedAll s).feedAll t :=
  List.foldl_append

end EventReader

/-- The events of a stream.  A last event that no empty line ends is not dispatched. -/
def readEvents (text : Bytes) : List ServerSentEvent :=
  (EventReader.feedAll {} text).events

/-! ## Lines -/

namespace EventReader

/-- Bytes that end no line are collected. -/
theorem feed_printable (r : EventReader) {ch : UInt8} (h : 32 ≤ ch) :
    r.feed ch = { r with line := r.line ++ [ch], afterReturn := false } := by
  have hfeed : ch ≠ 10 := by
    rintro rfl
    exact absurd h (by decide)
  have hreturn : ch ≠ 13 := by
    rintro rfl
    exact absurd h (by decide)
  rw [feed, if_neg hfeed, if_neg hreturn]

/-- Without control bytes the line only gets longer. -/
theorem feedAll_printable (r : EventReader) {text : Bytes} (h : Printable text)
    (hne : text ≠ []) :
    r.feedAll text = { r with line := r.line ++ text, afterReturn := false } := by
  induction text generalizing r with
  | nil => contradiction
  | cons ch text ih =>
      have hfirst : r.feedAll (ch :: text) = (r.feed ch).feedAll text := rfl
      rw [hfirst, feed_printable r (h ch List.mem_cons_self)]
      by_cases hlast : text = []
      · rw [hlast]
        rfl
      · have htext : Printable text := by
          intro ch' hch'
          exact h ch' (List.mem_cons_of_mem _ hch')
        rw [ih _ htext hlast]
        simp

/-- A line feed ends the line. -/
theorem feedAll_newline (r : EventReader) (h : r.afterReturn = false) :
    r.feedAll [10] = r.endLine := by
  simp [feedAll, feed, h]

/-- A line of its own, ended by a line feed. -/
theorem feed_line (r : EventReader) {line : Bytes} (h : Printable line) (hne : line ≠ [])
    (hstart : r.line = []) :
    r.feedAll (line ++ [10]) = { r with afterReturn := false }.field line := by
  have hline : r.feedAll line = { r with line := line, afterReturn := false } := by
    rw [feedAll_printable r h hne, hstart, List.nil_append]
  rw [feedAll_append, hline, feedAll_newline _ rfl, endLine]
  simp only [if_neg hne]
  rw [← hstart]

end EventReader

/-- The space behind the colon does not belong to the value. -/
theorem dropSpace_space (rest : Bytes) : dropSpace (32 :: rest) = rest := by
  rw [dropSpace, if_pos rfl]

/-- A blank reader takes in an event with a name and one line of data, and is blank again. -/
theorem EventReader.feedAll_event {name data : Bytes} (hname : Printable name) (hne : name ≠ [])
    (hdata : Printable data) :
    EventReader.feedAll {} (([101, 118, 101, 110, 116, 58, 32] ++ name ++ [10]) ++
      ([100, 97, 116, 97, 58, 32] ++ data ++ [10]) ++ [10]) = { events := [{ name, data }] } := by
  have hcolon : ∀ text : Bytes, Printable text →
      Printable ([101, 118, 101, 110, 116, 58, 32] ++ text) ∧
      Printable ([100, 97, 116, 97, 58, 32] ++ text) := by
    intro text htext
    constructor
    · exact Printable.append (by simp only [Printable]; decide) htext
    · exact Printable.append (by simp only [Printable]; decide) htext
  have hevent : ∀ r : EventReader,
      r.field ([101, 118, 101, 110, 116, 58, 32] ++ name) = { r with name := name } := by
    intro r
    simp [EventReader.field, fieldName, fieldValue, dropSpace_space]
  have hdataLine : ∀ r : EventReader, r.field ([100, 97, 116, 97, 58, 32] ++ data) =
      { r with data := r.data ++ data ++ [10] } := by
    intro r
    simp [EventReader.field, fieldName, fieldValue, dropSpace_space]
  rw [EventReader.feedAll_append, EventReader.feedAll_append,
    EventReader.feed_line _ (hcolon name hname).1 (by simp) rfl, hevent,
    EventReader.feed_line _ (hcolon data hdata).2 (by simp) rfl, hdataLine,
    EventReader.feedAll_newline _ rfl]
  simp [EventReader.endLine, EventReader.dispatch, hne]

/-! ## Streams of several events -/

namespace EventReader

/-- The reader behind events that have been dispatched before. -/
def behind (r : EventReader) (old : List ServerSentEvent) : EventReader :=
  { r with events := old ++ r.events }

/-- What has been dispatched does not matter to the reader. -/
theorem feed_behind (r : EventReader) (old : List ServerSentEvent) (ch : UInt8) :
    (r.behind old).feed ch = (r.feed ch).behind old := by
  have hdispatch : ∀ r : EventReader, (r.behind old).dispatch = r.dispatch.behind old := by
    intro r
    have hdata : (r.behind old).data = r.data := rfl
    by_cases h : r.data = []
    · rw [dispatch, dispatch, if_pos h, if_pos (hdata.trans h)]
      rfl
    · rw [dispatch, dispatch, if_neg h, if_neg (hdata ▸ h)]
      simp only [behind, List.append_assoc]
      rfl
  have hfield : ∀ (r : EventReader) (line : Bytes),
      (r.behind old).field line = (r.field line).behind old := by
    intro r line
    unfold field
    split
    · rfl
    · split
      · rfl
      · rfl
  have hend : (r.behind old).endLine = r.endLine.behind old := by
    have hline : (r.behind old).line = r.line := rfl
    by_cases h : r.line = []
    · rw [endLine, endLine, if_pos h, if_pos (hline.trans h)]
      exact hdispatch { r with line := [] }
    · rw [endLine, endLine, if_neg h, if_neg (hline ▸ h)]
      exact hfield { r with line := [] } r.line
  have hreturn : (r.behind old).afterReturn = r.afterReturn := rfl
  unfold feed
  rw [hend, hreturn]
  split
  · split
    · rfl
    · rfl
  · split
    · rfl
    · rfl

/-- What has been dispatched does not matter to the rest of the stream. -/
theorem feedAll_behind (r : EventReader) (old : List ServerSentEvent) (text : Bytes) :
    (r.behind old).feedAll text = (r.feedAll text).behind old := by
  induction text generalizing r with
  | nil => rfl
  | cons ch text ih =>
      have hfirst : ∀ r : EventReader, r.feedAll (ch :: text) = (r.feed ch).feedAll text :=
        fun _ => rfl
      rw [hfirst, hfirst, feed_behind, ih]

/-- A text of whole events, with more text after it. -/
theorem feedAll_append_blank {front : Bytes} {events : List ServerSentEvent}
    (h : feedAll {} front = { events := events }) (back : Bytes) :
    feedAll {} (front ++ back) = (feedAll {} back).behind events := by
  have hblank : ({ events := events } : EventReader) = EventReader.behind {} events := by
    rw [behind, List.append_nil]
  rw [feedAll_append, h, hblank, feedAll_behind]

end EventReader

end SctpConformance.Library
