import SctpConformance.Library.EventStream
import SctpConformance.Json.Emitted
import SctpConformance.Http.Request

/-!
# Summary events

`WriteSseEvent` splits its data at line feeds only.  The texts of the server contain no
control bytes, whatever the strings in them are, so a summary is always one line of data.

Main results:

- Definition `writeSseEvent`: the bytes of an event.
- Theorem `writeSseEvent_summary`: every summary is read as one event with the summary
  as its data.
-/

namespace SctpConformance

open Library

/-- The bytes that `WriteSseEvent` writes. -/
def writeSseEvent (eventName data : CppString) : CppString :=
  let event := if eventName ≠ [] then str "event: " ++ eventName ++ str "\n" else []
  if data = [] then event ++ str "data:\n\n"
  else
    event ++ ((getLines data []).flatMap fun line => str "data: " ++ line ++ str "\n") ++ str "\n"

/-- An event whose data is one line is read as it was written. -/
theorem feedAll_writeSseEvent {eventName data : CppString} (hname : Printable eventName)
    (hnameNe : eventName ≠ []) (hdata : Printable data) (hdataNe : data ≠ []) :
    EventReader.feedAll {} (writeSseEvent eventName data) =
      { events := [{ name := eventName, data := data }] } := by
  have hfeed : ∀ ch ∈ data, ch ≠ 10 := by
    rintro ch hch rfl
    exact absurd (hdata 10 hch) (by decide)
  have hlines : getLines data [] = [data] := getLines_last hfeed hdataNe
  have hliterals : str "event: " = [101, 118, 101, 110, 116, 58, 32] ∧
      str "data: " = [100, 97, 116, 97, 58, 32] ∧ str "\n" = [10] := by
    decide
  rw [writeSseEvent, if_pos hnameNe, if_neg hdataNe, hlines, hliterals.1, hliterals.2.1,
    hliterals.2.2, List.flatMap_cons, List.flatMap_nil, List.append_nil]
  exact EventReader.feedAll_event hname hnameNe hdata

/-- A written event is read as one event with its name and its data. -/
theorem readEvents_writeSseEvent {eventName data : CppString} (hname : Printable eventName)
    (hnameNe : eventName ≠ []) (hdata : Printable data) (hdataNe : data ≠ []) :
    readEvents (writeSseEvent eventName data) = [{ name := eventName, data := data }] := by
  rw [readEvents, feedAll_writeSseEvent hname hnameNe hdata hdataNe]

variable {c : Catalog}

/-- Summaries are printable texts. -/
theorem summaryJson_printable (sessionId : CppString) (entries : List (Entry c)) :
    Printable (summaryJson sessionId entries) ∧ summaryJson sessionId entries ≠ [] := by
  rw [summaryJson_text]
  refine ⟨Json.text_printable _, ?_⟩
  rcases (summaryValue sessionId entries).text_head with ⟨ch, rest, htext, -⟩
  rw [htext]
  exact List.cons_ne_nil _ _

/-- The name of the event can be printed. -/
theorem printable_summary : Printable (str "summary") := by
  simp only [Printable]
  decide

/-- For every session and whatever has been read of its executions, the bytes of a
summary event are read as exactly one event, whose data is the summary. -/
theorem writeSseEvent_summary (session : Session c) (entries : List (Entry c)) :
    readEvents (writeSseEvent (str "summary") (summaryJson session.id entries)) =
      [{ name := str "summary", data := summaryJson session.id entries }] := by
  have hdata := summaryJson_printable session.id entries
  exact readEvents_writeSseEvent printable_summary (by decide) hdata.1 hdata.2

end SctpConformance
