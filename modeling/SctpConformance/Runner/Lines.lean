import SctpConformance.Runner.JsonLoads
import SctpConformance.Runner.Scenario
import Mathlib.Data.List.Basic

/-!
# Two readers of helper output

`_read_stdout` takes the lines of a helper as they come, `extract_events` splits their join
with `str.splitlines`, which knows more line boundaries than the newline.  A line that
holds one of these others is one line for the first reader and several for the second.

Main results:

- Theorem `eventsOfLines_eq_ok`: what the loop of `extract_events` returns.
- Theorem `splitlines_join`: the lines of a join are the lines of its parts, but for
  empty ones.
- Theorem `readers_agree_iff`: the readers agree on what a helper prints, at every moment,
  if and only if no line is harmed by its other boundaries.
-/

namespace SctpConformance.Runner

variable (py : Python)

/-! ## Events of lines -/

/-- The event that a line is for both readers, if it is one. -/
def eventOf (line : Text) : List Event :=
  match py.loads line with
  | .value (.dict event) => [event]
  | _ => []

/-- `json.loads` raises something else than a decoding error. -/
def Raises (line : Text) : Prop :=
  ∃ exception, py.loads line = .raised exception

/-- The loop of `extract_events` returns the events of its lines, unless one raises. -/
theorem eventsOfLines_eq_ok {lines : List Text} {events : List Event} :
    eventsOfLines py lines = .ok events ↔
      (∀ line ∈ lines, ¬Raises py line) ∧ events = lines.flatMap (eventOf py) := by
  induction lines generalizing events with
  | nil => simp [eventsOfLines, eq_comm]
  | cons line lines ih =>
      unfold eventsOfLines
      rw [List.forall_mem_cons, List.flatMap_cons]
      split
      · rename_i event hevent
        have hsound : ¬Raises py line := by
          rintro ⟨exception, hraises⟩
          rw [hevent] at hraises
          cases hraises
        have hone : eventOf py line = [event] := by
          rw [eventOf, hevent]
        rw [hone]
        cases hrest : eventsOfLines py lines with
        | ok others =>
            obtain ⟨hothers, rfl⟩ := ih.mp hrest
            constructor
            · intro h
              cases h
              exact ⟨⟨hsound, hothers⟩, rfl⟩
            · rintro ⟨-, rfl⟩
              rfl
        | error exception =>
            have hnot : ¬∀ line ∈ lines, ¬Raises py line := by
              intro hothers
              rw [ih.mpr ⟨hothers, rfl⟩] at hrest
              cases hrest
            simp [Except.map, hnot]
      · rename_i exception hraises
        have hraised : Raises py line := ⟨exception, hraises⟩
        simp [hraised]
      · rename_i hevent hraises
        have hsound : ¬Raises py line := by
          rintro ⟨exception, h⟩
          exact hraises exception h
        have hnone : eventOf py line = [] := by
          unfold eventOf
          split
          · rename_i event h
            exact absurd h (hevent event)
          · rfl
        rw [ih, hnone]
        simp [hsound]

/-- The queue gets the events of the lines that are read. -/
theorem readEvents_eq (lines : List (Nat × Text)) :
    (readEvents py lines).map (·.2) = (readLines py lines).flatMap (eventOf py) := by
  induction lines with
  | nil => rfl
  | cons entry lines ih =>
      obtain ⟨time, line⟩ := entry
      cases hload : py.loads line with
      | value value =>
          cases value <;> simp [readEvents, readLines, eventOf, hload, ih]
      | jsonDecodeError => simp [readEvents, readLines, eventOf, hload, ih]
      | raised exception => simp [readEvents, readLines, eventOf, hload]

/-! ## Splitting -/

/-- The pieces of a text that are not empty. -/
def nonempty (lines : List Text) : List Text :=
  lines.filter (!·.isEmpty)

/-- The lines that are not empty, part by part. -/
theorem nonempty_append (lines lines' : List Text) :
    nonempty (lines ++ lines') = nonempty lines ++ nonempty lines' :=
  List.filter_append _ _

/-- A line feed separates what is in front of it from what follows. -/
theorem nonempty_splitlinesFrom {line : Text} (h : '\r' ∉ line) (front rest : Text) :
    nonempty (splitlinesFrom front (line ++ '\n' :: rest)) =
      nonempty (splitlinesFrom front line) ++ nonempty (splitlinesFrom [] rest) := by
  induction line generalizing front with
  | nil =>
      rw [List.nil_append, splitlinesFrom_boundary (by decide) (by decide)]
      cases front with
      | nil => rfl
      | cons ch front => rfl
  | cons ch line ih =>
      rw [List.mem_cons, not_or] at h
      have hcr : ch ≠ '\r' := fun heq => h.1 heq.symm
      rw [List.cons_append, splitlinesFrom_cons hcr, splitlinesFrom_cons hcr]
      split
      · have hrest := ih h.2 []
        unfold nonempty at hrest ⊢
        rw [List.filter_cons, List.filter_cons, hrest]
        split
        · rfl
        · rfl
      · exact ih h.2 _

/-- The lines of a join are the lines of its parts, but for empty ones. -/
theorem splitlines_join {lines : List Text} (h : ∀ line ∈ lines, '\r' ∉ line) :
    nonempty (splitlines (joinTexts "\n".toList lines)) =
      nonempty (lines.flatMap splitlines) := by
  unfold splitlines joinTexts
  induction lines with
  | nil => rfl
  | cons first rest ih =>
      cases rest with
      | nil => rw [List.intercalate_singleton, List.flatMap_cons, List.flatMap_nil, List.append_nil]
      | cons second rest =>
          have hjoin : "\n".toList.intercalate (first :: second :: rest) =
              first ++ '\n' :: "\n".toList.intercalate (second :: rest) := by
            simp [List.intercalate_cons_cons]
          have hrest := ih fun line hline => h line (List.mem_cons_of_mem _ hline)
          rw [hjoin, nonempty_splitlinesFrom (h first List.mem_cons_self), hrest]
          exact (nonempty_append _ _).symm

/-! ## Agreement -/

section Agreement

variable {py}

/-- An empty line is no event and raises nothing else. -/
theorem eventsOfLines_nonempty (hempty : py.loads [] = .jsonDecodeError) (lines : List Text) :
    eventsOfLines py (nonempty lines) = eventsOfLines py lines := by
  induction lines with
  | nil => rfl
  | cons line lines ih =>
      cases line with
      | nil =>
          rw [nonempty, List.filter_cons_of_neg (by simp), ← nonempty, ih, eventsOfLines, hempty]
      | cons ch line =>
          rw [nonempty, List.filter_cons_of_pos (by simp), ← nonempty, eventsOfLines, eventsOfLines,
            ih]

/-- What `extract_events` returns on joined lines. -/
theorem extractEvents_join (hempty : py.loads [] = .jsonDecodeError) {lines : List Text}
    (hlines : ∀ line ∈ lines, '\r' ∉ line) {events : List Event} :
    extractEvents py (joinTexts "\n".toList lines) = .ok events ↔
      (∀ line ∈ lines, ∀ piece ∈ splitlines line, ¬Raises py piece) ∧
        events = lines.flatMap fun line => (splitlines line).flatMap (eventOf py) := by
  unfold extractEvents
  rw [← eventsOfLines_nonempty hempty, splitlines_join hlines, eventsOfLines_nonempty hempty,
    eventsOfLines_eq_ok, List.flatMap_assoc]
  simp only [List.mem_flatMap, forall_exists_index, and_imp]
  constructor
  · rintro ⟨hsound, rfl⟩
    exact ⟨fun line hline piece hpiece => hsound piece line hline hpiece, rfl⟩
  · rintro ⟨hsound, rfl⟩
    exact ⟨fun piece line hline hpiece => hsound line hline piece hpiece, rfl⟩

variable (py)

/-- The queue of `_read_stdout` holds what `extract_events` returns on the output. -/
def ReadersAgree (lines : List (Nat × Text)) : Prop :=
  extractEvents py (joinTexts "\n".toList (readLines py lines)) =
    .ok ((readEvents py lines).map (·.2))

/-- The other boundaries of a line do no harm: it has none; or neither the line nor a piece
of it is an event; or the line is an event, and so is exactly one of its pieces, the same
one. -/
def Unharmed (line : Text) : Prop :=
  (∀ ch ∈ line, isLineBoundary ch = false) ∨
    (eventOf py line = [] ∧ ∀ piece ∈ splitlines line, eventOf py piece = []) ∨
    ∃ event front piece back, splitlines line = front ++ piece :: back ∧
      eventOf py line = [event] ∧ eventOf py piece = [event] ∧
      ∀ other ∈ front ++ back, eventOf py other = []

/-- A line gives one event at most. -/
theorem eventOf_cases (line : Text) : eventOf py line = [] ∨ ∃ event, eventOf py line = [event] := by
  unfold eventOf
  split
  · exact Or.inr ⟨_, rfl⟩
  · exact Or.inl rfl

variable {py}

/-- A list of pieces that makes up one event has it in one piece. -/
theorem exists_piece_of_flatMap {pieces : List Text} {event : Event}
    (h : pieces.flatMap (eventOf py) = [event]) :
    ∃ front piece back, pieces = front ++ piece :: back ∧ eventOf py piece = [event] ∧
      ∀ other ∈ front ++ back, eventOf py other = [] := by
  induction pieces with
  | nil => cases h
  | cons piece pieces ih =>
      rw [List.flatMap_cons] at h
      rcases eventOf_cases py piece with hnone | ⟨event', hsome⟩
      · rw [hnone, List.nil_append] at h
        obtain ⟨front, piece', back, rfl, hpiece, hothers⟩ := ih h
        refine ⟨piece :: front, piece', back, rfl, hpiece, ?_⟩
        intro other hother
        rcases List.mem_cons.mp hother with rfl | hother
        · exact hnone
        · exact hothers other hother
      · rw [hsome, List.singleton_append, List.cons.injEq] at h
        obtain ⟨rfl, hrest⟩ := h
        exact ⟨[], piece, pieces, rfl, hsome, List.flatMap_eq_nil_iff.mp hrest⟩

/-- A line is unharmed if both readers take the same events from it. -/
theorem unharmed_iff (hempty : py.loads [] = .jsonDecodeError) (line : Text) :
    Unharmed py line ↔ (splitlines line).flatMap (eventOf py) = eventOf py line := by
  constructor
  · rintro (hwhole | ⟨hline, hpieces⟩ | ⟨event, front, piece, back, hsplit, hline, hpiece, hothers⟩)
    · cases hcase : line with
      | nil =>
          rw [eventOf, hempty]
          rfl
      | cons ch rest =>
          rw [← hcase, splitlines, splitlinesFrom_last hwhole [] (by simp [hcase]), List.nil_append,
            List.flatMap_singleton]
    · rw [hline, List.flatMap_eq_nil_iff]
      exact hpieces
    · rw [hsplit, hline, List.flatMap_append, List.flatMap_cons, hpiece]
      have hfront : front.flatMap (eventOf py) = [] :=
        List.flatMap_eq_nil_iff.mpr fun other h => hothers other (List.mem_append_left _ h)
      have hback : back.flatMap (eventOf py) = [] :=
        List.flatMap_eq_nil_iff.mpr fun other h => hothers other (List.mem_append_right _ h)
      rw [hfront, hback]
      rfl
  · intro h
    by_cases hwhole : ∀ ch ∈ line, isLineBoundary ch = false
    · exact Or.inl hwhole
    · rcases eventOf_cases py line with hnone | ⟨event, hsome⟩
      · rw [hnone, List.flatMap_eq_nil_iff] at h
        exact Or.inr (Or.inl ⟨hnone, h⟩)
      · rw [hsome] at h
        obtain ⟨front, piece, back, hsplit, hpiece, hothers⟩ := exists_piece_of_flatMap h
        exact Or.inr (Or.inr ⟨event, front, piece, back, hsplit, hsome, hpiece, hothers⟩)

/-- The lines that are read are the first ones of those that are printed. -/
theorem readLines_initial (lines : List (Nat × Text)) : readLines py lines <+: lines.map (·.2) := by
  induction lines with
  | nil => exact List.prefix_rfl
  | cons entry lines ih =>
      unfold readLines
      split
      · exact List.cons_prefix_cons.mpr ⟨rfl, List.nil_prefix⟩
      · exact List.cons_prefix_cons.mpr ⟨rfl, ih⟩

/-- A single line is read as it is. -/
theorem readLines_singleton (time : Nat) (line : Text) : readLines py [(time, line)] = [line] := by
  cases hload : py.loads line <;> simp [readLines, hload]

/-- What is read of the first lines is read first. -/
theorem readLines_mono {front lines : List (Nat × Text)} (h : front <+: lines) :
    readLines py front <+: readLines py lines := by
  obtain ⟨back, rfl⟩ := h
  induction front with
  | nil => exact List.nil_prefix
  | cons entry front ih =>
      rw [List.cons_append]
      unfold readLines
      split
      · exact List.prefix_rfl
      · exact List.cons_prefix_cons.mpr ⟨rfl, ih⟩

/-- Every line that is read is the last one that was read at some moment. -/
theorem exists_readLines_last {lines : List (Nat × Text)} {line : Text}
    (h : line ∈ readLines py lines) :
    ∃ front time, front ++ [(time, line)] <+: lines ∧
      readLines py (front ++ [(time, line)]) = readLines py front ++ [line] := by
  induction lines with
  | nil => cases h
  | cons entry lines ih =>
      obtain ⟨time, first⟩ := entry
      unfold readLines at h
      split at h
      · rename_i exception hraises
        obtain rfl := List.mem_singleton.mp h
        refine ⟨[], time, List.cons_prefix_cons.mpr ⟨rfl, List.nil_prefix⟩, ?_⟩
        exact readLines_singleton time line
      · rename_i hsound
        rcases List.mem_cons.mp h with rfl | hrest
        · refine ⟨[], time, List.cons_prefix_cons.mpr ⟨rfl, List.nil_prefix⟩, ?_⟩
          exact readLines_singleton time line
        · obtain ⟨front, time', hinitial, hlast⟩ := ih hrest
          refine ⟨(time, first) :: front, time', List.cons_prefix_cons.mpr ⟨rfl, hinitial⟩, ?_⟩
          rw [List.cons_append]
          unfold readLines
          split
          · rename_i exception hraises
            exact absurd hraises (hsound exception)
          · rw [hlast, List.cons_append]

/-- When the readers agree. -/
theorem readersAgree_iff (hempty : py.loads [] = .jsonDecodeError) {lines : List (Nat × Text)}
    (hlines : ∀ line ∈ lines, '\r' ∉ line.2) :
    ReadersAgree py lines ↔
      (∀ line ∈ readLines py lines, ∀ piece ∈ splitlines line, ¬Raises py piece) ∧
        (readLines py lines).flatMap (eventOf py) =
          (readLines py lines).flatMap fun line => (splitlines line).flatMap (eventOf py) := by
  have hread : ∀ line ∈ readLines py lines, '\r' ∉ line := by
    intro line hline
    obtain ⟨entry, hentry, rfl⟩ := List.mem_map.mp ((readLines_initial lines).subset hline)
    exact hlines entry hentry
  rw [ReadersAgree, extractEvents_join hempty hread, readEvents_eq]

/-- The readers agree at every moment if and only if each line that is read is unharmed and
nothing raises. -/
theorem readers_agree_iff (hempty : py.loads [] = .jsonDecodeError) (lines : List (Nat × Text))
    (hlines : ∀ line ∈ lines, '\n' ∉ line.2 ∧ '\r' ∉ line.2) :
    (∀ front, front <+: lines → ReadersAgree py front) ↔
      ∀ line ∈ readLines py lines,
        Unharmed py line ∧ ∀ piece ∈ splitlines line, ¬Raises py piece := by
  have hfront : ∀ front : List (Nat × Text), front <+: lines → ∀ line ∈ front, '\r' ∉ line.2 :=
    fun front hinitial line hline => (hlines line (hinitial.subset hline)).2
  constructor
  · intro hagree line hline
    obtain ⟨front, time, hlast, hread⟩ := exists_readLines_last hline
    have hbefore : front <+: lines := (List.prefix_append _ _).trans hlast
    obtain ⟨-, hsame⟩ := (readersAgree_iff hempty (hfront _ hbefore)).mp (hagree _ hbefore)
    obtain ⟨hsound, hboth⟩ := (readersAgree_iff hempty (hfront _ hlast)).mp (hagree _ hlast)
    rw [hread, List.flatMap_append, List.flatMap_append, hsame, List.flatMap_singleton,
      List.flatMap_singleton] at hboth
    refine ⟨(unharmed_iff hempty line).mpr (List.append_cancel_left hboth).symm, ?_⟩
    exact hsound line (by simp [hread])
  · intro hunharmed front hinitial
    have hmem : ∀ line ∈ readLines py front, line ∈ readLines py lines :=
      fun line hline => (readLines_mono hinitial).subset hline
    rw [readersAgree_iff hempty (hfront _ hinitial)]
    refine ⟨fun line hline => (hunharmed line (hmem line hline)).2, ?_⟩
    refine List.flatMap_congr fun line hline => ?_
    exact ((unharmed_iff hempty line).mp (hunharmed line (hmem line hline)).1).symm

end Agreement

/-- A payload with a line separator, as a helper prints it. -/
def separatorLine : Text :=
  "\x7b\"event\":\"recv\",\"payload\":\"a\u2028b\",\"stream\":0,\"ppid\":0\x7d".toList

theorem readers_agree_iff_separator :
    (∀ front, front <+: [(3, separatorLine)] → ReadersAgree sampleInterpreter.python front) ↔
      ∀ line ∈ readLines sampleInterpreter.python [(3, separatorLine)],
        Unharmed sampleInterpreter.python line ∧
          ∀ piece ∈ splitlines line, ¬Raises sampleInterpreter.python piece :=
  readers_agree_iff sampleInterpreter.loads_nil [(3, separatorLine)] (by decide)

/-- One reader takes the line for an event, the other one for two lines that are none. -/
theorem readers_disagree :
    ¬∀ (py : Python) (lines : List (Nat × Text)), py.loads [] = .jsonDecodeError →
      (∀ line ∈ lines, '\n' ∉ line.2 ∧ '\r' ∉ line.2) → ReadersAgree py lines := by
  intro hclaim
  have hagree := hclaim sampleInterpreter.python [(3, separatorLine)] sampleInterpreter.loads_nil
    (by decide)
  have hevents : (extractEvents sampleInterpreter.python
      (joinTexts "\n".toList (readLines sampleInterpreter.python [(3, separatorLine)]))).toOption.map
        List.length = some 0 := by decide +kernel
  have hqueue : (readEvents sampleInterpreter.python [(3, separatorLine)]).length = 1 := by
    decide +kernel
  rw [hagree] at hevents
  simp [Except.toOption, hqueue] at hevents

end SctpConformance.Runner
