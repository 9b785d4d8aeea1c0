import SctpConformance.Library.Json
import SctpConformance.Library.Fields

/-!
# HTTP responses at the receiving end

A response is a status line, header fields and a body whose length the header announces.
Each line of the header ends with a carriage return and a line feed, and an empty line ends
the header.  A response whose body falls short of the announced length is incomplete.

Main results:

- Theorem `readResponse_messageText`: a response is read as it was written.
- Theorem `readResponse_initial`: no proper initial part of it is taken for a response.
-/

namespace SctpConformance.Library

/-! ## Reading -/

/-- A response as its receiver has it. -/
structure ReceivedResponse where
  status : Nat
  fields : List (Bytes × Bytes)
  body : Bytes
deriving DecidableEq

/-- The lines before the first empty line and the text behind it; `line` is what has been
read of the current line. -/
def headLines : Bytes → Bytes → Option (List Bytes × Bytes)
  | [], _ => none
  | 13 :: 10 :: rest, line =>
      if line = [] then some ([], rest)
      else (headLines rest []).map fun read => (line :: read.1, read.2)
  | ch :: rest, line => headLines rest (line ++ [ch])

/-- The status code of a status line. -/
def statusCode : Bytes → Option Nat
  | 72 :: 84 :: 84 :: 80 :: 47 :: major :: 46 :: minor :: 32 :: a :: b :: c :: 32 :: _ =>
      if [major, minor, a, b, c].all isDigit then some (natOfDigits [a, b, c]) else none
  | _ => none

/-- A space or a tab. -/
def isBlank (ch : UInt8) : Bool :=
  ch = 32 || ch = 9

/-- A text without the blanks around it. -/
def trimBlanks (text : Bytes) : Bytes :=
  ((text.dropWhile isBlank).reverse.dropWhile isBlank).reverse

/-- The name and the value of a header line. -/
def headerField (line : Bytes) : Option (Bytes × Bytes) :=
  match splitFirst 58 line with
  | none => none
  | some (name, value) =>
      if name = [] ∨ name.any isBlank then none else some (name, trimBlanks value)

/-- Letters compared without their case. -/
def lowerCase (ch : UInt8) : UInt8 :=
  if 65 ≤ ch ∧ ch ≤ 90 then ch + 32 else ch

/-- `content-length` -/
def lengthName : Bytes :=
  [99, 111, 110, 116, 101, 110, 116, 45, 108, 101, 110, 103, 116, 104]

/-- The length of the body that the header announces. -/
def announcedLength (fields : List (Bytes × Bytes)) : Option Nat :=
  (fields.find? fun field => field.1.map lowerCase = lengthName).bind fun field =>
    if field.2 ≠ [] ∧ field.2.all isDigit then some (natOfDigits field.2) else none

/-- The response at the beginning of a text, if it is complete. -/
def readResponse (text : Bytes) : Option ReceivedResponse :=
  match headLines text [] with
  | some (first :: lines, rest) =>
      match statusCode first, lines.mapM headerField with
      | some status, some fields =>
          match announcedLength fields with
          | some length =>
              if length ≤ rest.length then
                some { status := status, fields := fields, body := rest.take length }
              else none
          | none => none
      | _, _ => none
  | _ => none

/-! ## Header lines -/

/-- A byte that is no carriage return belongs to the line. -/
theorem headLines_other {ch : UInt8} (h : ch ≠ 13) (rest line : Bytes) :
    headLines (ch :: rest) line = headLines rest (line ++ [ch]) := by
  cases rest with
  | nil => simp [headLines]
  | cons next rest => simp [headLines, h]

/-- A line is read up to its end, and an empty one ends the head. -/
theorem headLines_line {line : Bytes} (h : 13 ∉ line) (rest current : Bytes) :
    headLines (line ++ 13 :: 10 :: rest) current =
      if current ++ line = [] then some ([], rest)
      else (headLines rest []).map fun read => ((current ++ line) :: read.1, read.2) := by
  induction line generalizing current with
  | nil => simp [headLines]
  | cons ch line ih =>
      have hch : ch ≠ 13 := by
        rintro rfl
        exact h List.mem_cons_self
      rw [List.cons_append, headLines_other hch, ih fun hmem => h (List.mem_cons_of_mem _ hmem)]
      simp

/-- A line that has not ended. -/
theorem headLines_open {line : Bytes} (h : 13 ∉ line) (current : Bytes) :
    headLines line current = none ∧ headLines (line ++ [13]) current = none := by
  induction line generalizing current with
  | nil => exact ⟨rfl, rfl⟩
  | cons ch line ih =>
      have hch : ch ≠ 13 := by
        rintro rfl
        exact h List.mem_cons_self
      rw [List.cons_append, headLines_other hch, headLines_other hch]
      exact ih (fun hmem => h (List.mem_cons_of_mem _ hmem)) _

/-- Lines with their ends. -/
def headerText (lines : List Bytes) : Bytes :=
  lines.flatMap fun line => line ++ [13, 10]

/-- A line of a header: not empty, and without a carriage return. -/
def IsHeadLine (line : Bytes) : Prop :=
  line ≠ [] ∧ 13 ∉ line

/-- The lines of a head are read as they have been written. -/
theorem headLines_headerText {lines : List Bytes} (h : ∀ line ∈ lines, IsHeadLine line)
    (rest : Bytes) :
    headLines (headerText lines ++ 13 :: 10 :: rest) [] = some (lines, rest) := by
  induction lines with
  | nil => rfl
  | cons line lines ih =>
      rcases h line List.mem_cons_self with ⟨hne, hreturn⟩
      have htext : headerText (line :: lines) ++ 13 :: 10 :: rest =
          line ++ 13 :: 10 :: (headerText lines ++ 13 :: 10 :: rest) := by
        simp [headerText]
      rw [htext, headLines_line hreturn, List.nil_append, if_neg hne,
        ih fun line hline => h line (List.mem_cons_of_mem _ hline)]
      rfl

/-- An initial part of two texts ends in the first or goes on into the second. -/
theorem initial_append {part front back : Bytes} (h : part <+: front ++ back) :
    part <+: front ∨ ∃ rest, part = front ++ rest ∧ rest <+: back := by
  rcases List.prefix_or_prefix_of_prefix h (List.prefix_append front back) with hfront | hpart
  · exact .inl hfront
  · rcases hpart with ⟨rest, rfl⟩
    exact .inr ⟨rest, rfl, (List.prefix_append_right_inj front).mp h⟩

/-- No header ends in a proper initial part of it. -/
theorem headLines_initial {lines : List Bytes} (h : ∀ line ∈ lines, IsHeadLine line)
    {part : Bytes} (hpart : part <+: headerText lines ++ [13, 10])
    (hne : part ≠ headerText lines ++ [13, 10]) : headLines part [] = none := by
  induction lines generalizing part with
  | nil =>
      have hshort : part <+: [13] ++ [10] := hpart
      rcases List.prefix_concat_iff.mp hshort with rfl | hreturn
      · exact absurd rfl hne
      · rcases List.prefix_concat_iff.mp (show part <+: [] ++ [13] from hreturn) with rfl | hnil
        · rfl
        · rw [List.prefix_nil.mp hnil]
          rfl
  | cons line lines ih =>
      rcases h line List.mem_cons_self with ⟨hline, hreturn⟩
      have htext : headerText (line :: lines) ++ [13, 10] =
          ((line ++ [13]) ++ [10]) ++ (headerText lines ++ [13, 10]) := by
        simp [headerText]
      rw [htext] at hpart hne
      rcases initial_append hpart with hfirst | ⟨rest, rfl, hrest⟩
      · rcases List.prefix_concat_iff.mp hfirst with rfl | hopen
        · -- the line has just ended, and the header goes on
          have hnext := headLines_line hreturn [] []
          rw [List.nil_append, if_neg hline] at hnext
          simpa [headLines] using hnext
        · rcases List.prefix_concat_iff.mp hopen with rfl | hinside
          · exact (headLines_open hreturn []).2
          · exact (headLines_open (fun hmem => hreturn (hinside.subset hmem)) []).1
      · have hnext := headLines_line hreturn rest []
        rw [List.nil_append, if_neg hline,
          ih (fun line hline => h line (List.mem_cons_of_mem _ hline)) hrest
            (fun hall => hne (by rw [hall]))] at hnext
        simpa using hnext

/-! ## Messages -/

/-- A status line, header lines and a body as they are sent. -/
def messageText (first : Bytes) (lines : List Bytes) (body : Bytes) : Bytes :=
  headerText (first :: lines) ++ 13 :: 10 :: body

/-- A message that announces its length. -/
structure WellFramed (first : Bytes) (lines : List Bytes) (body : Bytes) (status : Nat)
    (fields : List (Bytes × Bytes)) : Prop where
  lines_sound : ∀ line ∈ first :: lines, IsHeadLine line
  status_read : statusCode first = some status
  fields_read : lines.mapM headerField = some fields
  length_announced : announcedLength fields = some body.length

variable {first : Bytes} {lines : List Bytes} {body : Bytes} {status : Nat}
  {fields : List (Bytes × Bytes)}

/-- A complete response is read as it was written. -/
theorem readResponse_messageText (h : WellFramed first lines body status fields) :
    readResponse (messageText first lines body) =
      some { status := status, fields := fields, body := body } := by
  unfold readResponse messageText
  rw [headLines_headerText h.lines_sound]
  simp [h.status_read, h.fields_read, h.length_announced]

/-- A response that breaks off is not read at all. -/
theorem readResponse_initial (h : WellFramed first lines body status fields) {part : Bytes}
    (hpart : part <+: messageText first lines body) (hne : part ≠ messageText first lines body) :
    readResponse part = none := by
  have htext : messageText first lines body =
      (headerText (first :: lines) ++ [13, 10]) ++ body := by
    simp [messageText]
  rw [htext] at hpart hne
  unfold readResponse
  rcases initial_append hpart with hhead | ⟨rest, rfl, hrest⟩
  · by_cases hwhole : part = headerText (first :: lines) ++ [13, 10]
    · -- the header is complete, and nothing of the body has come
      subst hwhole
      have hbody : body ≠ [] := by
        rintro rfl
        exact hne (List.append_nil _).symm
      rw [headLines_headerText h.lines_sound]
      simp [h.status_read, h.fields_read, h.length_announced, hbody]
    · rw [headLines_initial h.lines_sound hhead hwhole]
  · have hshort : rest.length < body.length := by
      refine lt_of_le_of_ne hrest.length_le ?_
      intro hlength
      exact hne (by rw [hrest.eq_of_length hlength])
    have hread := headLines_headerText h.lines_sound rest
    rw [List.append_assoc, List.cons_append, List.cons_append, List.nil_append, hread]
    simp [h.status_read, h.fields_read, h.length_announced, Nat.not_le.mpr hshort]

end SctpConformance.Library
