import SctpConformance.Library.HttpMessage
import SctpConformance.Json.Emitted
import SctpConformance.Concurrency.Threads
import SctpConformance.Http.Readable

/-!
# Responses on the wire

`WriteHttpResponse` makes one text of a response, and `write_all` hands it to the kernel
piece by piece, for as long as the kernel takes pieces.

Main results:

- Definitions `responseText` and `writeAll`: what is written, and how.
- Theorem `readResponse_writeAll`: a client reads the response, or sees that it is cut off.
- Theorem `run_responses_read`: so it is for every response of every run of the server.
-/

namespace SctpConformance

open Library

variable {c : Catalog}

/-! ## Writing -/

/-- `http_status_text`. -/
def httpStatusText (status : Nat) : CppString :=
  match status with
  | 200 => str "OK"
  | 201 => str "Created"
  | 400 => str "Bad Request"
  | 404 => str "Not Found"
  | 409 => str "Conflict"
  | 500 => str "Internal Server Error"
  | _ => str "Status"

/-- The text that `WriteHttpResponse` writes. -/
def responseText (response : HttpResponse) : CppString :=
  str "HTTP/1.1 " ++ decimal response.status ++ str " " ++ httpStatusText response.status ++
    str "\r\n" ++
    (str "Content-Type: " ++ response.contentType ++ str "\r\n") ++
    (response.headers.flatMap fun header => header.1 ++ str ": " ++ header.2 ++ str "\r\n") ++
    (str "Content-Length: " ++ decimal response.body.length ++ str "\r\n") ++
    str "Connection: close\r\n\r\n" ++ response.body

/-- What `write` returns: the number of bytes it has taken, `EINTR`, or another error. -/
inductive WriteOutcome where
  | wrote (count : Nat)
  | interrupted
  | failed (errno : Errno)
deriving DecidableEq

/-- `write_all`: the bytes that the kernel has taken, and what is returned; nothing is, as
long as the outcomes do not suffice. -/
def writeAll : CppString → List WriteOutcome → CppString × Option Bool
  | [], _ => ([], some true)
  | _, [] => ([], none)
  | data, .interrupted :: outcomes => writeAll data outcomes
  | _, .failed _ :: _ => ([], some false)
  | data, .wrote count :: outcomes =>
      if count = 0 then ([], some false)
      else
        let rest := writeAll (data.drop count) outcomes
        (data.take count ++ rest.1, rest.2)

/-- The bytes taken are an initial part of the text, and the whole of it if and only if
`write_all` succeeds. -/
theorem writeAll_initial (data : CppString) (outcomes : List WriteOutcome) :
    (writeAll data outcomes).1 <+: data ∧
      ((writeAll data outcomes).2 = some true ↔ (writeAll data outcomes).1 = data) := by
  induction outcomes generalizing data with
  | nil => cases data <;> simp [writeAll]
  | cons outcome outcomes ih =>
      cases data with
      | nil => simp [writeAll]
      | cons ch data =>
          cases outcome with
          | interrupted => exact ih (ch :: data)
          | failed errno => simp [writeAll]
          | wrote count =>
              by_cases hcount : count = 0
              · simp [writeAll, hcount]
              · rcases ih ((ch :: data).drop count) with ⟨hpart, hwhole⟩
                have hsplit := List.take_append_drop count (ch :: data)
                simp only [writeAll, if_neg hcount]
                constructor
                · calc
                    _ <+: (ch :: data).take count ++ (ch :: data).drop count :=
                      (List.prefix_append_right_inj _).mpr hpart
                    _ = ch :: data := hsplit
                · calc
                    _ ↔ (writeAll ((ch :: data).drop count) outcomes).1 =
                        (ch :: data).drop count := hwhole
                    _ ↔ (ch :: data).take count ++
                          (writeAll ((ch :: data).drop count) outcomes).1 =
                        (ch :: data).take count ++ (ch :: data).drop count :=
                      (List.append_right_inj _).symm
                    _ ↔ _ := by rw [hsplit]

/-! ## Responses that can be read -/

/-- A header field that is read as it is written, and is not the length. -/
structure CleanField (field : CppString × CppString) : Prop where
  name_ne_nil : field.1 ≠ []
  name_bytes : ∀ ch ∈ field.1, ch ≠ 13 ∧ ch ≠ 58 ∧ isBlank ch = false
  not_length : field.1.map lowerCase ≠ lengthName
  value_bytes : 13 ∉ field.2
  value_trimmed : trimBlanks (32 :: field.2) = field.2

/-- A status of three digits, and header fields that are read as they are written. -/
structure HttpResponse.Framed (response : HttpResponse) : Prop where
  status : 100 ≤ response.status ∧ response.status < 1000
  fields : ∀ field ∈ (str "Content-Type", response.contentType) :: response.headers,
    CleanField field

/-- The header fields of a response. -/
def HttpResponse.fields (response : HttpResponse) : List (CppString × CppString) :=
  (str "Content-Type", response.contentType) :: response.headers ++
    [(str "Content-Length", decimal response.body.length), (str "Connection", str "close")]

/-- The line of a header field. -/
def fieldLine (field : CppString × CppString) : CppString :=
  field.1 ++ 58 :: 32 :: field.2

/-- The first line of a response. -/
def statusLine (status : Nat) : CppString :=
  str "HTTP/1.1 " ++ decimal status ++ str " " ++ httpStatusText status

/-- A response is a message with this first line, its fields and its body. -/
theorem responseText_eq (response : HttpResponse) :
    responseText response =
      messageText (statusLine response.status) (response.fields.map fieldLine) response.body := by
  have hend : str "\r\n" = [13, 10] := by decide
  have hcolon : str ": " = [58, 32] := by decide
  have htype : str "Content-Type: " = str "Content-Type" ++ [58, 32] := by decide
  have hlength : str "Content-Length: " = str "Content-Length" ++ [58, 32] := by decide
  have hclose : str "Connection: close\r\n\r\n" =
      str "Connection" ++ [58, 32] ++ str "close" ++ [13, 10, 13, 10] := by decide
  rw [responseText, hend, hcolon, htype, hlength, hclose]
  simp [messageText, headerText, statusLine, HttpResponse.fields, fieldLine, List.flatMap_map]

/-- A number of three digits. -/
theorem decimal_three {n : Nat} (hlow : 100 ≤ n) (hhigh : n < 1000) :
    ∃ a b c, decimal n = [a, b, c] ∧ isDigit a ∧ isDigit b ∧ isDigit c := by
  have hdecimal : decimal n = [UInt8.ofNat (48 + n / 10 / 10), UInt8.ofNat (48 + n / 10 % 10),
      UInt8.ofNat (48 + n % 10)] := by
    rw [decimal_eq, if_neg (by omega), decimal_eq, if_neg (by omega), decimal_eq,
      if_pos (by omega)]
    rfl
  exact ⟨_, _, _, hdecimal, digit_range (by omega), digit_range (by omega), digit_range (by omega)⟩

/-- The status is read back from the first line. -/
theorem statusCode_statusLine {status : Nat} (hlow : 100 ≤ status) (hhigh : status < 1000) :
    statusCode (statusLine status) = some status := by
  rcases decimal_three hlow hhigh with ⟨a, b, c, hdecimal, ha, hb, hc⟩
  have hversion : str "HTTP/1.1 " = [72, 84, 84, 80, 47, 49, 46, 49, 32] := by decide
  have hblank : str " " = [32] := by decide
  have hread : natOfDigits [a, b, c] = status := by
    rw [← hdecimal, natOfDigits_decimal]
  have hone : isDigit 49 = true := by decide
  rw [statusLine, hversion, hblank, hdecimal]
  simp [statusCode, ha, hb, hc, hone, hread]

/-- A field is read back from its line. -/
theorem headerField_fieldLine {field : CppString × CppString} (hne : field.1 ≠ [])
    (hname : ∀ ch ∈ field.1, ch ≠ 58 ∧ isBlank ch = false)
    (htrimmed : trimBlanks (32 :: field.2) = field.2) :
    headerField (fieldLine field) = some field := by
  have hcolon : (58 : UInt8) ∉ field.1 := fun hmem => (hname 58 hmem).1 rfl
  have hblank : field.1.any isBlank = false := by
    rw [List.any_eq_false]
    intro ch hch
    simp [(hname ch hch).2]
  rw [fieldLine, headerField, splitFirst_append hcolon]
  simp [hne, hblank, htrimmed]

/-- No reason contains a line break. -/
theorem httpStatusText_bytes (status : Nat) : 13 ∉ httpStatusText status := by
  unfold httpStatusText
  split <;> decide

/-- The first line is a line. -/
theorem isHeadLine_statusLine (status : Nat) : IsHeadLine (statusLine status) := by
  have hversion : str "HTTP/1.1 " = 72 :: [84, 84, 80, 47, 49, 46, 49, 32] := by decide
  have hblank : str " " = [32] := by decide
  have hdigits : (13 : UInt8) ∉ decimal status := fun hmem =>
    absurd (decimal_digits status 13 hmem) (by decide)
  constructor
  · rw [statusLine, hversion]
    simp
  · rw [statusLine, hversion, hblank]
    simp [hdigits, httpStatusText_bytes]

/-- A field without line breaks is a line. -/
theorem isHeadLine_fieldLine {field : CppString × CppString} (hname : 13 ∉ field.1)
    (hvalue : 13 ∉ field.2) : IsHeadLine (fieldLine field) := by
  simp [IsHeadLine, fieldLine, hname, hvalue]

/-- Nothing is trimmed of a text without blanks. -/
theorem trimBlanks_solid {text : CppString} (h : ∀ ch ∈ text, isBlank ch = false) :
    trimBlanks (32 :: text) = text := by
  have hkeep : ∀ text : CppString, (∀ ch ∈ text, isBlank ch = false) →
      text.dropWhile isBlank = text := by
    intro text htext
    cases text with
    | nil => rfl
    | cons ch text => simp [htext ch List.mem_cons_self]
  have hblank : isBlank 32 = true := by decide
  have hdrop : (32 :: text).dropWhile isBlank = text := by
    rw [List.dropWhile_cons_of_pos hblank, hkeep text h]
  rw [trimBlanks, hdrop, hkeep text.reverse fun ch hch => h ch (List.mem_reverse.mp hch),
    List.reverse_reverse]

/-- A number has no blanks. -/
theorem decimal_not_blank (n : Nat) : ∀ ch ∈ decimal n, isBlank ch = false := by
  have hall : ∀ ch : UInt8, isDigit ch = true → isBlank ch = false := by
    intro ch hdigit
    simp only [isDigit, Bool.and_eq_true, decide_eq_true_eq] at hdigit
    by_contra hblank
    simp only [isBlank, Bool.not_eq_false, Bool.or_eq_true, decide_eq_true_eq] at hblank
    rcases hblank with rfl | rfl <;> exact absurd hdigit.1 (by decide)
  exact fun ch hch => hall ch (decimal_digits n ch hch)

namespace HttpResponse.Framed

variable {response : HttpResponse} (h : response.Framed)
include h

/-- Each field of a response is read back. -/
theorem fields_sound : ∀ field ∈ response.fields,
    IsHeadLine (fieldLine field) ∧ headerField (fieldLine field) = some field := by
  have hclean : ∀ field ∈ (str "Content-Type", response.contentType) :: response.headers,
      IsHeadLine (fieldLine field) ∧ headerField (fieldLine field) = some field := by
    intro field hfield
    have hsound := h.fields field hfield
    constructor
    · apply isHeadLine_fieldLine _ hsound.value_bytes
      exact fun hmem => (hsound.name_bytes 13 hmem).1 rfl
    · exact headerField_fieldLine hsound.name_ne_nil
        (fun ch hch => (hsound.name_bytes ch hch).2) hsound.value_trimmed
  intro field hfield
  rcases List.mem_append.mp hfield with hfront | hback
  · exact hclean field hfront
  · have hlength := decimal_not_blank response.body.length
    have hreturn : (13 : UInt8) ∉ decimal response.body.length := fun hmem =>
      absurd (decimal_digits _ 13 hmem) (by decide)
    rcases List.mem_cons.mp hback with rfl | hlast
    · have hname : (13 : UInt8) ∉ str "Content-Length" ∧ str "Content-Length" ≠ [] ∧
          ∀ ch ∈ str "Content-Length", ch ≠ 58 ∧ isBlank ch = false := by decide
      exact ⟨isHeadLine_fieldLine hname.1 hreturn,
        headerField_fieldLine hname.2.1 hname.2.2 (trimBlanks_solid hlength)⟩
    · rw [List.mem_singleton.mp hlast]
      exact ⟨isHeadLine_fieldLine (by decide) (by decide),
        headerField_fieldLine (by decide) (by decide) (by decide)⟩

/-- Of all fields only the last but one is the length of the body. -/
theorem announcedLength_fields : announcedLength response.fields = some response.body.length := by
  have hname : (str "Content-Length").map lowerCase = lengthName := by decide
  have hfront : ((str "Content-Type", response.contentType) :: response.headers).find?
      (fun field => decide (field.1.map lowerCase = lengthName)) = none := by
    rw [List.find?_eq_none]
    intro field hfield
    simp [(h.fields field hfield).not_length]
  rw [announcedLength, HttpResponse.fields, List.find?_append, hfront]
  simpa [hname, decimal_ne_nil, natOfDigits_decimal] using decimal_digits response.body.length

/-- A response is framed so that it can be read back. -/
theorem wellFramed : WellFramed (statusLine response.status) (response.fields.map fieldLine)
    response.body response.status response.fields where
  lines_sound line hline := by
    rcases List.mem_cons.mp hline with rfl | hmem
    · exact isHeadLine_statusLine _
    · rcases List.mem_map.mp hmem with ⟨field, hfield, rfl⟩
      exact (h.fields_sound field hfield).1
  status_read := statusCode_statusLine h.status.1 h.status.2
  fields_read := by
    have hall : ∀ fields : List (CppString × CppString),
        (∀ field ∈ fields, headerField (fieldLine field) = some field) →
        (fields.map fieldLine).mapM headerField = some fields := by
      intro fields hfields
      induction fields with
      | nil => rfl
      | cons field fields ih =>
          rw [List.map_cons, List.mapM_cons, hfields field List.mem_cons_self,
            ih fun field hfield => hfields field (List.mem_cons_of_mem _ hfield)]
          rfl
    exact hall _ fun field hfield => (h.fields_sound field hfield).2
  length_announced := h.announcedLength_fields

end HttpResponse.Framed

/-- A client of whatever the kernel has taken reads the response, or sees that it is cut
off. -/
theorem readResponse_writeAll {response : HttpResponse} (h : response.Framed)
    (outcomes : List WriteOutcome) :
    readResponse (writeAll (responseText response) outcomes).1 =
      if (writeAll (responseText response) outcomes).2 = some true then
        some { status := response.status, fields := response.fields, body := response.body }
      else none := by
  rcases writeAll_initial (responseText response) outcomes with ⟨hpart, hwhole⟩
  split
  · rename_i htrue
    rw [hwhole.mp htrue, responseText_eq]
    exact readResponse_messageText h.wellFramed
  · rename_i hfalse
    rw [hwhole, responseText_eq] at hfalse
    rw [responseText_eq] at hpart ⊢
    exact readResponse_initial h.wellFramed hpart hfalse

/-! ## The responses of the server -/

/-- The type of JSON is a clean field. -/
theorem clean_json : CleanField (str "Content-Type", str "application/json") := by
  constructor <;> decide

/-- So is the type of pages. -/
theorem clean_html : CleanField (str "Content-Type", str "text/html; charset=utf-8") := by
  constructor <;> decide

/-- A response with JSON is framed. -/
theorem framed_json {status : Nat} (h : 100 ≤ status ∧ status < 1000) (body : CppString) :
    ({ status := status, body := body } : HttpResponse).Framed where
  status := h
  fields field hfield := by
    rw [List.mem_singleton.mp hfield]
    exact clean_json

/-- So is a page. -/
theorem framed_html (body : CppString) : (htmlResponse body).Framed where
  status := ⟨by simp [htmlResponse], by simp [htmlResponse]⟩
  fields field hfield := by
    rw [List.mem_singleton.mp hfield]
    exact clean_html

/-- So is an error. -/
theorem framed_error {status : Nat} (h : 100 ≤ status ∧ status < 1000) (message : CppString) :
    (errorResponse status message).Framed :=
  framed_json h _

/-- A response that a section is about to write can be read. -/
def Section.Framed : Section c → Prop
  | .respond _ response => response.Framed
  | _ => True

/-- Workers answer nothing. -/
theorem WorkerStep.framed_toSection (next : WorkerStep) (x : Target c) :
    (next.toSection x).Framed := by
  cases next <;> trivial

/-- A refused report of success is answered with a status of three digits. -/
theorem FeatureExecution.complete_status {e : FeatureExecution} {feature : FeatureDefinition}
    {report : CompleteReport} {now : TimePoint} {status : Nat} {message : CppString}
    (h : e.complete feature report now = .error (status, message)) :
    status = 400 ∨ status = 409 := by
  unfold FeatureExecution.complete at h
  dsimp only at h
  (repeat' split at h) <;> simp_all

/-- So is a refused report of missing support. -/
theorem FeatureExecution.markUnsupported_status {e : FeatureExecution}
    {report : UnsupportedReport} {now : TimePoint} {status : Nat} {message : CppString}
    (h : e.markUnsupported report now = .error (status, message)) : status = 409 := by
  unfold FeatureExecution.markUnsupported at h
  (repeat' split at h) <;> simp_all

section

variable {host : Host} {pages : Pages c}

/-- A failed start is answered with a framed response. -/
theorem framed_rollback (h : Handler c) (fds : List Nat) (error : CppString) :
    ∀ s ∈ rollback h fds error, s.Framed := by
  intro s hs
  rcases List.mem_append.mp hs with hclose | hrespond
  · rcases List.mem_map.mp hclose with ⟨fd, -, rfl⟩
    trivial
  · rw [List.mem_singleton.mp hrespond]
    exact framed_error (by decide) _

/-- A single section. -/
theorem framed_singleton {s : Section c} (h : s.Framed) : ∀ t ∈ [s], t.Framed := by
  intro t ht
  rw [List.mem_singleton.mp ht]
  exact h

/-- The sections that finish a feature answer nothing. -/
theorem framed_finish (x : Target c) : ∀ s ∈ finish x, s.Framed := by
  simp [finish, Section.Framed]

/-- A refused request is answered with a framed response. -/
theorem framed_refusal (client : Nat) {status : Nat} (h : 100 ≤ status ∧ status < 1000)
    (message : CppString) :
    ∀ s ∈ ([.respond client (errorResponse status message)] : List (Section c)), s.Framed :=
  framed_singleton (framed_error h message)

/-- So is one that is served. -/
theorem framed_answer (client : Nat) (body : CppString) :
    ∀ s ∈ ([.respond client { body := body }] : List (Section c)), s.Framed :=
  framed_singleton (framed_json (by decide) body)

/-- Whatever a section goes on with can be read when it is written. -/
theorem exec_framed (σ : Shared c) (s : Section c) (input : Input) :
    ∀ t ∈ (exec host σ s input).next, t.Framed := by
  cases s with
  | maybeTimeout x =>
      simp only [exec]
      split
      · simp
      · exact framed_finish x
  | takeActiveFds x => simp [exec, Section.Framed]
  | startGuard h =>
      simp only [exec]
      split
      · exact framed_refusal _ (by decide) _
      · exact framed_singleton trivial
  | startPending h =>
      simp only [exec]
      (repeat' split) <;>
        first | exact framed_refusal _ (by decide) _ | exact framed_singleton trivial
  | openSocket h sockets =>
      simp only [exec]
      (repeat' split) <;> first | exact framed_rollback _ _ _ | exact framed_singleton trivial
  | setupSocket h sockets fd =>
      simp only [exec]
      (repeat' split) <;> first | exact framed_rollback _ _ _ | exact framed_singleton trivial
  | complete h body =>
      simp only [exec]
      split
      · exact framed_refusal _ (by decide) _
      · split
        · rename_i status message hrefused
          rcases FeatureExecution.complete_status hrefused with rfl | rfl
          · exact framed_refusal _ (by decide) _
          · exact framed_refusal _ (by decide) _
        · split
          · exact List.forall_mem_append.mpr ⟨framed_finish _, framed_singleton trivial⟩
          · exact framed_singleton trivial
  | unsupported h body =>
      simp only [exec]
      split
      · exact framed_refusal _ (by decide) _
      · split
        · rename_i status message hrefused
          rw [FeatureExecution.markUnsupported_status hrefused]
          exact framed_refusal _ (by decide) _
        · exact List.forall_mem_append.mpr ⟨framed_finish _, framed_singleton trivial⟩
  | readFeature h => exact framed_answer _ _
  | readSession session client => exact framed_answer _ _
  | summary session client stream left entries =>
      cases left with
      | nil =>
          simp only [exec]
          split
          · exact framed_singleton trivial
          · exact framed_answer _ _
      | cons r left => simp [exec, Section.Framed]
  | receive x state =>
      simp only [exec]
      split
      · exact framed_singleton (WorkerStep.framed_toSection _ _)
      · exact framed_singleton trivial
  | receiving x state => exact framed_singleton (WorkerStep.framed_toSection _ _)
  | send x state =>
      simp only [exec]
      split <;> exact framed_singleton (WorkerStep.framed_toSection _ _)
  | markFailed x message =>
      simp only [exec]
      split
      · simp
      · exact framed_finish x
  | markNetworkComplete x =>
      simp only [exec]
      split
      · simp
      · split
        · exact framed_finish x
        · exact framed_singleton trivial
  | writeEvent session client event =>
      simp only [exec]
      split <;> exact framed_singleton trivial
  | activate h sockets =>
      simp only [exec]
      split <;> exact framed_singleton trivial
  | _ => simp [exec, Section.Framed]

/-- Of the programs of handlers only a request that is answered at once has its response. -/
def Request.Framed : Request c → Prop
  | .other response => response.Framed
  | _ => True

/-- A handler answers with framed responses, if the response it was given is. -/
theorem handlerProgram_framed (client : Nat) {request : Request c} (h : request.Framed) :
    ∀ s ∈ handlerProgram client request, s.Framed := by
  cases request with
  | feature x request =>
      cases request <;> simp [handlerProgram, Section.Framed, framed_error]
  | other response => exact framed_singleton h
  | _ => simp [handlerProgram, Section.Framed]

/-- The router gives handlers framed responses only. -/
theorem clientRoute_framed {ρ : Registry c} {request : HttpRequest} {asked : Request c}
    (h : clientRoute pages ρ request = .request asked) : asked.Framed := by
  have herror : ∀ message, (Request.other (errorResponse 404 message) : Request c).Framed :=
    fun message => framed_error (by decide) message
  unfold clientRoute route sessionRoute at h
  dsimp only at h
  (repeat' split at h) <;> cases h
  all_goals first
    | exact trivial
    | exact herror _
    | exact framed_html _
    | exact framed_json (by decide) _

/-- The responses of the section are framed. -/
def HttpSection.Framed : HttpSection c → Prop
  | .handler s => s.Framed
  | .readCreated _ _ => True

/-- The sections of a handler. -/
theorem framed_handlers {sections : List (Section c)} (h : ∀ s ∈ sections, s.Framed) :
    ∀ s ∈ sections.map HttpSection.handler, s.Framed := by
  intro s hs
  rcases List.mem_map.mp hs with ⟨s', hs', rfl⟩
  exact h s' hs'

/-- A connection starts with framed sections. -/
theorem httpArrive_framed (ρ : Registry c) (arrival : Arrival) :
    ∀ s ∈ (httpArrive host pages ρ arrival).2, s.Framed := by
  have hprogram : ∀ {request : Request c}, request.Framed →
      ∀ s ∈ (handlerProgram ρ.shared.descriptors.lowestFree request).map HttpSection.handler,
        s.Framed :=
    fun h => framed_handlers (handlerProgram_framed _ h)
  have herror : ∀ {status : Nat} (message : CppString), 100 ≤ status ∧ status < 1000 →
      (Request.other (errorResponse status message) : Request c).Framed :=
    fun message h => framed_error h message
  unfold httpArrive handleClient
  dsimp only
  split
  · exact hprogram (herror _ (by decide))
  · split
    · split
      · exact hprogram (herror _ (by decide))
      · exact hprogram (herror _ (by decide))
    · split
      · exact hprogram (clientRoute_framed ‹_›)
      · split
        · exact hprogram (herror _ (by decide))
        · simp [HttpSection.Framed]

/-- A section leaves framed sections behind. -/
theorem httpExec_framed (ρ : Registry c) (s : HttpSection c) (input : Input) :
    (httpExec host ρ s input).All (fun _ => True) HttpSection.Framed := by
  cases s with
  | handler s =>
      refine ⟨trivial, framed_handlers (exec_framed ρ.shared s input), ?_⟩
      intro program hprogram
      rcases Option.map_eq_some_iff.mp hprogram with ⟨sections, hlaunch, rfl⟩
      rcases exec_launch hlaunch with ⟨handler, sockets, worker, -, -, rfl⟩
      exact framed_handlers (framed_singleton (WorkerStep.framed_toSection _ _))
  | readCreated session client =>
      refine .of_next trivial ?_
      intro s hs
      rw [List.mem_singleton.mp hs]
      exact framed_json (by decide) _

/-- The response that a section writes. -/
def HttpSection.response : HttpSection c → Option HttpResponse
  | .handler (.respond _ response) => some response
  | _ => none

/-- The response that a transition writes. -/
def sentResponse (τ : HttpTransition c) : Option HttpResponse :=
  τ.head?.bind HttpSection.response

/-- In every run each response reaches its client as it is, or is seen to be cut off,
however the kernel takes the bytes. -/
theorem run_responses_read {start last : HttpState c} {run : List (HttpTransition c)}
    (hstart : HttpInitial start) (hrun : HttpRun host pages start run last) :
    ∀ τ ∈ run, ∀ response, sentResponse τ = some response → ∀ outcomes,
      readResponse (writeAll (responseText response) outcomes).1 =
        if (writeAll (responseText response) outcomes).2 = some true then
          some { status := response.status, fields := response.fields, body := response.body }
        else none := by
  intro τ hτ response hsent
  rcases hrun.before hτ with ⟨front, back, rfl, hfront⟩
  have hinitial : start.All (fun _ => True) HttpSection.Framed := by
    refine ⟨trivial, ?_⟩
    intro i s hs
    rw [hstart.quiet i] at hs
    contradiction
  have hsource : τ.source.All (fun _ => True) HttpSection.Framed := by
    refine Run.invariant (C := fun _ => True) ?_ hfront (fun _ _ => trivial) hinitial
    intro τ' hstep _ hbefore
    refine System.step_all hstep hbefore ?_ ?_
    · exact fun arrival _ => ⟨trivial, httpArrive_framed _ arrival⟩
    · exact fun i input head rest _ _ _ => httpExec_framed _ head input
  rcases Option.bind_eq_some_iff.mp hsent with ⟨s, hhead, hresponse⟩
  have hs : s.Framed := by
    unfold Transition.head? at hhead
    split at hhead
    · contradiction
    · exact hsource.threads _ s (List.mem_of_mem_head? hhead)
  unfold HttpSection.response at hresponse
  split at hresponse
  · cases hresponse
    exact readResponse_writeAll hs
  · contradiction

end

/-- A client creates a session, and goes away after twelve bytes of the response. -/
theorem createRun_response_read : ∃ last,
    HttpRun sampleHost samplePages (blankServer sampleCatalog) (createRun 97) last ∧
      ∃ τ ∈ createRun 97, ∃ response, sentResponse τ = some response ∧
        readResponse (writeAll (responseText response)
          [.interrupted, .wrote 12, .failed (.other 32)]).1 = none := by
  have hsent : (createRun 97).any (fun τ => (sentResponse τ).any fun response =>
      (writeAll (responseText response) [.interrupted, .wrote 12, .failed (.other 32)]).2 ==
        some false) = true := by
    decide
  rcases createRun_run 97 (by decide) with ⟨last, hrun⟩
  rcases List.any_eq_true.mp hsent with ⟨τ, hτ, hany⟩
  rcases (Option.any_eq_true _ _).mp hany with ⟨response, hresponse, hcut⟩
  refine ⟨last, hrun, τ, hτ, response, hresponse, ?_⟩
  rw [run_responses_read (blankServer_initial sampleCatalog) hrun τ hτ response hresponse,
    eq_of_beq hcut, if_neg (by decide)]

end SctpConformance
