import SctpConformance.Concurrency.StoredTexts
import SctpConformance.Http.Server

/-!
# The bodies of a run

The server has one way to let bytes that are not UTF-8 into its responses: the raw bytes of
a string in a request body.  As long as every accepted body leaves only UTF-8 in the
strings that are kept, every JSON text that is sent is valid.

Main results:

- Definition `KeepsUtf8`: what an accepted request leaves behind is in UTF-8.
- Theorem `keepsUtf8_of_bodies`: bodies in UTF-8 leave only UTF-8 behind.
- Theorem `sentJson_valid`: in a run of such steps every JSON text that is sent is valid.
- Theorem `sentJson_not_valid`: a session name can make a body invalid.
-/

namespace SctpConformance

open Library

variable {c : Catalog}

/-! ## Steps that leave only UTF-8 behind -/

/-- If the request creates a session, the names of the session are in UTF-8. -/
def Arrival.KeepsUtf8 (arrival : Arrival) : Prop :=
  ∀ ending pieces request params, arrival.connection = .reads ending pieces →
    readHttpRequest ending pieces = .ok request → request.method = str "POST" →
      request.path = str "/v1/sessions" → parseSimpleJsonObject request.body = .ok params →
        IsUtf8 (paramValue params "agent_name") ∧ IsUtf8 (paramValue params "environment_name")

/-- What the step takes out of a body and keeps is in UTF-8. -/
def KeepsUtf8 (τ : HttpTransition c) : Prop :=
  match τ.action with
  | .arrive arrival => arrival.KeepsUtf8
  | .run i input => ∀ s, (τ.source.threads i).head? = some (.handler s) →
      s.KeepsUtf8 τ.source.shared.shared input

/-- The body that the step reads, if it reads one, is in UTF-8. -/
def BodyUtf8 (τ : HttpTransition c) : Prop :=
  match τ.action with
  | .arrive arrival => ∀ ending pieces request, arrival.connection = .reads ending pieces →
      readHttpRequest ending pieces = .ok request → IsUtf8 request.body
  | .run i _ =>
      (∀ h body, (τ.source.threads i).head? = some (.handler (.complete h body)) → IsUtf8 body) ∧
      ∀ h body, (τ.source.threads i).head? = some (.handler (.unsupported h body)) → IsUtf8 body

/-- Bodies in UTF-8 leave only UTF-8 behind. -/
theorem keepsUtf8_of_bodies {τ : HttpTransition c} (h : BodyUtf8 τ) : KeepsUtf8 τ := by
  unfold BodyUtf8 at h
  unfold KeepsUtf8
  split
  · rename_i arrival haction
    rw [haction] at h
    intro ending pieces request params hconnection hrequest _ _ hparams
    have hbody := h ending pieces request hconnection hrequest
    exact ⟨parseSimpleJsonObject_utf8 hbody hparams _, parseSimpleJsonObject_utf8 hbody hparams _⟩
  · rename_i i input haction
    rw [haction] at h
    intro s hhead
    cases s with
    | complete target body =>
        intro report accepted hreport _
        exact CompleteReport.kept_utf8 (parseCompleteReport_utf8 (h.1 target body hhead) hreport) _
    | unsupported target body =>
        intro report accepted hreport _
        exact parseUnsupportedReport_utf8 (h.2 target body hhead) hreport
    | _ => exact trivial

/-! ## Requests -/

/-- The error of a request that cannot be read. -/
theorem readHttpRequest_error_utf8 {ending : ReadEnd} {pieces : List CppString} {error : CppString}
    (h : readHttpRequest ending pieces = .error error) : IsUtf8 error := by
  have hheader : ∀ pieces raw, readHeader ending pieces raw = .error error → IsUtf8 error := by
    intro pieces
    induction pieces with
    | nil =>
        intro raw hread
        rw [readHeader] at hread
        split at hread
        · contradiction
        · cases hread
          cases ending <;> exact isUtf8_str _
    | cons piece pieces ih =>
        intro raw hread
        rw [readHeader] at hread
        split at hread
        · contradiction
        · split at hread
          · cases hread
            exact isUtf8_str _
          · exact ih _ hread
  have hbody : ∀ length pieces body, readBody ending length pieces body = .error error →
      IsUtf8 error := by
    intro length pieces
    induction pieces with
    | nil =>
        intro body hread
        rw [readBody] at hread
        split at hread
        · cases hread
          cases ending <;> exact isUtf8_str _
        · contradiction
    | cons piece pieces ih =>
        intro body hread
        rw [readBody] at hread
        split at hread
        · exact ih _ hread
        · contradiction
  unfold readHttpRequest at h
  split at h
  · rename_i hread
    cases h
    exact hheader _ _ hread
  · split at h
    · rename_i hhead
      cases h
      unfold parseHead at hhead
      split at hhead
      · cases hhead
        exact isUtf8_str _
      · split at hhead
        · cases hhead
          exact isUtf8_str _
        · contradiction
    · split at h
      · rename_i hread
        cases h
        exact hbody _ _ _ hread
      · contradiction

/-- If a request is answered at once with JSON, the body is valid. -/
def Request.Readable : Request c → Prop
  | .other response => response.contentType = str "application/json" → ValidJson response.body
  | _ => True

/-- A handler stores and answers readable texts, if its request is readable. -/
theorem handlerProgram_readable (client : Nat) {request : Request c} (h : request.Readable) :
    ∀ s ∈ handlerProgram client request, s.Readable := by
  have hunknown : IsUtf8 (str "unknown route") := isUtf8_str _
  cases request with
  | feature x request =>
      cases request <;> simp [handlerProgram, Section.Readable, errorResponse,
        jsonError_valid hunknown]
  | other response => exact readable_singleton h
  | _ => simp [handlerProgram, Section.Readable]

/-- An error is readable. -/
theorem readable_error (status : Nat) {message : CppString} (h : IsUtf8 message) :
    (Request.other (errorResponse status message) : Request c).Readable :=
  fun _ => jsonError_valid h

/-- So is a page. -/
theorem readable_html (body : CppString) :
    (Request.other (htmlResponse body) : Request c).Readable := by
  intro h
  exact absurd h (by simp only [htmlResponse]; decide)

/-- The routes of a session give readable requests. -/
theorem sessionRoute_readable (parts : List CppString) (request : HttpRequest) (session : Nat) :
    (sessionRoute c parts request session).Readable := by
  unfold sessionRoute
  repeat' split
  all_goals first | exact trivial | exact readable_error _ (isUtf8_str _)

/-- So does the router. -/
theorem clientRoute_readable {pages : Pages c} (hcatalog : c.Utf8) {ρ : Registry c}
    {request : HttpRequest} {asked : Request c}
    (h : clientRoute pages ρ request = .request asked) : asked.Readable := by
  have hhealth : ValidJson (str "\x7b\"ok\":true\x7d") := by
    have htext : str "\x7b\"ok\":true\x7d" = (Json.object [(str "ok", .bool true)]).text := by
      decide
    rw [htext]
    apply Json.validJson_text
    simp
  unfold clientRoute route at h
  dsimp only at h
  repeat' split at h
  all_goals cases h
  all_goals first
    | exact trivial
    | exact readable_error _ (isUtf8_str _)
    | exact readable_html _
    | exact sessionRoute_readable _ _ _
    | exact fun _ => hhealth
    | exact fun _ => featuresJson_valid hcatalog

/-- Sessions are created by `POST /v1/sessions`. -/
theorem clientRoute_createSession {pages : Pages c} {ρ : Registry c} {request : HttpRequest}
    {body : CppString} (h : clientRoute pages ρ request = .createSession body) :
    request.method = str "POST" ∧ request.path = str "/v1/sessions" ∧ request.body = body := by
  unfold clientRoute route at h
  dsimp only at h
  repeat' split at h
  all_goals cases h
  rename_i hcreate
  exact ⟨hcreate.1, hcreate.2, rfl⟩

/-! ## Runs -/

/-- The identifier of a new session is UTF-8. -/
theorem randomId_utf8 (digits : Fin 16 → Fin 16) : IsUtf8 (randomId digits) := by
  have hdigit : ∀ d : Fin 16, (str "0123456789abcdef").getD d 48 < 0x80 := by decide
  apply isUtf8_ascii
  intro b hb
  rcases List.mem_map.mp hb with ⟨i, -, rfl⟩
  exact hdigit (digits i)

/-- A new session is readable if the two names of its body are. -/
theorem newSession_readable {id : CppString} {params : List (CppString × CppString)}
    {now : TimePoint} (hid : IsUtf8 id) (hagent : IsUtf8 (paramValue params "agent_name"))
    (henvironment : IsUtf8 (paramValue params "environment_name")) :
    (newSession (c := c) id params now).Readable where
  texts := by
    simp [Session.texts, newSession, hid, hagent, henvironment, isUtf8_nil]
  features _ := FeatureExecution.readable_default

/-- Everything that the session table refers to can be written. -/
def Registry.Readable (ρ : Registry c) : Prop :=
  ρ.shared.Readable

/-- The texts of the section are readable. -/
def HttpSection.Readable : HttpSection c → Prop
  | .handler s => s.Readable
  | .readCreated _ _ => True

/-- The sections of a handler. -/
theorem readable_handlers {sections : List (Section c)} (h : ∀ s ∈ sections, s.Readable) :
    ∀ s ∈ sections.map HttpSection.handler, s.Readable := by
  intro s hs
  rcases List.mem_map.mp hs with ⟨s', hs', rfl⟩
  exact h s' hs'

/-- A readable session can be added. -/
theorem Registry.Readable.insertSession {ρ : Registry c} (hρ : ρ.Readable) {session : Session c}
    (h : session.Readable) : (ρ.insertSession session).Readable := by
  intro number
  by_cases hnumber : number = ρ.created
  · subst hnumber
    simpa only [Registry.insertSession, Function.update_self] using h
  · simpa only [Registry.insertSession, Function.update_of_ne hnumber] using hρ number

section

variable {host : Host} {pages : Pages c} (hcatalog : c.Utf8) (hhost : host.Utf8)
include hcatalog hhost

/-- A connection whose body is UTF-8 leaves readable texts. -/
theorem httpArrive_readable {ρ : Registry c} (hρ : ρ.Readable) {arrival : Arrival}
    (hkeeps : arrival.KeepsUtf8) : (httpArrive host pages ρ arrival).1.Readable ∧
      ∀ s ∈ (httpArrive host pages ρ arrival).2, s.Readable := by
  have hprogram : ∀ {request : Request c}, request.Readable →
      ∀ s ∈ (handlerProgram ρ.shared.descriptors.lowestFree request).map HttpSection.handler,
        s.Readable := by
    intro request h
    exact readable_handlers (handlerProgram_readable _ h)
  unfold httpArrive handleClient
  dsimp only
  split
  · exact ⟨hρ, hprogram (readable_error _ (hhost.strerror _))⟩
  · rename_i ending pieces hconnection
    split
    · rename_i error herror
      exact ⟨hρ, hprogram (readable_error _ (readHttpRequest_error_utf8 herror))⟩
    · rename_i request hrequest
      split
      · rename_i asked hasked
        exact ⟨hρ, hprogram (clientRoute_readable hcatalog hasked)⟩
      · rename_i body hcreate
        rcases clientRoute_createSession hcreate with ⟨hmethod, hpath, rfl⟩
        split
        · rename_i fault hfault
          have hreported := (parseSimpleJsonObject_reported request.body).utf8 hfault
          exact ⟨hρ, hprogram (readable_error _ hreported)⟩
        · rename_i params hparams
          rcases hkeeps ending pieces request params hconnection hrequest hmethod hpath hparams with
            ⟨hagent, henvironment⟩
          refine ⟨Registry.Readable.insertSession hρ
            (newSession_readable (randomId_utf8 _) hagent henvironment), ?_⟩
          intro s hs
          rw [List.mem_singleton.mp hs]
          exact trivial

/-- So does each section. -/
theorem httpExec_readable {ρ : Registry c} (hρ : ρ.Readable) {s : HttpSection c}
    (hs : s.Readable) (input : Input)
    (hkeeps : ∀ s', s = .handler s' → s'.KeepsUtf8 ρ.shared input) :
    (httpExec host ρ s input).All Registry.Readable HttpSection.Readable := by
  cases s with
  | handler s =>
      have heffect := exec_readable hhost hcatalog hρ hs input (hkeeps s rfl)
      refine ⟨heffect.shared, readable_handlers heffect.next, ?_⟩
      intro program hprogram
      rcases Option.map_eq_some_iff.mp hprogram with ⟨sections, hlaunch, rfl⟩
      exact readable_handlers (heffect.launch sections hlaunch)
  | readCreated session client =>
      apply Effect.All.of_next hρ
      intro s hs
      rw [List.mem_singleton.mp hs]
      intro _
      apply sessionJson_valid hcatalog (hρ session).texts
      intro entry hentry
      rcases List.mem_map.mp hentry with ⟨r, -, rfl⟩
      exact (hρ session).features r

/-- One step that leaves only UTF-8 behind keeps the server readable. -/
theorem step_readable {τ : HttpTransition c}
    (hstep : (httpServer host pages).step τ.source τ.action = some τ.target)
    (hkeeps : KeepsUtf8 τ) (h : τ.source.All Registry.Readable HttpSection.Readable) :
    τ.target.All Registry.Readable HttpSection.Readable := by
  apply System.step_all hstep h
  · intro arrival haction
    rw [KeepsUtf8, haction] at hkeeps
    exact httpArrive_readable hcatalog hhost h.shared hkeeps
  · intro i input head rest haction hhead hhead_readable
    rw [KeepsUtf8, haction] at hkeeps
    apply httpExec_readable hcatalog hhost h.shared hhead_readable
    intro s hs
    apply hkeeps s
    rw [hhead, hs]
    rfl

/-- In a run whose accepted requests leave only UTF-8 behind, every JSON text that is
sent is valid. -/
theorem sentJson_valid {start last : HttpState c} {run : List (HttpTransition c)}
    (hstart : HttpInitial start) (hrun : HttpRun host pages start run last)
    (hkeeps : ∀ τ ∈ run, KeepsUtf8 τ) :
    ∀ τ ∈ run, ∀ text, sentJson τ = some text → ValidJson text := by
  have hinitial : start.All Registry.Readable HttpSection.Readable := by
    constructor
    · intro session
      rw [hstart.blank session]
      exact newSession_readable isUtf8_nil isUtf8_nil isUtf8_nil
    · intro i s hs
      rw [hstart.quiet i] at hs
      contradiction
  intro τ hτ text hsent
  -- The section that sends the text was readable when it came to its turn.
  rcases hrun.before hτ with ⟨front, back, rfl, hfront⟩
  have hsource : τ.source.All Registry.Readable HttpSection.Readable := by
    refine Run.invariant (C := KeepsUtf8) ?_ hfront ?_ hinitial
    · intro τ' hstep hτ' hbefore
      exact step_readable hcatalog hhost hstep hτ' hbefore
    · intro τ' hτ'
      exact hkeeps τ' (List.mem_append_left _ hτ')
  rcases Option.bind_eq_some_iff.mp hsent with ⟨s, hhead, hjson⟩
  have hs : s.Readable := by
    unfold Transition.head? at hhead
    split at hhead
    · contradiction
    · exact hsource.threads _ s (List.mem_of_mem_head? hhead)
  unfold HttpSection.json at hjson
  split at hjson
  · split at hjson
    · rename_i htype
      cases hjson
      exact hs htype
    · contradiction
  · cases hjson
    exact hs
  · contradiction

end

/-! ## Two runs -/

/-- A test for steps that bring only ASCII. -/
def bringsAscii (τ : HttpTransition c) : Bool :=
  match τ.action with
  | .arrive arrival =>
      match arrival.connection with
      | .noTimeout _ => true
      | .reads ending pieces =>
          match readHttpRequest ending pieces with
          | .error _ => true
          | .ok request => request.body.all (· < 0x80)
  | .run i _ =>
      match (τ.source.threads i).head? with
      | some (.handler (.complete _ body)) => body.all (· < 0x80)
      | some (.handler (.unsupported _ body)) => body.all (· < 0x80)
      | _ => true

/-- A body of ASCII bytes is UTF-8. -/
theorem bodyUtf8_of_ascii {τ : HttpTransition c} (h : bringsAscii τ = true) : BodyUtf8 τ := by
  have hascii : ∀ {body : CppString}, body.all (· < 0x80) = true → IsUtf8 body := by
    intro body hbody
    apply isUtf8_ascii
    simpa using hbody
  unfold bringsAscii at h
  unfold BodyUtf8
  split
  · rename_i arrival haction
    rw [haction] at h
    intro ending pieces request hconnection hrequest
    simp only [hconnection, hrequest] at h
    exact hascii h
  · rename_i i input haction
    rw [haction] at h
    constructor
    · intro target body hhead
      simp only [hhead] at h
      exact hascii h
    · intro target body hhead
      simp only [hhead] at h
      exact hascii h

/-- A client creates a session for an agent whose name is one byte. -/
def createWithName (name : UInt8) : List HttpAction :=
  [.arrive { connection := .reads .closed [str
      "POST /v1/sessions HTTP/1.1\r\nContent-Length: 18\r\n\r\n\x7b\"agent_name\":\"" ++ [name] ++
        str "\"\x7d"] },
    .run 0 {}, .run 0 {}]

/-- A run in which a session with this name is created. -/
def createRun (name : UInt8) : List (HttpTransition sampleCatalog) :=
  record (httpServer sampleHost samplePages).step (blankServer sampleCatalog) (createWithName name)

/-- The server without sessions is in its initial state. -/
theorem blankServer_initial (c : Catalog) : HttpInitial (blankServer c) where
  created := rfl
  empty := rfl
  blank _ := rfl
  quiet _ := rfl
  closed := lookup_standard 4

/-- The actions of the client are a run of the server. -/
theorem createRun_run (name : UInt8) (h : (execute (httpServer sampleHost samplePages).step
    (blankServer sampleCatalog) (createWithName name)).isSome = true) :
    ∃ last, HttpRun sampleHost samplePages (blankServer sampleCatalog) (createRun name) last := by
  rcases Option.isSome_iff_exists.mp h with ⟨last, hlast⟩
  exact ⟨last, run_record hlast⟩

theorem sentJson_valid_ascii : ∃ last,
    HttpRun sampleHost samplePages (blankServer sampleCatalog) (createRun 97) last ∧
      ∃ τ ∈ createRun 97, ∃ text, sentJson τ = some text ∧ ValidJson text := by
  have hascii : ∀ feature ∈ sampleCatalog.features, ∀ text ∈ feature.texts,
      ∀ b ∈ text, b < 0x80 := by
    decide
  have hcatalog : sampleCatalog.Utf8 := fun feature hfeature text htext =>
    isUtf8_ascii (hascii feature hfeature text htext)
  have hhost : sampleHost.Utf8 := by
    constructor
    · simp [sampleHost]
    · exact allUtf8_nil
    · exact fun _ => isUtf8_str _
  have hkeeps : ∀ τ ∈ createRun 97, KeepsUtf8 τ := by
    have hall : (createRun 97).all bringsAscii = true := by decide
    intro τ hτ
    exact keepsUtf8_of_bodies (bodyUtf8_of_ascii (List.all_eq_true.mp hall τ hτ))
  have hsent : (createRun 97).any (fun τ => (sentJson τ).isSome) = true := by decide
  rcases createRun_run 97 (by decide) with ⟨last, hrun⟩
  rcases List.any_eq_true.mp hsent with ⟨τ, hτ, hsome⟩
  rcases Option.isSome_iff_exists.mp hsome with ⟨text, htext⟩
  exact ⟨last, hrun, τ, hτ, text, htext, sentJson_valid hcatalog hhost
    (blankServer_initial sampleCatalog) hrun hkeeps τ hτ text htext⟩

/-- The name of an agent is copied into the response byte by byte. -/
theorem sentJson_not_valid : HttpInitial (blankServer sampleCatalog) ∧
    ∃ last, HttpRun sampleHost samplePages (blankServer sampleCatalog) (createRun 255) last ∧
      ∃ τ ∈ createRun 255, ∃ text, sentJson τ = some text ∧ ¬ValidJson text := by
  have hsent : (createRun 255).any
      (fun τ => (sentJson τ).any fun text => text.contains 255) = true := by
    decide
  rcases createRun_run 255 (by decide) with ⟨last, hrun⟩
  rcases List.any_eq_true.mp hsent with ⟨τ, hτ, hany⟩
  rcases (Option.any_eq_true _ _).mp hany with ⟨text, htext, hmem⟩
  refine ⟨blankServer_initial sampleCatalog, last, hrun, τ, hτ, text, htext, ?_⟩
  intro hvalid
  -- No text in UTF-8 contains this byte.
  have hlt := hvalid.1.lt (List.contains_iff_mem.mp hmem)
  exact absurd hlt (by decide)

end SctpConformance
