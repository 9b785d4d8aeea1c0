import SctpConformance.Server.Sequential

/-!
# Routes

`HandleRequest` from the method and the path of a request on.  The session
table maps ids to the numbers under which the shared state keeps the sessions;
`CreateSession` takes the next number.

Main results:

- Definition `splitPath`: the parts of a path.
- Definition `route`: what a request asks for, once the session and the feature
  it names have been looked up.
- Definition `handleHttp`: the handler of all requests but summary streams.
-/

namespace SctpConformance

variable {c : Catalog}

/-! ## Paths -/

/-- The loop of `split_path`. -/
def splitPathLoop : CppString → CppString → List CppString → List CppString
  | [], current, parts => if current = [] then parts else parts ++ [current]
  | ch :: rest, current, parts =>
      if ch = 63 then if current = [] then parts else parts ++ [current]
      else if ch = 47 then
        if current = [] then splitPathLoop rest [] parts
        else splitPathLoop rest [] (parts ++ [current])
      else splitPathLoop rest (current ++ [ch]) parts

/-- The parts of a path between slashes, up to a question mark. -/
def splitPath (path : CppString) : List CppString :=
  splitPathLoop path [] []

/-! ## The session table -/

/-- A request that was read. -/
structure HttpRequest where
  method : CppString
  path : CppString
  body : CppString := []
  headers : List (CppString × CppString) := []
deriving DecidableEq

/-- The shared state, the map `sessions_`, and how many sessions have been made. -/
structure Registry (c : Catalog) where
  shared : Shared c
  sessions : List (CppString × Nat) := []
  created : Nat := 0

/-- The two HTML pages. -/
structure Pages (c : Catalog) where
  index : List (Session c) → CppString
  dashboard : Session c → CppString

namespace Registry

variable (ρ : Registry c)

/-- The session with this identifier. -/
def findSession (id : CppString) : Option Nat :=
  (ρ.sessions.find? fun entry => entry.1 = id).map Prod.snd

/-- `sessions_[id] = session` for a session that has just been made. -/
def insertSession (session : Session c) : Registry c where
  shared := { ρ.shared with sessions := Function.update ρ.shared.sessions ρ.created session }
  sessions := (session.id, ρ.created) :: ρ.sessions.filter fun entry => entry.1 ≠ session.id
  created := ρ.created + 1

end Registry

/-- The entry of the catalog with this identifier. -/
def findFeature (c : Catalog) (id : CppString) : Option c.Ref :=
  (List.finRange c.features.length).find? fun r => c.id r = id

/-! ## Responses that read no execution -/

/-- One entry of `FeaturesJson`. -/
def catalogEntryJson (feature : FeatureDefinition) : CppString :=
  str "\x7b\"id\":" ++ jsonQuote feature.id ++
    str ",\"title\":" ++ jsonQuote feature.title ++
    str ",\"category\":" ++ jsonQuote feature.category ++
    str ",\"summary\":" ++ jsonQuote feature.summary ++
    str ",\"completion_mode\":" ++ jsonQuote feature.completionMode.toCppString ++
    str ",\"manual_setup_required\":" ++ jsonBool feature.manualSetupRequired ++
    str ",\"rfc_references\":" ++ jsonRfcReferences feature.rfcReferences ++
    str ",\"timeout_seconds\":" ++ decimalInt feature.timeoutSeconds ++ str "\x7d"

/-- The list of features that `/v1/features` answers with. -/
def featuresJson (c : Catalog) : CppString :=
  str "\x7b\"server\":\"sctp-feature-server\",\"features\":[" ++
    commaSeparated (c.features.map catalogEntryJson) ++ str "]\x7d"

/-- A page. -/
def htmlResponse (body : CppString) : HttpResponse where
  body := body
  contentType := str "text/html; charset=utf-8"

/-! ## Routes -/

/-- What a request asks for. -/
inductive Route (c : Catalog) where
  | createSession (body : CppString)
  | request (request : Request c)

/-- The last part of `HandleRequest`: a request on a feature. -/
def featureRoute (parts : List CppString) (request : HttpRequest) : FeatureRequest :=
  if parts.length = 5 ∧ request.method = str "GET" then .get
  else if parts.length = 6 ∧ parts.getD 5 [] = str "start" ∧ request.method = str "POST" then
    .start
  else if parts.length = 6 ∧ parts.getD 5 [] = str "complete" ∧ request.method = str "POST" then
    .complete request.body
  else if parts.length = 6 ∧ parts.getD 5 [] = str "unsupported" ∧
      request.method = str "POST" then
    .unsupported request.body
  else .unknown

/-- The part of `HandleRequest` on a session that has been found. -/
def sessionRoute (c : Catalog) (parts : List CppString) (request : HttpRequest) (session : Nat) :
    Request c :=
  if parts.length = 3 ∧ request.method = str "GET" then .session session
  else if parts.length = 4 ∧ parts.getD 3 [] = str "summary" ∧ request.method = str "GET" then
    .summary session
  else if 5 ≤ parts.length ∧ parts.getD 3 [] = str "features" then
    match findFeature c (parts.getD 4 []) with
    | none => .other (errorResponse 404 (str "unknown feature"))
    | some feature => .feature ⟨session, feature⟩ (featureRoute parts request)
  else .other (errorResponse 404 (str "unknown route"))

/-- `HandleRequest` up to the calls of the handlers. -/
def route (pages : Pages c) (ρ : Registry c) (request : HttpRequest) : Route c :=
  let parts := splitPath request.path
  if request.method = str "GET" ∧ request.path = str "/" then
    .request (.other (htmlResponse
      (pages.index (ρ.sessions.map fun entry => ρ.shared.sessions entry.2))))
  else if parts.length = 3 ∧ parts.getD 0 [] = str "sessions" ∧
      parts.getD 2 [] = str "dashboard" ∧ request.method = str "GET" then
    match ρ.findSession (parts.getD 1 []) with
    | none => .request (.other (errorResponse 404 (str "unknown session")))
    | some session =>
        .request (.other (htmlResponse (pages.dashboard (ρ.shared.sessions session))))
  else if request.method = str "GET" ∧ request.path = str "/healthz" then
    .request (.other { body := str "\x7b\"ok\":true\x7d" })
  else if request.method = str "GET" ∧ request.path = str "/v1/features" then
    .request (.other { body := featuresJson c })
  else if request.method = str "POST" ∧ request.path = str "/v1/sessions" then
    .createSession request.body
  else if 3 ≤ parts.length ∧ parts.getD 0 [] = str "v1" ∧ parts.getD 1 [] = str "sessions" then
    match ρ.findSession (parts.getD 2 []) with
    | none => .request (.other (errorResponse 404 (str "unknown session")))
    | some session => .request (sessionRoute c parts request session)
  else .request (.other (errorResponse 404 (str "unknown route")))

/-! ## Handling -/

/-- `SessionJson` of a session that nothing else looks at. -/
def sessionView (session : Session c) : CppString :=
  sessionJson session ((List.finRange c.features.length).map fun r => (r, session.features r))

/-- `CreateSession`; `id` is what `RandomId` returns. -/
def createSession (now : TimePoint) (id : CppString) (ρ : Registry c) (body : CppString) :
    Registry c × HttpResponse :=
  match parseSimpleJsonObject body with
  | .error fault => (ρ, errorResponse 400 fault.text)
  | .ok params =>
      let session : Session c := {
        id := id
        agentName := paramValue params "agent_name"
        environmentName := paramValue params "environment_name"
        createdAt := now }
      (ρ.insertSession session, { status := 201, body := sessionView session })

/-- What `HandleRequest` reads from outside. -/
structure HttpInput where
  now : TimePoint := 0
  randomId : CppString := []
  calls : List SocketCalls := []

/-- What `HandleRequest` leaves behind: the state, the response, and a worker if
it has launched one. -/
structure HttpHandled (c : Catalog) where
  registry : Registry c
  response : HttpResponse
  launched : Option (Target c × WorkerStep) := none

/-- `HandleRequest`. -/
def handleHttp (host : Host) (pages : Pages c) (ρ : Registry c) (request : HttpRequest)
    (input : HttpInput) : HttpHandled c :=
  match route pages ρ request with
  | .createSession body =>
      let created := createSession input.now input.randomId ρ body
      { registry := created.1, response := created.2 }
  | .request request =>
      let handled := handleRequest host input.now ρ.shared request input.calls
      { registry := { ρ with shared := handled.shared }
        response := handled.response
        launched := handled.launched }

/-- Pages for the small server. -/
def samplePages : Pages sampleCatalog where
  index _ := []
  dashboard _ := []

end SctpConformance
