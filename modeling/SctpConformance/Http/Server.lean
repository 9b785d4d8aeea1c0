import SctpConformance.Http.Request

/-!
# The HTTP server as interleaved threads

`HandleClient` for every connection, over the shared state and the session table.  The
handlers and workers run the same sections as before; `CreateSession` adds one that reads
the new session back for the response.

A connection is accepted, its request read and looked up in one step.

Main results:

- Definition `handleClient`: the program of the handler of a connection.
- Definitions `httpServer` and `HttpInitial`: the transition system.
- Definition `HttpSection.json`: the JSON text that a section sends.
-/

namespace SctpConformance

open Library

variable {c : Catalog}

/-! ## Connections -/

/-- What happens on an accepted connection: `set_http_timeout` fails, or a request is
read as far as the pieces go. -/
inductive Connection where
  | noTimeout (errno : Errno)
  | reads (ending : ReadEnd) (pieces : List CppString)
deriving DecidableEq

/-- An accepted connection, with the clock and the random digits its handler may read. -/
structure Arrival where
  connection : Connection
  now : TimePoint := 0
  digits : Fin 16 → Fin 16 := fun _ => 0

/-- `RandomId`. -/
def randomId (digits : Fin 16 → Fin 16) : CppString :=
  (List.finRange 16).map fun i => (str "0123456789abcdef").getD (digits i) 48

/-- The session that `CreateSession` makes. -/
def newSession (id : CppString) (params : List (CppString × CppString)) (now : TimePoint) :
    Session c where
  id := id
  agentName := paramValue params "agent_name"
  environmentName := paramValue params "environment_name"
  createdAt := now

/-- The routes of `HandleClient`: `HandleSummaryStream` comes before `HandleRequest`. -/
def clientRoute (pages : Pages c) (ρ : Registry c) (request : HttpRequest) : Route c :=
  let parts := splitPath request.path
  if request.method = str "GET" ∧ parts.length = 5 ∧ parts.getD 0 [] = str "v1" ∧
      parts.getD 1 [] = str "sessions" ∧ parts.getD 3 [] = str "summary" ∧
      parts.getD 4 [] = str "stream" then
    match ρ.findSession (parts.getD 2 []) with
    | none => .request (.other (errorResponse 404 (str "unknown session")))
    | some session => .request (.summaryStream session)
  else route pages ρ request

/-! ## The transition system -/

/-- A section of a handler or a worker, or the end of `CreateSession`. -/
inductive HttpSection (c : Catalog) where
  | handler (s : Section c)
  | readCreated (session client : Nat)
deriving DecidableEq

variable (host : Host) (pages : Pages c)

/-- `HandleClient`: the session table it leaves and the program of the handler. -/
def handleClient (ρ : Registry c) (arrival : Arrival) (client : Nat) :
    Registry c × List (HttpSection c) :=
  let program (request : Request c) := (handlerProgram client request).map HttpSection.handler
  match arrival.connection with
  | .noTimeout errno => (ρ, program (.other (errorResponse 500 (host.strerror errno))))
  | .reads ending pieces =>
      match readHttpRequest ending pieces with
      | .error error =>
          let status := if error = str "timed out reading HTTP request" then 408 else 400
          (ρ, program (.other (errorResponse status error)))
      | .ok request =>
          match clientRoute pages ρ request with
          | .request request => (ρ, program request)
          | .createSession body =>
              match parseSimpleJsonObject body with
              | .error fault => (ρ, program (.other (errorResponse 400 fault.text)))
              | .ok params =>
                  (ρ.insertSession (newSession (randomId arrival.digits) params arrival.now),
                    [.readCreated ρ.created client])

/-- `accept()`, and what follows from it. -/
def httpArrive (ρ : Registry c) (arrival : Arrival) : Registry c × List (HttpSection c) :=
  handleClient host pages { ρ with shared := ρ.shared.openDescriptor .other } arrival
    ρ.shared.descriptors.lowestFree

/-- What a section does to the registry, and which sections come next. -/
def httpExec (ρ : Registry c) (s : HttpSection c) (input : Input) :
    Effect (Registry c) (HttpSection c) :=
  match s with
  | .handler s =>
      let effect := exec host ρ.shared s input
      { shared := { ρ with shared := effect.shared }
        next := effect.next.map .handler
        launch := effect.launch.map (List.map .handler) }
  | .readCreated session client =>
      let response : HttpResponse :=
        { status := 201, body := sessionView (ρ.shared.sessions session) }
      { shared := ρ, next := [.handler (.respond client response)] }

/-- The server with its session table. -/
def httpServer : System (Registry c) (HttpSection c) Arrival Input where
  arrive := httpArrive host pages
  exec := httpExec host

/-- The registry and the threads that run on it. -/
abbrev HttpState (c : Catalog) := Pool (Registry c) (HttpSection c)

/-- A connection arrives, or a thread takes its next section. -/
abbrev HttpAction := PoolAction Arrival Input

/-- A step from one state to the next. -/
abbrev HttpTransition (c : Catalog) := Transition (HttpState c) HttpAction

/-- The runs of the HTTP server. -/
abbrev HttpRun (start : HttpState c) (run : List (HttpTransition c)) (last : HttpState c) :
    Prop :=
  Run (httpServer host pages).step start run last

/-- No session, no thread, and no listening socket. -/
structure HttpInitial (start : HttpState c) : Prop where
  created : start.shared.created = 0
  empty : start.shared.sessions = []
  blank : ∀ session, start.shared.shared.sessions session = newSession [] [] 0
  quiet : ∀ i, start.threads i = []
  closed : ∀ fd serial owner,
    start.shared.shared.descriptors.lookup fd ≠ some (Descriptor.listening serial owner)

/-! ## What is sent -/

/-- The JSON text that a section sends: the body of a response, or the data of an event. -/
def HttpSection.json : HttpSection c → Option CppString
  | .handler (.respond _ response) =>
      if response.contentType = str "application/json" then some response.body else none
  | .handler (.writeEvent _ _ event) => some event
  | _ => none

/-- The JSON text that a transition sends. -/
def sentJson (τ : HttpTransition c) : Option CppString :=
  τ.head?.bind HttpSection.json

/-- A server that nothing has been asked of yet. -/
def blankServer (c : Catalog) : HttpState c where
  shared :=
    { shared :=
        { sessions := fun _ => newSession [] [] 0
          descriptors := List.replicate 4 (some .other)
          opened := 0 } }
  threads _ := []
  count := 0
  idle _ _ := rfl

end SctpConformance
