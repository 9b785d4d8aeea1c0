import SctpConformance.Server.Concurrent

/-!
# The server handling one thing at a time

The same handlers and workers of `main.cpp`, read as plain functions: a request
is handled to its end at one instant, and between requests the calls of workers
return.  Every function is the source function of the same name with its blocks
in program order; `now` stands for every reading of the clock on the way.

A worker is what it does next.  It is kept under its execution, since a feature
is started at most once when nothing runs in between.

Main results:

- Definitions `startFeature`, `completeFeature`, `unsupportedFeature` and
  `handleRequest`: the handlers.
- Definition `Sequential.step`: one timed event.
- Definition `Sequential.run`: the state after a list of timed events.
-/

namespace SctpConformance

open Library

variable {c : Catalog}

/-! ## Helpers -/

namespace Shared

variable (σ : Shared c)

/-- `close` on each number in turn. -/
def closeFds (fds : List Nat) : Shared c :=
  fds.foldl closeDescriptor σ

/-- `close_active_fds` -/
def closeActiveFds (x : Target c) : Shared c :=
  (σ.setExecution x { σ.execution x with activeFds := [] }).closeFds (σ.execution x).activeFds

/-- `clear_active_feature` -/
def clearActiveFeature (x : Target c) : Shared c :=
  if σ.activeId x.session = c.id x.feature then σ.setActiveId x.session [] else σ

/-- The end of a terminal transition. -/
def finish (x : Target c) : Shared c :=
  (σ.closeActiveFds x).clearActiveFeature x

/-- `maybe_timeout` -/
def maybeTimeout (now : TimePoint) (x : Target c) : Shared c :=
  match (σ.execution x).timeOut now now with
  | none => σ
  | some e => (σ.setExecution x e).finish x

/-- `mark_failed` -/
def markFailed (now : TimePoint) (x : Target c) (message : CppString) : Shared c :=
  match (σ.execution x).fail message now with
  | none => σ
  | some e => (σ.setExecution x e).finish x

/-- `mark_network_complete` -/
def markNetworkComplete (now : TimePoint) (x : Target c) : Shared c :=
  match (σ.execution x).observe (c.definition x.feature) now with
  | none => σ
  | some (e, finished) =>
      let σ := σ.setExecution x e
      if finished then σ.finish x else σ.closeActiveFds x

end Shared

/-! ## Starting a feature -/

/-- The outcomes of the system calls of one `create_listening_socket`. -/
structure SocketCalls where
  socket : Option Errno := none
  setup : SetupCalls := {}

/-- `create_listening_socket`: the socket that has failed half-way is closed again. -/
def createListeningSocket (host : Host) (σ : Shared c) (x : Target c) (calls : SocketCalls) :
    Shared c × Except CppString ListeningSocket :=
  let feature := c.definition x.feature
  match addressCountError host.options feature.bindAddressCount with
  | some error => (σ, .error error)
  | none =>
      match calls.socket with
      | some errno => (σ, .error (host.strerror errno))
      | none =>
          let fd := σ.descriptors.lowestFree
          let σ := σ.openListening x
          match setupListeningSocket host feature.bindAddressCount fd calls.setup with
          | .error error => (σ.closeDescriptor fd, .error error)
          | .ok socketInfo => (σ, .ok socketInfo)

/-- The loop of `StartFeature` over its sockets, `count` of which are missing;
the ones opened so far are closed when one cannot be opened. -/
def createSockets (host : Host) (σ : Shared c) (x : Target c) :
    Nat → List SocketCalls → List ListeningSocket → Shared c × Except CppString (List ListeningSocket)
  | 0, _, sockets => (σ, .ok sockets)
  | count + 1, calls, sockets =>
      match createListeningSocket host σ x (calls.headD {}) with
      | (σ, .error error) => (σ.closeFds (sockets.map ListeningSocket.fd), .error error)
      | (σ, .ok socketInfo) => createSockets host σ x count calls.tail (sockets ++ [socketInfo])

/-- `FeatureJson` as a response. -/
def featureResponse (σ : Shared c) (x : Target c) : HttpResponse :=
  { body := featureJsonLocked (c.definition x.feature) (σ.execution x) true }

/-- `StartFeature` once all its sockets are open. -/
def activateScenario (now : TimePoint) (σ : Shared c) (x : Target c)
    (sockets : List ListeningSocket) : Shared c :=
  let feature := c.definition x.feature
  let σ := σ.setExecution x ((σ.execution x).activate feature now)
  let σ :=
    if feature.scenarioKind = .agentOnly then σ
    else σ.setExecution x { σ.execution x with activeFds := sockets.map ListeningSocket.fd }
  let σ := σ.setActiveId x.session (c.id x.feature)
  let contract := buildContract feature (feature.connectAddrs sockets)
  let σ := σ.setExecution x { σ.execution x with contractJson := contract }
  σ.setExecution x ((σ.execution x).adjustMessage feature)

/-- What a handler leaves behind: the shared state, its response, and a worker
if it has launched one. -/
structure Handled (c : Catalog) where
  shared : Shared c
  response : HttpResponse
  launched : Option (Target c × WorkerStep) := none

/-- `StartFeature`, with the calls that the host answers for each socket. -/
def startFeature (host : Host) (now : TimePoint) (σ : Shared c) (x : Target c)
    (calls : List SocketCalls) : Handled c :=
  let feature := c.definition x.feature
  let σ := σ.maybeTimeout now x
  if σ.activeId x.session ≠ [] then
    { shared := σ
      response := errorResponse 409 (str "another feature is already active in this session") }
  else if (σ.execution x).state ≠ .pending then
    { shared := σ
      response := errorResponse 409 (str "feature has already been started in this session") }
  else if feature.scenarioKind ≠ .agentOnly ∧ feature.targetCount = 0 then
    { shared := σ
      response := errorResponse 409 (str "one-to-many feature is missing expected associations") }
  else
    match createSockets host σ x feature.targetCount calls [] with
    | (σ, .error error) => { shared := σ, response := errorResponse 409 error }
    | (σ, .ok sockets) =>
        let σ := activateScenario now σ x sockets
        { shared := σ
          response := featureResponse σ x
          launched := (feature.worker sockets).map fun worker => (x, worker.start) }

/-! ## The other requests -/

/-- `CompleteFeature` -/
def completeFeature (now : TimePoint) (σ : Shared c) (x : Target c) (body : CppString) :
    Handled c :=
  let feature := c.definition x.feature
  let σ := σ.maybeTimeout now x
  match parseCompleteReport body with
  | .error error => { shared := σ, response := errorResponse 400 error }
  | .ok report =>
      match (σ.execution x).complete feature report now with
      | .error (status, message) => { shared := σ, response := errorResponse status message }
      | .ok (e, finished) =>
          let σ := σ.setExecution x e
          let σ := if finished then σ.finish x else σ
          { shared := σ, response := featureResponse σ x }

/-- `UnsupportedFeature` -/
def unsupportedFeature (now : TimePoint) (σ : Shared c) (x : Target c) (body : CppString) :
    Handled c :=
  let σ := σ.maybeTimeout now x
  match parseUnsupportedReport body with
  | .error error => { shared := σ, response := errorResponse 400 error }
  | .ok report =>
      match (σ.execution x).markUnsupported report now with
      | .error (status, message) => { shared := σ, response := errorResponse status message }
      | .ok e =>
          let σ := (σ.setExecution x e).finish x
          { shared := σ, response := featureResponse σ x }

/-- The loop of `SummaryJson` over the catalog. -/
def summaryEntries (now : TimePoint) (session : Nat) :
    Shared c → List c.Ref → List (Entry c) → Shared c × List (Entry c)
  | σ, [], entries => (σ, entries)
  | σ, r :: left, entries =>
      let σ := σ.maybeTimeout now ⟨session, r⟩
      summaryEntries now session σ left (entries ++ [(r, σ.execution ⟨session, r⟩)])

/-- `HandleRequest`.  A summary stream is handled turn by turn; each turn writes
a summary. -/
def handleRequest (host : Host) (now : TimePoint) (σ : Shared c) (request : Request c)
    (calls : List SocketCalls) : Handled c :=
  match request with
  | .feature x request =>
      let σ := σ.maybeTimeout now x
      match request with
      | .get => { shared := σ, response := featureResponse σ x }
      | .start => startFeature host now σ x calls
      | .complete body => completeFeature now σ x body
      | .unsupported body => unsupportedFeature now σ x body
      | .unknown => { shared := σ, response := errorResponse 404 (str "unknown route") }
  | .session session =>
      let entries := (List.finRange c.features.length).map fun r =>
        (r, (σ.sessions session).features r)
      { shared := σ, response := { body := sessionJson (σ.sessions session) entries } }
  | .summary session | .summaryStream session =>
      let (σ, entries) := summaryEntries now session σ (List.finRange c.features.length) []
      { shared := σ, response := { body := summaryJson (σ.sessions session).id entries } }
  | .other response => { shared := σ, response := response }

/-! ## Timed events -/

/-- The shared state, and for each execution what its worker does next. -/
structure Sequential (c : Catalog) where
  shared : Shared c
  workers : Target c → Option WorkerStep

/-- A request with the outcomes of the system calls it may make, or the return
of the call that the worker of an execution is making. -/
inductive Event (c : Catalog) where
  | request (request : Request c) (calls : List SocketCalls)
  | worker (x : Target c) (input : WorkerInput)

/-- An event of a run, with the time at which it happens. -/
structure Timed (c : Catalog) where
  now : TimePoint
  event : Event c

/-- A call on a closed descriptor fails at once. -/
def WorkerStep.closedCall (host : Host) (featureId : CppString) (σ : Shared c) :
    WorkerStep → WorkerStep
  | .receive state =>
      match σ.descriptors.lookup state.fd with
      | none => state.onReceive host featureId (.error .ebadf)
      | some _ => .receive state
  | .send state =>
      match σ.descriptors.lookup state.fd with
      | none => state.onSend host (some .ebadf)
      | some _ => .send state
  | next => next

namespace Sequential

variable (host : Host)

/-- A worker goes on until it waits for its next call, or to its end. -/
def advance (now : TimePoint) (s : Sequential c) (x : Target c) (next : WorkerStep) :
    Sequential c :=
  match next.closedCall host (c.id x.feature) s.shared with
  | .markFailed message =>
      { shared := s.shared.markFailed now x message
        workers := Function.update s.workers x none }
  | .markNetworkComplete =>
      { shared := s.shared.markNetworkComplete now x
        workers := Function.update s.workers x none }
  | next => { s with workers := Function.update s.workers x (some next) }

/-- A request is accepted, handled and answered; a worker it has launched makes
its first call. -/
def handle (now : TimePoint) (s : Sequential c) (request : Request c)
    (calls : List SocketCalls) : Sequential c × HttpResponse :=
  let client := s.shared.descriptors.lowestFree
  let handled := handleRequest host now (s.shared.openDescriptor .other) request calls
  let s := { s with shared := handled.shared.closeDescriptor client }
  match handled.launched with
  | none => (s, handled.response)
  | some (x, next) => (s.advance host now x next, handled.response)

/-- One event. -/
def step (s : Sequential c) (timed : Timed c) : Sequential c :=
  match timed.event with
  | .request request calls => (s.handle host timed.now request calls).1
  | .worker x input =>
      match s.workers x with
      | none => s
      | some next => s.advance host timed.now x (next.advance host (c.id x.feature) input)

/-- The state after a list of events. -/
def run (s : Sequential c) (events : List (Timed c)) : Sequential c :=
  events.foldl (step host) s

/-- Fresh sessions, no listening socket, and no worker. -/
structure Initial (s : Sequential c) : Prop where
  fresh : ∀ session, (s.shared.sessions session).Fresh
  closed : ∀ fd serial owner,
    s.shared.descriptors.lookup fd ≠ some (Descriptor.listening serial owner)
  idle : ∀ x, s.workers x = none

end Sequential

/-! ## A small server -/

/-- The server of the sample catalog before its first request. -/
def sampleServer : Sequential sampleCatalog where
  shared := sampleShared
  workers _ := none

/-- It is in its initial state. -/
theorem sampleServer_initial : sampleServer.Initial where
  fresh _ := ⟨rfl, fun _ => rfl⟩
  closed := sampleShared_closed
  idle _ := rfl

end SctpConformance
