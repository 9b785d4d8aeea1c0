import SctpConformance.Library.Slots
import SctpConformance.Library.Interleaving
import SctpConformance.Server.Executions
import SctpConformance.Server.Sockets
import SctpConformance.Server.Views
import SctpConformance.Server.Workers

/-!
# The server as interleaved threads

Handlers and workers of `main.cpp` as threads over one shared state: the
sessions with their feature executions, and the descriptor table of the
process.  A section is one block under one mutex, or one system call on the
descriptor table; each names the section that follows it in the source, so the
chain of sections of a handler is its program text.

Sessions are numbered; a session that no request has addressed yet is one that
`CreateSession` has just made.  The two system calls of a request that are
outside `HandleRequest`, `accept` and the final `close`, are part of the model
because they share the descriptor table with the listening sockets.

Main results:

- Definition `exec`: what each section does.
- Definition `arrive`: the program of the handler of each kind of request.
- Definitions `server` and `Initial`: the transition system.
-/

namespace SctpConformance

open Library

/-! ## Shared state -/

/-- A feature execution: a session and a feature of the catalog. -/
structure Target (c : Catalog) where
  session : Nat
  feature : c.Ref
deriving DecidableEq

/-- What an open descriptor refers to: a socket returned by
`create_listening_socket`, numbered in the order of creation and labelled with
the execution it was opened for, or anything else, such as an HTTP connection. -/
inductive Descriptor (c : Catalog) where
  | other
  | listening (serial : Nat) (owner : Target c)
deriving DecidableEq

/-- What all threads share: the sessions, the table of descriptors, and a serial number for the
sockets. -/
structure Shared (c : Catalog) where
  sessions : Nat → Session c
  descriptors : Slots (Descriptor c)
  opened : Nat

namespace Shared

variable {c : Catalog} (σ : Shared c)

/-- The execution of a feature of a session. -/
def execution (x : Target c) : FeatureExecution :=
  (σ.sessions x.session).features x.feature

/-- The identifier of the active feature of a session; empty if there is none. -/
def activeId (session : Nat) : CppString :=
  (σ.sessions session).activeFeatureId

/-- The execution of a feature is replaced. -/
def setExecution (x : Target c) (e : FeatureExecution) : Shared c :=
  { σ with sessions := Function.update σ.sessions x.session { σ.sessions x.session with
      features := Function.update (σ.sessions x.session).features x.feature e } }

/-- The active feature of a session is replaced. -/
def setActiveId (session : Nat) (id : CppString) : Shared c :=
  { σ with sessions := Function.update σ.sessions session { σ.sessions session with
      activeFeatureId := id } }

/-- `socket()` or `accept()`: the lowest free number refers to `d`. -/
def openDescriptor (d : Descriptor c) : Shared c :=
  { σ with descriptors := σ.descriptors.acquire d }

/-- `socket()` in `create_listening_socket`. -/
def openListening (owner : Target c) : Shared c :=
  { σ with
    descriptors := σ.descriptors.acquire (.listening σ.opened owner)
    opened := σ.opened + 1 }

/-- `close()`. -/
def closeDescriptor (fd : Nat) : Shared c :=
  { σ with descriptors := σ.descriptors.release fd }

end Shared

/-! ## Sections -/

/-- What the handler of a feature request works on: the execution and the HTTP connection. -/
structure Handler (c : Catalog) where
  target : Target c
  client : Nat
deriving DecidableEq

/-- The sections of handlers and workers, each of which runs under one lock or makes one system
call. -/
inductive Section (c : Catalog) where
  -- helpers called by handlers and workers
  | maybeTimeout (x : Target c)
  | takeActiveFds (x : Target c)
  | closeFd (x : Target c) (fd : Nat)
  | clearActiveFeature (x : Target c)
  -- `StartFeature`
  | startGuard (h : Handler c)
  | startPending (h : Handler c)
  | openSocket (h : Handler c) (sockets : List ListeningSocket)
  | setupSocket (h : Handler c) (sockets : List ListeningSocket) (fd : Nat)
  | activate (h : Handler c) (sockets : List ListeningSocket)
  | setActiveFds (h : Handler c) (sockets : List ListeningSocket)
  | setActiveFeature (h : Handler c) (sockets : List ListeningSocket)
  | launchWorker (h : Handler c) (sockets : List ListeningSocket)
  | setContract (h : Handler c) (contract : CppString)
  | adjustMessage (h : Handler c)
  -- the other handlers
  | complete (h : Handler c) (body : CppString)
  | unsupported (h : Handler c) (body : CppString)
  | readFeature (h : Handler c)
  -- `SessionJson` locks one record after the other; here they are read together
  | readSession (session client : Nat)
  | summary (session client : Nat) (stream : Bool) (left : List c.Ref)
      (entries : List (Entry c))
  | summaryEntry (session client : Nat) (stream : Bool) (r : c.Ref) (left : List c.Ref)
      (entries : List (Entry c))
  | writeEvent (session client : Nat) (event : CppString)
  | respond (client : Nat) (response : HttpResponse)
  | hangUp (client : Nat)
  -- workers
  | receive (x : Target c) (state : WorkerState)
  | receiving (x : Target c) (state : WorkerState)
  | send (x : Target c) (state : WorkerState)
  | markFailed (x : Target c) (message : CppString)
  | markNetworkComplete (x : Target c)
deriving DecidableEq

/-- What the world outside contributes to a section: the readings of the clock,
the outcomes of the system calls.  `written` is what the writes of one turn of
the loop of `HandleSummaryStream` return. -/
structure Input where
  now : TimePoint := 0
  finished : TimePoint := 0
  socket : Option Errno := none
  setup : SetupCalls := {}
  received : ReceiveOutcome := .notification
  sent : SendOutcome := none
  written : Bool := true

/-! ## The scenario of a feature -/

namespace FeatureDefinition

/-- The number of listening sockets that a start opens. -/
def targetCount (feature : FeatureDefinition) : Nat :=
  match feature.scenarioKind with
  | .agentOnly => 0
  | .receiveMessagesMultiTarget =>
      match feature.oneToMany with
      | some contract => contract.expectedAssociations
      | none => feature.clientSendMessages.length
  | _ => 1

/-- The addresses that the contract tells the client to connect to. -/
def connectAddrs (feature : FeatureDefinition) (sockets : List ListeningSocket) :
    List CppString :=
  match feature.scenarioKind with
  | .agentOnly => []
  | .receiveMessagesMultiTarget => sockets.filterMap fun socketInfo => socketInfo.advertiseAddrs.head?
  | _ => (sockets.head?.map ListeningSocket.advertiseAddrs).getD []

/-- The worker that a start launches. -/
def worker (feature : FeatureDefinition) (sockets : List ListeningSocket) : Option Worker :=
  match feature.scenarioKind with
  | .agentOnly => none
  | .receiveMessages => sockets.head?.map fun socketInfo =>
      .receive socketInfo.fd feature.clientSendMessages feature.expectedPeerAddrCount
  | .receivePRMessages => sockets.head?.map fun socketInfo =>
      .prReceive socketInfo.fd feature.clientSendMessages
  | .receiveMessagesMultiTarget =>
      some (.receiveMultiTarget (sockets.map ListeningSocket.fd) feature.clientSendMessages)
  | .sendAfterTrigger => sockets.head?.map fun socketInfo =>
      .sendAfterTrigger socketInfo.fd feature.triggerPayload feature.serverSendMessages

/-- A worker is started with the numbers of the sockets of its start. -/
theorem worker_fds {feature : FeatureDefinition}
    {sockets : List ListeningSocket} {worker : Worker} (h : feature.worker sockets = some worker) :
    worker.fds ⊆ sockets.map ListeningSocket.fd := by
  have hhead : ∀ socketInfo, sockets.head? = some socketInfo →
      [socketInfo.fd] ⊆ sockets.map ListeningSocket.fd := by
    intro socketInfo hhead
    have hmem : socketInfo ∈ sockets := List.mem_of_mem_head? hhead
    simpa using ⟨socketInfo, hmem, rfl⟩
  unfold FeatureDefinition.worker at h
  split at h
  · contradiction
  · rcases Option.map_eq_some_iff.mp h with ⟨socketInfo, hsocket, rfl⟩
    exact hhead socketInfo hsocket
  · rcases Option.map_eq_some_iff.mp h with ⟨socketInfo, hsocket, rfl⟩
    exact hhead socketInfo hsocket
  · cases h
    exact fun _ hfd => hfd
  · rcases Option.map_eq_some_iff.mp h with ⟨socketInfo, hsocket, rfl⟩
    exact hhead socketInfo hsocket

end FeatureDefinition

/-! ## The effect of a section -/

section

variable {c : Catalog}

/-- The section in which a worker makes its next step. -/
def WorkerStep.toSection (x : Target c) : WorkerStep → Section c
  | .receive state => .receive x state
  | .send state => .send x state
  | .markFailed message => .markFailed x message
  | .markNetworkComplete => .markNetworkComplete x

/-- An error response with the JSON body of the source. -/
def errorResponse (status : Nat) (message : CppString) : HttpResponse :=
  { status := status, body := jsonError message }

/-- `close_active_fds` and `clear_active_feature`, at the end of a terminal transition. -/
def finish (x : Target c) : List (Section c) :=
  [.takeActiveFds x, .clearActiveFeature x]

/-- A start gives up: the sockets opened so far are closed. -/
def rollback (h : Handler c) (fds : List Nat) (error : CppString) : List (Section c) :=
  fds.map (.closeFd h.target) ++ [.respond h.client (errorResponse 409 error)]

variable (host : Host)

/-- What a section does to the shared state, and which sections come next. -/
def exec (σ : Shared c) (s : Section c) (input : Input) : Effect (Shared c) (Section c) :=
  match s with
  | .maybeTimeout x =>
      match (σ.execution x).timeOut input.now input.finished with
      | none => { shared := σ }
      | some e => { shared := σ.setExecution x e, next := finish x }
  | .takeActiveFds x =>
      let e := σ.execution x
      { shared := σ.setExecution x { e with activeFds := [] }
        next := e.activeFds.map (.closeFd x) }
  | .closeFd _ fd => { shared := σ.closeDescriptor fd }
  | .clearActiveFeature x =>
      { shared :=
          if σ.activeId x.session = c.id x.feature then σ.setActiveId x.session [] else σ }
  | .startGuard h =>
      if σ.activeId h.target.session ≠ [] then
        { shared := σ
          next := [.respond h.client
            (errorResponse 409 (str "another feature is already active in this session"))] }
      else { shared := σ, next := [.startPending h] }
  | .startPending h =>
      let feature := c.definition h.target.feature
      if (σ.execution h.target).state ≠ .pending then
        { shared := σ
          next := [.respond h.client
            (errorResponse 409 (str "feature has already been started in this session"))] }
      else if feature.scenarioKind = .agentOnly then { shared := σ, next := [.activate h []] }
      else if feature.targetCount = 0 then
        { shared := σ
          next := [.respond h.client
            (errorResponse 409 (str "one-to-many feature is missing expected associations"))] }
      else { shared := σ, next := [.openSocket h []] }
  | .openSocket h sockets =>
      let feature := c.definition h.target.feature
      match addressCountError host.options feature.bindAddressCount with
      | some error => { shared := σ, next := rollback h (sockets.map ListeningSocket.fd) error }
      | none =>
          match input.socket with
          | some errno =>
              { shared := σ
                next := rollback h (sockets.map ListeningSocket.fd) (host.strerror errno) }
          | none =>
              { shared := σ.openListening h.target
                next := [.setupSocket h sockets σ.descriptors.lowestFree] }
  | .setupSocket h sockets fd =>
      let feature := c.definition h.target.feature
      match setupListeningSocket host feature.bindAddressCount fd input.setup with
      | .error error =>
          { shared := σ, next := rollback h (fd :: sockets.map ListeningSocket.fd) error }
      | .ok socketInfo =>
          let sockets := sockets ++ [socketInfo]
          { shared := σ
            next :=
              if sockets.length < feature.targetCount then [.openSocket h sockets]
              else [.activate h sockets] }
  | .activate h sockets =>
      let feature := c.definition h.target.feature
      { shared := σ.setExecution h.target ((σ.execution h.target).activate feature input.now)
        next :=
          if feature.scenarioKind = .agentOnly then [.setActiveFeature h []]
          else [.setActiveFds h sockets] }
  | .setActiveFds h sockets =>
      { shared := σ.setExecution h.target { σ.execution h.target with
          activeFds := sockets.map ListeningSocket.fd }
        next := [.setActiveFeature h sockets] }
  | .setActiveFeature h sockets =>
      { shared := σ.setActiveId h.target.session (c.id h.target.feature)
        next := [.launchWorker h sockets] }
  | .launchWorker h sockets =>
      let feature := c.definition h.target.feature
      { shared := σ
        next := [.setContract h (buildContract feature (feature.connectAddrs sockets))]
        launch := (feature.worker sockets).map fun worker => [worker.start.toSection h.target] }
  | .setContract h contract =>
      { shared := σ.setExecution h.target { σ.execution h.target with contractJson := contract }
        next := [.adjustMessage h] }
  | .adjustMessage h =>
      let feature := c.definition h.target.feature
      { shared := σ.setExecution h.target ((σ.execution h.target).adjustMessage feature)
        next := [.readFeature h] }
  | .complete h body =>
      let feature := c.definition h.target.feature
      match parseCompleteReport body with
      | .error error => { shared := σ, next := [.respond h.client (errorResponse 400 error)] }
      | .ok report =>
          match (σ.execution h.target).complete feature report input.now with
          | .error (status, message) =>
              { shared := σ, next := [.respond h.client (errorResponse status message)] }
          | .ok (e, finished) =>
              { shared := σ.setExecution h.target e
                next := (if finished then finish h.target else []) ++ [.readFeature h] }
  | .unsupported h body =>
      match parseUnsupportedReport body with
      | .error error => { shared := σ, next := [.respond h.client (errorResponse 400 error)] }
      | .ok report =>
          match (σ.execution h.target).markUnsupported report input.now with
          | .error (status, message) =>
              { shared := σ, next := [.respond h.client (errorResponse status message)] }
          | .ok e =>
              { shared := σ.setExecution h.target e
                next := finish h.target ++ [.readFeature h] }
  | .readFeature h =>
      let feature := c.definition h.target.feature
      let body := featureJsonLocked feature (σ.execution h.target) true
      { shared := σ, next := [.respond h.client { body := body }] }
  | .readSession session client =>
      let entries := (List.finRange c.features.length).map fun r =>
        (r, (σ.sessions session).features r)
      let body := sessionJson (σ.sessions session) entries
      { shared := σ, next := [.respond client { body := body }] }
  | .summary session client stream left entries =>
      match left with
      | [] =>
          let body := summaryJson (σ.sessions session).id entries
          { shared := σ
            next :=
              if stream then [.writeEvent session client body]
              else [.respond client { body := body }] }
      | r :: left =>
          { shared := σ
            next :=
              [.maybeTimeout ⟨session, r⟩, .summaryEntry session client stream r left entries] }
  | .summaryEntry session client stream r left entries =>
      let entries := entries ++ [(r, σ.execution ⟨session, r⟩)]
      { shared := σ, next := [.summary session client stream left entries] }
  | .writeEvent session client _ =>
      { shared := σ
        next :=
          if input.written then
            [.summary session client true (List.finRange c.features.length) []]
          else [.hangUp client] }
  | .respond client _ => { shared := σ.closeDescriptor client }
  | .hangUp client => { shared := σ.closeDescriptor client }
  | .receive x state =>
      -- the call takes hold of the socket, or fails at once on a closed descriptor
      match σ.descriptors.lookup state.fd with
      | none =>
          { shared := σ
            next := [(state.onReceive host (c.id x.feature) (.error .ebadf)).toSection x] }
      | some _ => { shared := σ, next := [.receiving x state] }
  | .receiving x state =>
      { shared := σ
        next := [(state.onReceive host (c.id x.feature) input.received).toSection x] }
  | .send x state =>
      match σ.descriptors.lookup state.fd with
      | none => { shared := σ, next := [(state.onSend host (some .ebadf)).toSection x] }
      | some _ => { shared := σ, next := [(state.onSend host input.sent).toSection x] }
  | .markFailed x message =>
      match (σ.execution x).fail message input.now with
      | none => { shared := σ }
      | some e => { shared := σ.setExecution x e, next := finish x }
  | .markNetworkComplete x =>
      match (σ.execution x).observe (c.definition x.feature) input.now with
      | none => { shared := σ }
      | some (e, finished) =>
          { shared := σ.setExecution x e
            next := if finished then finish x else [.takeActiveFds x] }

/-- A handler that has answered closes its connection. -/
@[simp]
theorem exec_respond (σ : Shared c) (client : Nat) (response : HttpResponse) (input : Input) :
    exec host σ (.respond client response) input = { shared := σ.closeDescriptor client } := by
  simp only [exec]

/-! ## Requests -/

/-- The requests on one feature of a session. -/
inductive FeatureRequest where
  | get
  | start
  | complete (body : CppString)
  | unsupported (body : CppString)
  | unknown

/-- A request, after the session and the feature it names have been found.
`other` stands for every route that reads no execution, such as the dashboard
page, and for requests that name an unknown session or feature. -/
inductive Request (c : Catalog) where
  | feature (x : Target c) (request : FeatureRequest)
  | session (session : Nat)
  | summary (session : Nat)
  | summaryStream (session : Nat)
  | other (response : HttpResponse)

/-- The program of the handler of a request; the calls of `maybe_timeout` are
those of `HandleRequest` and of the handler itself. -/
def handlerProgram (client : Nat) : Request c → List (Section c)
  | .feature x .get => [.maybeTimeout x, .readFeature ⟨x, client⟩]
  | .feature x .start => [.maybeTimeout x, .maybeTimeout x, .startGuard ⟨x, client⟩]
  | .feature x (.complete body) =>
      [.maybeTimeout x, .maybeTimeout x, .complete ⟨x, client⟩ body]
  | .feature x (.unsupported body) =>
      [.maybeTimeout x, .maybeTimeout x, .unsupported ⟨x, client⟩ body]
  | .feature x .unknown =>
      [.maybeTimeout x, .respond client (errorResponse 404 (str "unknown route"))]
  | .session session => [.readSession session client]
  | .summary session => [.summary session client false (List.finRange c.features.length) []]
  | .summaryStream session => [.summary session client true (List.finRange c.features.length) []]
  | .other response => [.respond client response]

/-- A connection is accepted and its request read. -/
def arrive (σ : Shared c) (request : Request c) : Shared c × List (Section c) :=
  (σ.openDescriptor .other, handlerProgram σ.descriptors.lowestFree request)

/-! ## The transition system -/

/-- The server: handlers and workers interleaved section by section. -/
def server : System (Shared c) (Section c) (Request c) Input where
  arrive := arrive
  exec := exec host

/-- The shared state and the threads that run on it. -/
abbrev ServerState (c : Catalog) := Pool (Shared c) (Section c)

/-- A request arrives, or a thread takes its next section. -/
abbrev ServerAction (c : Catalog) := PoolAction (Request c) Input

/-- A step from one state to the next. -/
abbrev ServerTransition (c : Catalog) := Transition (ServerState c) (ServerAction c)

/-- The runs of the concurrent server. -/
abbrev ServerRun (host : Host) (start : ServerState c) (run : List (ServerTransition c))
    (last : ServerState c) : Prop :=
  Run (server host).step start run last

/-- Fresh sessions, no thread, and no listening socket. -/
structure Initial (start : ServerState c) : Prop where
  fresh : ∀ session, (start.shared.sessions session).Fresh
  quiet : ∀ i, start.threads i = []
  closed : ∀ fd serial owner,
    start.shared.descriptors.lookup fd ≠ some (Descriptor.listening serial owner)

end

/-! ## A small server -/

/-- Five features of the catalog of the server, with the data that decides their runs. -/
def sampleCatalog : Catalog where
  features := [
    { id := str "socket_create", completionMode := .agentReported },
    { id := str "negative_connect_error", completionMode := .agentReported },
    { id := str "multi_message_boundary"
      completionMode := .serverObserved
      scenarioKind := .receiveMessages
      clientSendMessages := [⟨str "alpha", 1, 100, 0, false, [], 0, 0⟩,
        ⟨str "beta", 1, 101, 0, false, [], 0, 0⟩] },
    { id := str "one_to_many_multi_assoc"
      completionMode := .hybrid
      scenarioKind := .receiveMessagesMultiTarget
      timeoutSeconds := 25
      clientSendMessages := [⟨str "otm-one", 1, 101, 0, false, [], 0, 0⟩,
        ⟨str "otm-two", 2, 102, 0, false, [], 0, 0⟩]
      oneToMany := some ⟨2, true, true⟩ },
    { id := str "pr_sctp_ttl"
      completionMode := .hybrid
      scenarioKind := .receivePRMessages
      timeoutSeconds := 30
      clientSendMessages := [⟨str "pr-ttl-drop", 17, 1701, 32768, false, str "ttl", 250, 0⟩,
        ⟨str "pr-ttl-delivered", 17, 1702, 0, false, [], 0, 0⟩] }]
  ids_nodup := by decide
  ids_ne_nil := by decide

/-- A host with one address. -/
def sampleHost : Host where
  options := { sctpBindAddrs := [str "127.0.0.1"], sctpAdvertiseAddrs := [] }
  strerror _ := str "Unknown error"

/-- Fresh sessions; the descriptors in use are the standard streams and the HTTP socket. -/
def sampleShared : Shared sampleCatalog where
  sessions _ := {
    id := str "0123456789abcdef"
    agentName := []
    environmentName := []
    createdAt := 0 }
  descriptors := List.replicate 4 (some .other)
  opened := 0

/-- The standard streams and the HTTP socket are not listening for SCTP. -/
theorem lookup_standard {c : Catalog} (n fd serial : Nat) (owner : Target c) :
    Slots.lookup (List.replicate n (some Descriptor.other)) fd ≠
      some (.listening serial owner) := by
  induction n generalizing fd with
  | zero => simp
  | succ n ih =>
      cases fd with
      | zero => simp [Slots.lookup, List.replicate_succ]
      | succ fd => simpa [Slots.lookup, List.replicate_succ] using ih fd

/-- No socket is open at the start. -/
theorem sampleShared_closed (fd serial : Nat) (owner : Target sampleCatalog) :
    sampleShared.descriptors.lookup fd ≠ some (.listening serial owner) :=
  lookup_standard 4 fd serial owner

/-- The feature that an agent reports, in the only session of the samples. -/
def socketCreate : Target sampleCatalog := ⟨0, ⟨0, by decide⟩⟩

/-- A second feature that an agent reports. -/
def negativeConnect : Target sampleCatalog := ⟨0, ⟨1, by decide⟩⟩

/-- A feature that the server observes. -/
def multiMessage : Target sampleCatalog := ⟨0, ⟨2, by decide⟩⟩

/-- A feature with several associations on one socket. -/
def multiAssoc : Target sampleCatalog := ⟨0, ⟨3, by decide⟩⟩

/-- A feature with messages that may be dropped. -/
def prSctpTtl : Target sampleCatalog := ⟨0, ⟨4, by decide⟩⟩

end SctpConformance
