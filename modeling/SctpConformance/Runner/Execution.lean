import SctpConformance.Runner.Scenario
import SctpConformance.Runner.World
import Mathlib.Data.List.Basic

/-!
# Running the helpers of a scenario

`ProfileRunner.execute` of `runner.py` for the two kinds of runner, which differ in their
time limits and in the port that the local runner picks for a client without addresses.

Main results:

- Definition `Completes`: the helpers of a scenario can be started, keep to the time limits and
  print what the runner can use and write.
- Theorems `completes_of_execute` and `execute_of_completes`: this is exactly when
  `execute` returns.
- Theorem `Completes.error_shown`: an error event on a line of its own is seen.
-/

namespace SctpConformance.Runner

open Library

/-! ## Runners -/

/-- The two kinds of runner. -/
inductive ProfileRunner where
  | localGo
  | freeBSD
deriving DecidableEq

/-- The time limit of the client, in milliseconds. -/
def ProfileRunner.clientTimeout : ProfileRunner → Nat
  | .localGo => 10000
  | .freeBSD => 15000

/-- The time limit of the server from the end of the client on. -/
def ProfileRunner.serverTimeout : ProfileRunner → Nat
  | .localGo => 10000
  | .freeBSD => 15000

/-- The time limit for the `ready` event of the server. -/
def readyTimeout : Nat :=
  10000

/-- `create_runner` -/
def createRunner (profile : Profile) : Except Raised ProfileRunner :=
  if profile.kind = "local-go-net".toList then .ok .localGo
  else if profile.kind = "remote-freebsd-c".toList then .ok .freeBSD
  else .error .valueError

/-- The client's side of a scenario with a server, given the addresses in the `ready`
event. -/
def EndpointSpec.connecting (client : EndpointSpec) (connectAddrs : List Value) : EndpointSpec :=
  if client.connectFromServerReady then { client with connectAddrs := connectAddrs } else client

/-- The client's side of a scenario without a server.  The local runner replaces a
missing address. -/
def ProfileRunner.clientSpec (runner : ProfileRunner) (client : EndpointSpec)
    (freePort : Except Raised Nat) : Except Raised EndpointSpec :=
  match runner with
  | .localGo =>
      if client.connectAddrs.isEmpty then do
        let port ← freePort
        return { client with connectAddrs := (applyPort ["127.0.0.1:0".toList] port).map .str }
      else .ok client
  | .freeBSD => .ok client

variable (py : Python) (world : World)

/-- `list(ready.get("local_addrs", []))` -/
def readyAddrs (ready : Event) : Except Raised (List Value) :=
  ((ready.get "local_addrs".toList).getD (.list [])).toList

/-- The `try` block of `_run_server_client`. -/
def driveClient (runner : ProfileRunner) (index : Nat) (server : ManagedProcess)
    (clientSpec : EndpointSpec) : Act (CompletedCommand × CompletedCommand) := do
  let ready ← server.waitForEvent py "ready".toList readyTimeout
  let connectAddrs ← liftM (readyAddrs ready)
  let clientCmd ← liftM (commandFlags (clientSpec.connecting connectAddrs) "client".toList)
  let helper ← liftM (world.helper index .client clientCmd)
  let client ← runCommand index helper runner.clientTimeout
  let serverResult ← server.wait py runner.serverTimeout
  return (serverResult, client)

/-- What the two completed helpers of a scenario leave behind. -/
def bothArtifacts (dir : Path) (server client : CompletedCommand) :
    Except Raised ScenarioArtifacts := do
  let serverEvents ← extractEventsForRole py server.stdout "server".toList
  let clientEvents ← extractEventsForRole py client.stdout "client".toList
  let artifactPaths ← world.writeFiles dir (outputFiles "server" ++ outputFiles "client")
  return {
    stdout := strip (joinTexts "\n".toList [server.stdout, client.stdout])
    stderr := strip (joinTexts "\n".toList [server.stderr, client.stderr])
    events := serverEvents ++ clientEvents
    artifactPaths := artifactPaths }

/-- `_run_server_client` -/
def runServerClient (runner : ProfileRunner) (profile : Profile) (index : Nat)
    (scenario : Scenario) (serverSpec clientSpec : EndpointSpec) : Act ScenarioArtifacts := do
  let serverCmd ← liftM (commandFlags serverSpec "server".toList)
  let name := profile.id ++ ":".toList ++ scenario.id ++ ":server".toList
  let helper ← liftM (world.helper index .server serverCmd)
  let server ← spawn index helper name
  let results ← tryFinally (driveClient py world runner index server clientSpec) server.terminate
  liftM (bothArtifacts py world (world.scenarioDir profile.id scenario.id) results.1 results.2)

/-- What a completed client leaves behind on its own. -/
def clientArtifacts (dir : Path) (client : CompletedCommand) :
    Except Raised ScenarioArtifacts := do
  let events ← extractEventsForRole py client.stdout "client".toList
  let artifactPaths ← world.writeFiles dir (outputFiles "client")
  return {
    stdout := client.stdout
    stderr := client.stderr
    events := events
    artifactPaths := artifactPaths }

/-- `_run_client_only` -/
def runClientOnly (runner : ProfileRunner) (profile : Profile) (index : Nat) (scenario : Scenario)
    (clientSpec : EndpointSpec) : Act ScenarioArtifacts := do
  let clientSpec ← liftM (runner.clientSpec clientSpec (world.freePort index))
  let clientCmd ← liftM (commandFlags clientSpec "client".toList)
  let helper ← liftM (world.helper index .client clientCmd)
  let client ← runCommand index helper runner.clientTimeout
  liftM (clientArtifacts py world (world.scenarioDir profile.id scenario.id) client)

/-- `execute`, for the selected scenario with this position. -/
def execute (runner : ProfileRunner) (profile : Profile) (index : Nat) (scenario : Scenario) :
    Act ScenarioArtifacts := do
  liftM (world.storage (world.scenarioDir profile.id scenario.id))
  match scenario.server, scenario.client with
  | none, some clientSpec => runClientOnly py world runner profile index scenario clientSpec
  | some serverSpec, some clientSpec =>
      runServerClient py world runner profile index scenario serverSpec clientSpec
  -- `assert scenario.client is not None`
  | _, none => throw .assertionError

/-! ## When a scenario completes -/

/-- The helpers of a scenario can be started, keep to the time limits and print what the runner
can use and write: which helpers are started, and what they leave behind. -/
inductive Completes (runner : ProfileRunner) (profile : Profile) (index : Nat)
    (scenario : Scenario) : List Helper → ScenarioArtifacts → Prop
  /-- The client ends in time. -/
  | clientOnly {clientSpec endpoint : EndpointSpec} {clientCmd : List Text} {client : Helper}
      {clientTime : Nat} {clientCode : Int} {events : List Event}
      (hdir : world.storage (world.scenarioDir profile.id scenario.id) = .ok ())
      (hserver : scenario.server = none) (hclient : scenario.client = some clientSpec)
      (hendpoint : runner.clientSpec clientSpec (world.freePort index) = .ok endpoint)
      (hclientCmd : commandFlags endpoint "client".toList = .ok clientCmd)
      (hclientRun : world.helper index .client clientCmd = .ok client)
      (hclientEnd : client.ending = some (clientTime, clientCode))
      (hclientTime : clientTime < runner.clientTimeout)
      (hdecodes : client.Decodes)
      (hevents : extractEventsForRole py (client.captured clientCode).stdout "client".toList =
        .ok events)
      (hstores : world.Stores (world.scenarioDir profile.id scenario.id) (outputFiles "client")) :
      Completes runner profile index scenario [client] {
        stdout := (client.captured clientCode).stdout
        stderr := (client.captured clientCode).stderr
        events := events
        artifactPaths :=
          world.filePaths (world.scenarioDir profile.id scenario.id) (outputFiles "client") }
  /-- The server is ready in time and names its addresses, then the client ends in time,
  and then the server does. -/
  | serverClient {serverSpec clientSpec : EndpointSpec} {serverCmd clientCmd : List Text}
      {server client : Helper} {readyTime clientTime serverTime : Nat} {ready : Event}
      {connectAddrs : List Value} {clientCode serverCode : Int}
      {serverEvents clientEvents : List Event}
      (hdir : world.storage (world.scenarioDir profile.id scenario.id) = .ok ())
      (hserver : scenario.server = some serverSpec) (hclient : scenario.client = some clientSpec)
      (hserverCmd : commandFlags serverSpec "server".toList = .ok serverCmd)
      (hserverRun : world.helper index .server serverCmd = .ok server)
      (hready : (readEvents py server.stdout).find? (fun entry =>
        entry.2.isNamed "ready".toList) = some (readyTime, ready))
      (hreadyTime : readyTime < readyTimeout)
      (haddrs : readyAddrs ready = .ok connectAddrs)
      (hclientCmd : commandFlags (clientSpec.connecting connectAddrs) "client".toList =
        .ok clientCmd)
      (hclientRun : world.helper index .client clientCmd = .ok client)
      (hclientEnd : client.ending = some (clientTime, clientCode))
      (hclientTime : clientTime < runner.clientTimeout)
      (hdecodes : client.Decodes)
      (hserverEnd : server.ending = some (serverTime, serverCode))
      (hserverTime : serverTime < readyTime + clientTime + runner.serverTimeout)
      (hserverEvents : extractEventsForRole py (server.awaited py serverCode).stdout
        "server".toList = .ok serverEvents)
      (hclientEvents : extractEventsForRole py (client.captured clientCode).stdout
        "client".toList = .ok clientEvents)
      (hstores : world.Stores (world.scenarioDir profile.id scenario.id)
        (outputFiles "server" ++ outputFiles "client")) :
      Completes runner profile index scenario [server, client] {
        stdout := strip (joinTexts "\n".toList
          [(server.awaited py serverCode).stdout, (client.captured clientCode).stdout])
        stderr := strip (joinTexts "\n".toList
          [(server.awaited py serverCode).stderr, (client.captured clientCode).stderr])
        events := serverEvents ++ clientEvents
        artifactPaths := world.filePaths (world.scenarioDir profile.id scenario.id)
          (outputFiles "server" ++ outputFiles "client") }

/-- The events of both helpers can be extracted, and their output is written. -/
theorem bothArtifacts_eq_ok {dir : Path} {server client : CompletedCommand}
    {artifacts : ScenarioArtifacts} :
    bothArtifacts py world dir server client = .ok artifacts ↔
      ∃ serverEvents, extractEventsForRole py server.stdout "server".toList = .ok serverEvents ∧
        ∃ clientEvents, extractEventsForRole py client.stdout "client".toList = .ok clientEvents ∧
          world.Stores dir (outputFiles "server" ++ outputFiles "client") ∧
          artifacts = {
            stdout := strip (joinTexts "\n".toList [server.stdout, client.stdout])
            stderr := strip (joinTexts "\n".toList [server.stderr, client.stderr])
            events := serverEvents ++ clientEvents
            artifactPaths :=
              world.filePaths dir (outputFiles "server" ++ outputFiles "client") } := by
  unfold bothArtifacts
  simp only [Outcome.bind_eq_ok, Outcome.pure_eq_ok, writeFiles_ok_iff]
  constructor
  · rintro ⟨serverEvents, hserver, clientEvents, hclient, paths, ⟨hstores, rfl⟩, rfl⟩
    exact ⟨serverEvents, hserver, clientEvents, hclient, hstores, rfl⟩
  · rintro ⟨serverEvents, hserver, clientEvents, hclient, hstores, rfl⟩
    exact ⟨serverEvents, hserver, clientEvents, hclient, _, ⟨hstores, rfl⟩, rfl⟩

/-- The same for a client on its own. -/
theorem clientArtifacts_eq_ok {dir : Path} {client : CompletedCommand}
    {artifacts : ScenarioArtifacts} :
    clientArtifacts py world dir client = .ok artifacts ↔
      ∃ events, extractEventsForRole py client.stdout "client".toList = .ok events ∧
        world.Stores dir (outputFiles "client") ∧
        artifacts = {
          stdout := client.stdout
          stderr := client.stderr
          events := events
          artifactPaths := world.filePaths dir (outputFiles "client") } := by
  unfold clientArtifacts
  simp only [Outcome.bind_eq_ok, Outcome.pure_eq_ok, writeFiles_ok_iff]
  constructor
  · rintro ⟨events, hevents, paths, ⟨hstores, rfl⟩, rfl⟩
    exact ⟨events, hevents, hstores, rfl⟩
  · rintro ⟨events, hevents, hstores, rfl⟩
    exact ⟨events, hevents, _, ⟨hstores, rfl⟩, rfl⟩

/-- A client without a server returns when it can be started and ends in time. -/
theorem runClientOnly_gives {runner : ProfileRunner} {profile : Profile} {index : Nat}
    {scenario : Scenario} {clientSpec : EndpointSpec} {s t : Stage}
    {artifacts : ScenarioArtifacts} :
    (runClientOnly py world runner profile index scenario clientSpec).Gives s artifacts t ↔
      ∃ endpoint, runner.clientSpec clientSpec (world.freePort index) = .ok endpoint ∧
        ∃ clientCmd, commandFlags endpoint "client".toList = .ok clientCmd ∧
        ∃ client, world.helper index .client clientCmd = .ok client ∧
        ∃ clientTime clientCode, client.ending = some (clientTime, clientCode) ∧
          clientTime < runner.clientTimeout ∧ client.Decodes ∧
          clientArtifacts py world (world.scenarioDir profile.id scenario.id)
            (client.captured clientCode) = .ok artifacts ∧
          t = { now := s.now + clientTime, started := s.started ++ [(index, client)] } := by
  unfold runClientOnly
  simp only [Raising.gives_bind, Raising.gives_liftExcept, runCommand_gives]
  constructor
  · rintro ⟨endpoint, _, ⟨hendpoint, rfl⟩, clientCmd, _, ⟨hcmd, rfl⟩, client, _, ⟨hclient, rfl⟩,
      _, _, ⟨time, code, hending, htime, hdecodes, rfl, rfl⟩, hartifacts, rfl⟩
    exact ⟨endpoint, hendpoint, clientCmd, hcmd, client, hclient, time, code, hending, htime,
      hdecodes, hartifacts, rfl⟩
  · rintro ⟨endpoint, hendpoint, clientCmd, hcmd, client, hclient, time, code, hending, htime,
      hdecodes, hartifacts, rfl⟩
    exact ⟨endpoint, _, ⟨hendpoint, rfl⟩, clientCmd, _, ⟨hcmd, rfl⟩, client, _, ⟨hclient, rfl⟩,
      _, _, ⟨time, code, hending, htime, hdecodes, rfl, rfl⟩, hartifacts, rfl⟩

/-- The `try` block returns when the server gets ready, the client can be started and ends, and
the server ends, each in time. -/
theorem driveClient_gives {runner : ProfileRunner} {index : Nat} {server : Helper} {name : Text}
    {clientSpec : EndpointSpec} {s t : Stage} {results : CompletedCommand × CompletedCommand} :
    (driveClient py world runner index ⟨server, name, s.now⟩ clientSpec).Gives s results t ↔
      ∃ readyTime ready, (readEvents py server.stdout).find? (fun entry =>
          entry.2.isNamed "ready".toList) = some (readyTime, ready) ∧
        readyTime < readyTimeout ∧
        ∃ connectAddrs, readyAddrs ready = .ok connectAddrs ∧
        ∃ clientCmd, commandFlags (clientSpec.connecting connectAddrs) "client".toList =
            .ok clientCmd ∧
        ∃ client, world.helper index .client clientCmd = .ok client ∧
        ∃ clientTime clientCode, client.ending = some (clientTime, clientCode) ∧
          clientTime < runner.clientTimeout ∧ client.Decodes ∧
          ∃ serverTime serverCode, server.ending = some (serverTime, serverCode) ∧
            serverTime < readyTime + clientTime + runner.serverTimeout ∧
            results = (server.awaited py serverCode, client.captured clientCode) ∧
            t = {
              now := s.now + max (readyTime + clientTime) serverTime
              started := s.started ++ [(index, client)] } := by
  unfold driveClient
  simp only [Raising.gives_bind, Raising.gives_liftExcept, runCommand_gives, wait_gives,
    waitForEvent_gives py (show 0 < readyTimeout by decide), Raising.gives_pure]
  constructor
  · rintro ⟨ready, _, ⟨readyTime, hready, hreadyTime, rfl⟩, addrs, _, ⟨haddrs, rfl⟩, clientCmd, _,
      ⟨hcmd, rfl⟩, client, _, ⟨hclient, rfl⟩, _, _,
      ⟨clientTime, clientCode, hclientEnd, hclientTime, hdecodes, rfl, rfl⟩, _, _,
      ⟨serverTime, serverCode, hserverEnd, hserverTime, rfl, rfl⟩, rfl, rfl⟩
    refine ⟨readyTime, ready, hready, by omega, addrs, haddrs, clientCmd, hcmd, client, hclient,
      clientTime, clientCode, hclientEnd, hclientTime, hdecodes, serverTime, serverCode, hserverEnd,
      ?_, rfl, ?_⟩
    · dsimp only at hserverTime
      omega
    · dsimp only
      congr 1
      omega
  · rintro ⟨readyTime, ready, hready, hreadyTime, addrs, haddrs, clientCmd, hcmd, client, hclient,
      clientTime, clientCode, hclientEnd, hclientTime, hdecodes, serverTime, serverCode, hserverEnd,
      hserverTime, rfl, rfl⟩
    refine ⟨ready, _, ⟨readyTime, hready, by omega, rfl⟩, addrs, _, ⟨haddrs, rfl⟩, clientCmd, _,
      ⟨hcmd, rfl⟩, client, _, ⟨hclient, rfl⟩, _, _,
      ⟨clientTime, clientCode, hclientEnd, hclientTime, hdecodes, rfl, rfl⟩, _, _,
      ⟨serverTime, serverCode, hserverEnd, ?_, rfl, rfl⟩, rfl, ?_⟩
    · dsimp only
      omega
    · dsimp only
      congr 1
      omega

/-- When the `try` block has returned, the server has ended and `terminate` does nothing. -/
theorem terminate_after_drive {runner : ProfileRunner} {index : Nat} {server : Helper}
    {name : Text} {clientSpec : EndpointSpec} {s t u : Stage}
    {results : CompletedCommand × CompletedCommand}
    (h : (driveClient py world runner index ⟨server, name, s.now⟩ clientSpec).Gives s results t) :
    (ManagedProcess.terminate ⟨server, name, s.now⟩).Gives t () u ↔ u = t := by
  obtain ⟨readyTime, _, _, _, _, _, _, _, _, _, clientTime, _, _, _, _, serverTime, _, hserverEnd,
    _, _, rfl⟩ := (driveClient_gives py world).mp h
  apply terminate_gives hserverEnd
  dsimp only
  omega

/-- A server and a client return when the server can be started and the `try` block returns. -/
theorem runServerClient_gives {runner : ProfileRunner} {profile : Profile} {index : Nat}
    {scenario : Scenario} {serverSpec clientSpec : EndpointSpec} {s t : Stage}
    {artifacts : ScenarioArtifacts} :
    (runServerClient py world runner profile index scenario serverSpec clientSpec).Gives s
        artifacts t ↔
      ∃ serverCmd, commandFlags serverSpec "server".toList = .ok serverCmd ∧
        ∃ server, world.helper index .server serverCmd = .ok server ∧
        ∃ results, (driveClient py world runner index ⟨server,
            profile.id ++ ":".toList ++ scenario.id ++ ":server".toList, s.now⟩ clientSpec).Gives
            { s with started := s.started ++ [(index, server)] } results t ∧
          bothArtifacts py world (world.scenarioDir profile.id scenario.id) results.1 results.2 =
            .ok artifacts := by
  unfold runServerClient
  simp only [Raising.gives_bind, Raising.gives_liftExcept, spawn_gives, Raising.gives_finally]
  constructor
  · rintro ⟨serverCmd, _, ⟨hcmd, rfl⟩, server, _, ⟨hserver, rfl⟩, process, u, ⟨hprocess, hu⟩,
      results, v, ⟨w, hdrive, hterm⟩, hartifacts, rfl⟩
    subst hprocess hu
    have hw := (terminate_after_drive py world (s := ⟨_, _⟩) hdrive).mp hterm
    subst hw
    exact ⟨serverCmd, hcmd, server, hserver, results, hdrive, hartifacts⟩
  · rintro ⟨serverCmd, hcmd, server, hserver, results, hdrive, hartifacts⟩
    exact ⟨serverCmd, s, ⟨hcmd, rfl⟩, server, s, ⟨hserver, rfl⟩, _, _, ⟨rfl, rfl⟩, results, t,
      ⟨t, hdrive, (terminate_after_drive py world (s := ⟨_, _⟩) hdrive).mpr rfl⟩, hartifacts, rfl⟩

/-- `execute` returns only if the scenario completes, and it has started the scenario's
helpers. -/
theorem completes_of_execute {runner : ProfileRunner} {profile : Profile} {index : Nat}
    {scenario : Scenario} {s t : Stage} {artifacts : ScenarioArtifacts}
    (h : (execute py world runner profile index scenario).Gives s artifacts t) :
    ∃ helpers, Completes py world runner profile index scenario helpers artifacts ∧
      t.started = s.started ++ helpers.map fun helper => (index, helper) := by
  unfold execute at h
  simp only [Raising.gives_bind, Raising.gives_liftExcept] at h
  obtain ⟨_, _, ⟨hdir, rfl⟩, h⟩ := h
  split at h
  · rename_i clientSpec hserver hclient
    obtain ⟨endpoint, hendpoint, clientCmd, hcmd, client, hrun, clientTime, clientCode, hending,
      htime, hdecodes, hartifacts, rfl⟩ := (runClientOnly_gives py world).mp h
    obtain ⟨events, hevents, hstores, rfl⟩ := (clientArtifacts_eq_ok py world).mp hartifacts
    exact ⟨_, .clientOnly hdir hserver hclient hendpoint hcmd hrun hending htime hdecodes hevents
      hstores, rfl⟩
  · rename_i serverSpec clientSpec hserver hclient
    obtain ⟨serverCmd, hserverCmd, server, hserverRun, results, hdrive, hartifacts⟩ :=
      (runServerClient_gives py world).mp h
    obtain ⟨readyTime, ready, hready, hreadyTime, addrs, haddrs, clientCmd, hcmd, client, hrun,
      clientTime, clientCode, hclientEnd, hclientTime, hdecodes, serverTime, serverCode, hserverEnd,
      hserverTime, rfl, rfl⟩ := (driveClient_gives py world (s := ⟨_, _⟩)).mp hdrive
    obtain ⟨serverEvents, hserverEvents, clientEvents, hclientEvents, hstores, rfl⟩ :=
      (bothArtifacts_eq_ok py world).mp hartifacts
    exact ⟨_, .serverClient hdir hserver hclient hserverCmd hserverRun hready hreadyTime haddrs hcmd
      hrun hclientEnd hclientTime hdecodes hserverEnd hserverTime hserverEvents hclientEvents
      hstores, by simp⟩
  · exact absurd h Raising.not_gives_throw

/-- `execute` returns if the scenario completes. -/
theorem execute_of_completes {runner : ProfileRunner} {profile : Profile} {index : Nat}
    {scenario : Scenario} {helpers : List Helper} {artifacts : ScenarioArtifacts}
    (h : Completes py world runner profile index scenario helpers artifacts) (s : Stage) :
    ∃ t, (execute py world runner profile index scenario).Gives s artifacts t ∧
      t.started = s.started ++ helpers.map fun helper => (index, helper) := by
  unfold execute
  simp only [Raising.gives_bind, Raising.gives_liftExcept]
  cases h with
  | clientOnly hdir hserver hclient hendpoint hcmd hrun hending htime hdecodes hevents hstores =>
      rw [hserver, hclient]
      exact ⟨_, ⟨(), s, ⟨hdir, rfl⟩, (runClientOnly_gives py world).mpr
        ⟨_, hendpoint, _, hcmd, _, hrun, _, _, hending, htime, hdecodes,
          (clientArtifacts_eq_ok py world).mpr ⟨_, hevents, hstores, rfl⟩, rfl⟩⟩, rfl⟩
  | serverClient hdir hserver hclient hserverCmd hserverRun hready hreadyTime haddrs hcmd hrun
      hclientEnd hclientTime hdecodes hserverEnd hserverTime hserverEvents hclientEvents hstores =>
      rw [hserver, hclient]
      refine ⟨_, ⟨(), s, ⟨hdir, rfl⟩, (runServerClient_gives py world).mpr
        ⟨_, hserverCmd, _, hserverRun, _, (driveClient_gives py world (s := ⟨s.now, _⟩)).mpr
          ⟨_, _, hready, hreadyTime, _, haddrs, _, hcmd, _, hrun, _, _, hclientEnd, hclientTime,
            hdecodes, _, _, hserverEnd, hserverTime, rfl, rfl⟩,
          (bothArtifacts_eq_ok py world).mpr
            ⟨_, hserverEvents, _, hclientEvents, hstores, rfl⟩⟩⟩, ?_⟩
      simp

/-- The behaviour of the helpers decides which are started and what they leave behind. -/
theorem Completes.unique {runner : ProfileRunner} {profile : Profile} {index : Nat}
    {scenario : Scenario} {helpers helpers' : List Helper} {artifacts artifacts' : ScenarioArtifacts}
    (h : Completes py world runner profile index scenario helpers artifacts)
    (h' : Completes py world runner profile index scenario helpers' artifacts') :
    helpers = helpers' ∧ artifacts = artifacts' := by
  obtain ⟨t, hrun, hstarted⟩ := execute_of_completes py world h { now := 0, started := [] }
  obtain ⟨t', hrun', hstarted'⟩ := execute_of_completes py world h' { now := 0, started := [] }
  obtain ⟨hartifacts, rfl⟩ := hrun.unique hrun'
  rw [hstarted] at hstarted'
  refine ⟨List.map_injective_iff.mpr ?_ (List.append_cancel_left hstarted'), hartifacts⟩
  intro helper helper' heq
  cases heq
  rfl

/-! ## Which error events are seen -/

/-- The reader keeps every line when `json.loads` raises nothing but decoding errors. -/
theorem readLines_all {lines : List (Nat × Text)}
    (h : ∀ line ∈ lines, ∀ exception, py.loads line.2 ≠ .raised exception) :
    readLines py lines = lines.map (·.2) := by
  induction lines with
  | nil => rfl
  | cons line rest ih =>
      have hline := h line List.mem_cons_self
      unfold readLines
      rw [ih fun l hl => h l (List.mem_cons_of_mem _ hl)]
      split
      · rename_i exception hraised
        exact absurd hraised (hline exception)
      · rfl

/-- An error event that a helper prints on a line free of the other boundaries of
`str.splitlines` is seen by the evaluation. -/
theorem Completes.error_shown {runner : ProfileRunner} {profile : Profile} {index : Nat}
    {scenario : Scenario} {helpers : List Helper} {artifacts : ScenarioArtifacts}
    (h : Completes py world runner profile index scenario helpers artifacts) {helper : Helper}
    (hhelper : helper ∈ helpers)
    (hraises : ∀ line ∈ helper.stdout, ∀ exception, py.loads line.2 ≠ .raised exception)
    {line : Nat × Text} (hline : line ∈ helper.stdout) (hne : line.2 ≠ [])
    (hwhole : ∀ ch ∈ line.2, isLineBoundary ch = false) {event : Event}
    (hloads : py.loads line.2 = .value (.dict event)) (herror : event.isNamed "error".toList) :
    firstEvent artifacts.events "error".toList ≠ none := by
  have hlines : ∀ text ∈ helper.stdout.map (·.2), '\r' ∉ text := by
    intro text htext
    obtain ⟨line', hline', rfl⟩ := List.mem_map.mp htext
    exact (helper.stdout_lines line' hline').2
  have hmem : line.2 ∈ helper.stdout.map (·.2) := List.mem_map_of_mem hline
  have hcaptured : ∀ code, line.2 ∈ splitlines (helper.captured code).stdout := by
    intro code
    have := mem_splitlines_flatMap hlines hmem hwhole
    rwa [List.flatMap_map] at this
  have hawaited : ∀ code, line.2 ∈ splitlines (helper.awaited py code).stdout := by
    intro code
    unfold Helper.awaited
    rw [readLines_all py hraises]
    exact mem_splitlines_join hlines hmem hwhole hne
  rw [firstEvent_ne_none]
  cases h with
  | clientOnly _ _ _ _ _ _ _ _ _ hevents _ =>
      obtain rfl := List.mem_singleton.mp hhelper
      exact firstEvent_extracted py hevents (hcaptured _) hloads herror
  | serverClient _ _ _ _ _ _ _ _ _ _ _ _ _ _ _ hserver hclient _ =>
      rcases List.mem_cons.mp hhelper with rfl | hhelper
      · obtain ⟨found, hfound, hname⟩ :=
          firstEvent_extracted py hserver (hawaited _) hloads herror
        exact ⟨found, List.mem_append_left _ hfound, hname⟩
      · obtain rfl := List.mem_singleton.mp hhelper
        obtain ⟨found, hfound, hname⟩ :=
          firstEvent_extracted py hclient (hcaptured _) hloads herror
        exact ⟨found, List.mem_append_right _ hfound, hname⟩

end SctpConformance.Runner
