import SctpConformance.Helpers.Evaluation
import SctpConformance.Runner.Execution
import SctpConformance.Runner.Lines
import SctpConformance.Runner.JsonLoads

/-!
# Scenarios with the C helper

A scenario from end to end: the runner starts two processes of the C helper with the command
lines that it makes of the scenario, reads what they print, and evaluates it.

Main results:

- Theorem `Executes.events`: the runner gets the events that the program has printed.
- Theorem `scenario_passes_iff`: a scenario passes exactly when the SCTP stacks of both
  processes did what the scenario asserts.
-/

namespace SctpConformance.FreebsdHelper

open Library
open Runner (sampleInterpreter EndpointSpec Interpreter Profile ProfileRunner Scenario
  ScenarioArtifacts Stage Text Value World capturedText commandFlags encodeUtf8 extractEvents isLineBoundary joinTexts readEvents
  evaluateScenario execute expectedStages extractEventsForRole joinValues readLines splitlines)

/-! ## Processes of the program -/

/-- The process has printed what the program prints, and ends as it does.  All texts that it
prints come through. -/
structure Executes (helper : Runner.Helper) (ran : Ran) : Prop where
  carried : ∀ event ∈ ran.events, event.Carried
  output : capturedText (printed ran.events) =
    some (helper.stdout.flatMap fun line => line.2 ++ "\n".toList)
  ending : ∀ time code, helper.ending = some (time, code) → ran.exitCode = some code

/-- Lines can be told apart by the newlines behind them. -/
theorem lines_eq {lines lines' : List Text} (h : ∀ line ∈ lines, '\n' ∉ line)
    (h' : ∀ line ∈ lines', '\n' ∉ line)
    (heq : lines.flatMap (· ++ "\n".toList) = lines'.flatMap (· ++ "\n".toList)) :
    lines = lines' := by
  induction lines generalizing lines' with
  | nil =>
      cases lines' with
      | nil => rfl
      | cons line' lines' => simp at heq
  | cons line lines ih =>
      cases lines' with
      | nil => simp at heq
      | cons line' lines' =>
          have hsplit : line ++ '\n' :: lines.flatMap (· ++ "\n".toList) =
              line' ++ '\n' :: lines'.flatMap (· ++ "\n".toList) := by
            simpa using heq
          have hfront {text rest : Text} (hfree : '\n' ∉ text) :
              (text ++ '\n' :: rest).takeWhile (· ≠ '\n') = text := by
            rw [List.takeWhile_append_of_pos fun ch hch => by
              simpa using fun heq : ch = '\n' => hfree (heq ▸ hch),
              List.takeWhile_cons_of_neg (by simp), List.append_nil]
          have hline : line = line' := by
            rw [← hfront (h line List.mem_cons_self), hsplit, hfront (h' line' List.mem_cons_self)]
          subst hline
          have hrest := (List.cons.inj (List.append_cancel_left hsplit)).2
          rw [ih (fun l hl => h l (List.mem_cons_of_mem _ hl))
            (fun l hl => h' l (List.mem_cons_of_mem _ hl)) hrest]

section Reading

variable {interpreter : Interpreter} {helper : Runner.Helper} {ran : Ran}

/-- The lines of the process are those of its events. -/
theorem Executes.lines (h : Executes helper ran) :
    helper.stdout.map Prod.snd = ran.events.map HelperEvent.line := by
  have hcarried := h.carried
  have houtput := h.output
  rw [capturedText_printed hcarried, Option.some_inj, outputText] at houtput
  refine lines_eq ?_ ?_ ?_
  · intro line hline
    obtain ⟨entry, hentry, rfl⟩ := List.mem_map.mp hline
    exact (helper.stdout_lines entry hentry).1
  · intro line hline
    obtain ⟨event, hevent, rfl⟩ := List.mem_map.mp hline
    exact (not_mem_of_boundary (line_boundary (hcarried event hevent))).1
  · rw [List.flatMap_map, List.flatMap_map, houtput]

/-- The reader of the output stops at no line. -/
theorem Executes.readLines (h : Executes helper ran) (hrecursion : 0 < interpreter.recursion) :
    readLines interpreter.python helper.stdout = ran.events.map HelperEvent.line := by
  have hall : ∀ {lines : List (Nat × Text)},
      (∀ line ∈ lines.map Prod.snd, ¬Runner.Raises interpreter.python line) →
        Runner.readLines interpreter.python lines = lines.map Prod.snd := by
    intro lines hlines
    induction lines with
    | nil => rfl
    | cons entry lines ih =>
        rw [List.map_cons, List.forall_mem_cons] at hlines
        unfold Runner.readLines
        split
        · rename_i exception hraises
          exact absurd ⟨exception, hraises⟩ hlines.1
        · rw [ih hlines.2]
          rfl
  rw [hall, h.lines]
  intro line hline
  rw [h.lines] at hline
  obtain ⟨event, hevent, rfl⟩ := List.mem_map.mp hline
  exact not_raises_line (h.carried event hevent) hrecursion

/-- The events are read from their lines. -/
theorem flatMap_eventOf {events : List HelperEvent} (h : ∀ event ∈ events, event.Carried)
    (hrecursion : 0 < interpreter.recursion) :
    (events.map HelperEvent.line).flatMap (Runner.eventOf interpreter.python) =
      events.map HelperEvent.read := by
  rw [List.flatMap_map, List.flatMap_congr fun event hevent => eventOf_line (h event hevent)
    hrecursion]
  exact List.map_eq_flatMap.symm

/-- The runner gets the events that the program has printed: from the output that it has
captured, from the lines that it has read, and in its queue. -/
theorem Executes.events (h : Executes helper ran) (hrecursion : 0 < interpreter.recursion)
    (code : Int) :
    extractEvents interpreter.python (helper.captured code).stdout =
        .ok (ran.events.map HelperEvent.read) ∧
      extractEvents interpreter.python (helper.awaited interpreter.python code).stdout =
        .ok (ran.events.map HelperEvent.read) ∧
      (readEvents interpreter.python helper.stdout).map Prod.snd =
        ran.events.map HelperEvent.read := by
  have hcarried := h.carried
  have hqueue : (readEvents interpreter.python helper.stdout).map Prod.snd =
      ran.events.map HelperEvent.read := by
    rw [Runner.readEvents_eq, h.readLines hrecursion, flatMap_eventOf hcarried hrecursion]
  refine ⟨?_, ?_, hqueue⟩
  · have htext : (helper.captured code).stdout = outputText ran.events := by
      have houtput := h.output
      rw [capturedText_printed hcarried, Option.some_inj] at houtput
      exact houtput.symm
    rw [htext, extractEvents_printed hcarried hrecursion]
  · have hsplit : ∀ line ∈ ran.events.map HelperEvent.line, splitlines line = [line] := by
      intro line hline
      obtain ⟨event, hevent, rfl⟩ := List.mem_map.mp hline
      exact Runner.splitlinesFrom_last (line_boundary (hcarried event hevent)) []
        (by simp [HelperEvent.line, objectText])
    have hreturn : ∀ line ∈ ran.events.map HelperEvent.line, '\r' ∉ line := by
      intro line hline
      obtain ⟨event, hevent, rfl⟩ := List.mem_map.mp hline
      exact (not_mem_of_boundary (line_boundary (hcarried event hevent))).2
    show extractEvents interpreter.python
      (joinTexts "\n".toList (Runner.readLines interpreter.python helper.stdout)) = _
    have hempty := interpreter.loads_nil
    rw [h.readLines hrecursion, Runner.extractEvents_join hempty hreturn]
    constructor
    · intro line hline piece hpiece
      rw [hsplit line hline, List.mem_singleton] at hpiece
      subst hpiece
      obtain ⟨event, hevent, rfl⟩ := List.mem_map.mp hline
      exact not_raises_line (hcarried event hevent) hrecursion
    · rw [← flatMap_eventOf hcarried hrecursion]
      refine (List.flatMap_congr fun line hline => ?_).symm
      rw [hsplit line hline, List.flatMap_singleton]

/-- The events that a helper leaves in the artifacts. -/
theorem Executes.forRole (h : Executes helper ran) (hrecursion : 0 < interpreter.recursion)
    (code : Int) (role : String) :
    extractEventsForRole interpreter.python (helper.captured code).stdout role.toList =
        .ok (ran.events.map (HelperEvent.shown role)) ∧
      extractEventsForRole interpreter.python (helper.awaited interpreter.python code).stdout
        role.toList = .ok (ran.events.map (HelperEvent.shown role)) := by
  obtain ⟨hcaptured, hawaited, -⟩ := h.events hrecursion code
  have hmap : (ran.events.map HelperEvent.read).map
      (fun event => event.set "role".toList (.str role.toList)) =
        ran.events.map (HelperEvent.shown role) := by
    rw [List.map_map]
    rfl
  unfold extractEventsForRole
  rw [hcaptured, hawaited, ← hmap]
  exact ⟨rfl, rfl⟩

end Reading

/-! ## The processes of a scenario -/

/-- The options that a helper gets for an endpoint. -/
def HasOptions (spec : EndpointSpec) (mode : Text) (opts : Options) : Prop :=
  ∃ connectAddrs, joinValues spec.connectAddrs = .ok connectAddrs ∧
    opts = endpointOptions spec connectAddrs mode

/-- The client's side of a scenario, when the server has named these addresses. -/
def told (clientSpec : EndpointSpec) (localAddrs : List CppString) : EndpointSpec :=
  clientSpec.connecting (localAddrs.map fun addr => .str (cText addr))

/-- The two processes of a scenario are runs of the program on these stacks. -/
structure Plays (world : World) (index : Nat) (serverSpec clientSpec : EndpointSpec)
    (serverStack clientStack : Stack) (strerror : Errno → CppString) : Prop where
  server : ∀ serverCmd helper, commandFlags serverSpec "server".toList = .ok serverCmd →
    world.helper index .server serverCmd = .ok helper →
      Executes helper (main serverStack strerror (serverCmd.map encodeUtf8))
  client : ∀ serverOpts started clientCmd helper,
    HasOptions serverSpec "server".toList serverOpts →
    listening serverStack serverOpts = some started →
    commandFlags (told clientSpec started.2) "client".toList = .ok clientCmd →
    world.helper index .client clientCmd = .ok helper →
      Executes helper (main clientStack strerror (clientCmd.map encodeUtf8))

/-- The server gets all messages, the client does not fail, and what is asserted is so. -/
structure Passes (py : Runner.Python) (assertions : Runner.Assertions)
    (serverStack clientStack : Stack) (serverOpts clientOpts : Options)
    (localAddrs : List CppString) : Prop where
  received : serverOpts.readMessages.toNat ≤ messageCount (delivered serverStack.recvv)
  client : clientEnd clientStack clientOpts ≠ .failed
  stages : ∀ stages, expectedStages assertions.expectedFailure = some stages →
    ∃ stage ∈ stages, (clientEnd clientStack clientOpts).stage = some stage
  asserted : expectedStages assertions.expectedFailure = none →
    Meets py assertions (upTo serverOpts.readMessages.toNat (delivered serverStack.recvv))
      (some localAddrs) (namedPeerAddrs clientStack clientOpts)

section Scenarios

variable {interpreter : Interpreter} {world : World} {index : Nat}
  {serverSpec clientSpec : EndpointSpec} {serverStack clientStack : Stack}
  {strerror : Errno → CppString}

/-- The runner waits for the addresses of the server: the server listens then, and these are
its addresses. -/
theorem ready_listening {ran : Ran} {helper : Runner.Helper} {opts : Options}
    (hexecutes : Executes helper ran) (hrecursion : 0 < interpreter.recursion)
    (hends : ran.Ends (serverEvents serverStack opts) (serverOutcome serverStack opts))
    {time : Nat} {ready : Runner.Event} {connectAddrs : List Value}
    (hready : (readEvents interpreter.python helper.stdout).find? (fun entry =>
      entry.2.isNamed "ready".toList) = some (time, ready))
    (haddrs : Runner.readyAddrs ready = .ok connectAddrs) :
    ∃ started, listening serverStack opts = some started ∧
      connectAddrs = started.2.map fun addr => .str (cText addr) := by
  have hqueue := (hexecutes.events hrecursion 0).2.2
  have hnamed (event : HelperEvent) :
      event.read.isNamed "ready".toList = decide (event.name = "ready".toList) := by
    unfold Runner.Event.isNamed Runner.Event.hasText
    rw [get_read_event]
  cases hlistening : listening serverStack opts with
  | none =>
      simp only [serverEvents, serverOutcome, hlistening] at hends
      obtain ⟨-, message, hevents⟩ := hends
      have hmem : ready ∈ ran.events.map HelperEvent.read := by
        rw [← hqueue]
        exact List.mem_map_of_mem (List.mem_of_find?_eq_some hready)
      have hname := List.find?_some hready
      rw [hevents, List.nil_append, List.map_singleton, List.mem_singleton] at hmem
      rw [hmem, hnamed] at hname
      have hsame : "error".toList = "ready".toList := of_decide_eq_true hname
      exact absurd hsame (by decide)
  | some started =>
      refine ⟨started, rfl, ?_⟩
      have hfirst : ∃ tail, ran.events = .ready started.2 :: tail := by
        simp only [serverEvents, serverOutcome, hlistening] at hends
        rcases hreceive : receiveOutcome opts.readMessages.toNat serverStack.recvv with stop | value
        · rw [hreceive] at hends
          cases stop with
          | waiting => exact ⟨_, hends.2⟩
          | failed =>
              obtain ⟨-, message, hevents⟩ := hends
              exact ⟨_, hevents⟩
        · rw [hreceive] at hends
          exact ⟨_, hends.2⟩
      obtain ⟨tail, hevents⟩ := hfirst
      rw [hevents, List.map_cons] at hqueue
      cases hentries : readEvents interpreter.python helper.stdout with
      | nil => simp [hentries] at hqueue
      | cons entry entries =>
          rw [hentries, List.map_cons] at hqueue
          have hhead : entry.2 = (HelperEvent.ready started.2).read := (List.cons.inj hqueue).1
          have hname : entry.2.isNamed "ready".toList = true := by
            rw [hhead, hnamed]
            rfl
          rw [hentries, List.find?_cons, hname] at hready
          have hread : ready = (HelperEvent.ready started.2).read := by
            rw [← hhead, Option.some.inj hready]
          have hlist : (HelperEvent.ready started.2).read.get "local_addrs".toList =
              some (.list (started.2.map fun addr => .str (cText addr))) := by
            simp [HelperEvent.read, HelperEvent.members, Runner.Event.get_cons, Field.read]
          unfold Runner.readyAddrs at haddrs
          rw [hread, hlist] at haddrs
          exact (Except.ok.inj haddrs).symm

/-- The addresses of the server do not change the counts. -/
theorem FitsInt.told {spec : EndpointSpec} (h : FitsInt spec) (localAddrs : List CppString) :
    FitsInt (told spec localAddrs) := by
  unfold FreebsdHelper.told EndpointSpec.connecting
  split
  · exact ⟨h.readMessages, h.numOstreams, h.maxInstreams, h.maxAttempts, h.maxInitTimeout⟩
  · exact h

/-- A process that was started with the command line of an endpoint runs with its options. -/
theorem main_of_flags (stack : Stack) (strerror : Errno → CppString) {spec : EndpointSpec}
    (hfits : FitsInt spec) {mode : Text} {cmd : List Text} (hcmd : commandFlags spec mode = .ok cmd) :
    ∃ opts, HasOptions spec mode opts ∧
      (mode = "server".toList → (main stack strerror (cmd.map encodeUtf8)).Ends
        (serverEvents stack opts) (serverOutcome stack opts)) ∧
      (mode = "client".toList → (main stack strerror (cmd.map encodeUtf8)).Ends
        (clientEvents stack opts ++ (clientEnd stack opts).events strerror)
        (clientEnd stack opts).outcome) := by
  obtain ⟨connectAddrs, hjoin, hparse⟩ := parseOptions_commandFlags hfits mode hcmd
  refine ⟨_, ⟨connectAddrs, hjoin, rfl⟩, ?_, ?_⟩
  · rintro rfl
    exact main_server stack strerror hparse (str_eq_encodeUtf8 "server").symm
  · rintro rfl
    exact main_client stack strerror hparse (str_eq_encodeUtf8 "client").symm

/-- The evaluation of the events of a server and of its client. -/
theorem evaluate_both {py : Runner.Python} {serverRan clientRan : Ran}
    {serverOpts clientOpts : Options}
    (hserverEnds : serverRan.Ends (serverEvents serverStack serverOpts)
      (serverOutcome serverStack serverOpts)) (hended : serverRan.exitCode ≠ none)
    {started : Nat × List CppString} (hlistening : listening serverStack serverOpts = some started)
    (hclientEnds : clientRan.Ends (clientEvents clientStack clientOpts ++
      (clientEnd clientStack clientOpts).events strerror) (clientEnd clientStack clientOpts).outcome)
    (profile : Profile) (scenario : Scenario) {artifacts : ScenarioArtifacts}
    (hshown : artifacts.events = serverRan.events.map (HelperEvent.shown "server") ++
      clientRan.events.map (HelperEvent.shown "client")) :
    ∃ result, evaluateScenario py profile scenario artifacts = .ok result ∧
      (result.status = .pass ↔ Passes py scenario.assertions serverStack clientStack serverOpts
        clientOpts started.2) := by
  obtain ⟨hserverPlain, hserverErrors, hserverStage, hheard, hlocal⟩ :=
    server_shown hserverEnds hended hlistening
  obtain ⟨hclientPlain, hclientErrors, hclientStage, hsilent, hpeer⟩ := client_shown hclientEnds
  obtain ⟨status, message, hverdict, hpass⟩ := verdict_iff py scenario.assertions
    (List.forall_mem_append.mpr ⟨hserverPlain, hclientPlain⟩)
  rw [shownAll_ofBoth, shownAll_role, shownAll_role, ← hshown] at hverdict
  have hstage : (serverRan.events ++ clientRan.events).findSome? HelperEvent.stage =
      (clientEnd clientStack clientOpts).stage := by
    rw [List.findSome?_append, List.findSome?_eq_none_iff.mpr hserverStage, Option.none_or,
      hclientStage]
  have hall : heardOf (serverRan.events ++ clientRan.events) =
      upTo serverOpts.readMessages.toNat (delivered serverStack.recvv) := by
    rw [heardOf, List.filterMap_append, ← heardOf, ← heardOf, hheard, hsilent, List.append_nil]
  rw [List.forall_mem_append, hserverErrors, hclientErrors, hstage, hall, hlocal, hpeer] at hpass
  unfold evaluateScenario
  rw [hverdict]
  refine ⟨_, rfl, hpass.trans ⟨fun h => ?_, fun h => ?_⟩⟩
  · obtain ⟨⟨hreceived, hclient⟩, hstages, hasserted⟩ := h
    exact ⟨hreceived, hclient, hstages, hasserted⟩
  · exact ⟨⟨h.received, h.client⟩, h.stages, h.asserted⟩

/-- A scenario in which both helpers have ended: the server has listened, the client has been
told its addresses, and the scenario passes exactly when both SCTP stacks did what it asks. -/
theorem scenario_passes_iff {runner : ProfileRunner} {profile : Profile} {scenario : Scenario}
    (hserver : scenario.server = some serverSpec) (hclient : scenario.client = some clientSpec)
    (hserverFits : FitsInt serverSpec) (hclientFits : FitsInt clientSpec)
    (hplays : Plays world index serverSpec clientSpec serverStack clientStack strerror)
    (hrecursion : 0 < interpreter.recursion) {s t : Stage} {artifacts : ScenarioArtifacts}
    (hexecute : (execute interpreter.python world runner profile index scenario).Gives s artifacts
      t) :
    ∃ serverOpts clientOpts started result,
      HasOptions serverSpec "server".toList serverOpts ∧
        listening serverStack serverOpts = some started ∧
        HasOptions (told clientSpec started.2) "client".toList clientOpts ∧
        evaluateScenario interpreter.python profile scenario artifacts = .ok result ∧
        (result.status = .pass ↔ Passes interpreter.python scenario.assertions serverStack
          clientStack serverOpts clientOpts started.2) := by
  obtain ⟨helpers, hcompletes, -⟩ := Runner.completes_of_execute interpreter.python world hexecute
  generalize hleft : artifacts = left at hcompletes
  cases hcompletes with
  | clientOnly _ hnone =>
      rw [hserver] at hnone
      cases hnone
  | @serverClient serverSpec' clientSpec' serverCmd clientCmd server client readyTime clientTime
      serverTime ready connectAddrs clientCode serverCode serverEvents clientEvents _ hserver'
      hclient' hserverCmd hserverRun hready hreadyTime haddrs hclientCmd hclientRun hclientEnd
      hclientTime _ hserverEnd hserverTime hserverShown hclientShown _ =>
      obtain rfl := Option.some.inj (hserver.symm.trans hserver')
      obtain rfl := Option.some.inj (hclient.symm.trans hclient')
      have hserverPlays := hplays.server serverCmd server hserverCmd hserverRun
      obtain ⟨serverOpts, hserverOpts, hserverEnds, -⟩ :=
        main_of_flags serverStack strerror hserverFits hserverCmd
      obtain ⟨started, hlistening, hnamed⟩ :=
        ready_listening hserverPlays hrecursion (hserverEnds rfl) hready haddrs
      subst hnamed
      have hclientPlays := hplays.client serverOpts started clientCmd client hserverOpts hlistening
        hclientCmd hclientRun
      obtain ⟨clientOpts, hclientOpts, -, hclientEnds⟩ :=
        main_of_flags clientStack strerror (hclientFits.told started.2) hclientCmd
      -- What is evaluated.
      rw [(hserverPlays.forRole hrecursion serverCode "server").2] at hserverShown
      rw [(hclientPlays.forRole hrecursion clientCode "client").1] at hclientShown
      obtain rfl := Except.ok.inj hserverShown
      obtain rfl := Except.ok.inj hclientShown
      have hevents := congrArg ScenarioArtifacts.events hleft
      have hended : (main serverStack strerror (serverCmd.map encodeUtf8)).exitCode ≠ none := by
        rw [hserverPlays.ending _ _ hserverEnd]
        nofun
      obtain ⟨result, hresult, hpass⟩ := evaluate_both (hserverEnds rfl) hended hlistening
        (hclientEnds rfl) profile scenario hevents
      rw [hleft] at hresult
      exact ⟨serverOpts, clientOpts, started, result, hserverOpts, hlistening, hclientOpts, hresult,
        hpass⟩

/-- The runner gets through the scenario if the helpers can be started and keep to the time
limits, and their output can be decoded and written. -/
theorem execute_plays {runner : ProfileRunner} (profile : Profile) {scenario : Scenario}
    (hserver : scenario.server = some serverSpec) (hclient : scenario.client = some clientSpec)
    (hplays : Plays world index serverSpec clientSpec serverStack clientStack strerror)
    (hrecursion : 0 < interpreter.recursion) {serverCmd clientCmd : List Text}
    {serverOpts : Options} {started : Nat × List CppString}
    (hserverCmd : commandFlags serverSpec "server".toList = .ok serverCmd)
    (hserverOpts : HasOptions serverSpec "server".toList serverOpts)
    (hlistening : listening serverStack serverOpts = some started)
    (hfirst : (main serverStack strerror (serverCmd.map encodeUtf8)).events.head? =
      some (.ready started.2))
    {server client : Runner.Helper} (hserverRun : world.helper index .server serverCmd = .ok server)
    (hprompt : ∀ line ∈ server.stdout, line.1 < Runner.readyTimeout)
    (hclientCmd : commandFlags (told clientSpec started.2) "client".toList = .ok clientCmd)
    (hclientRun : world.helper index .client clientCmd = .ok client)
    {clientTime serverTime : Nat} {clientCode serverCode : Int}
    (hclientEnd : client.ending = some (clientTime, clientCode))
    (hclientTime : clientTime < runner.clientTimeout) (hdecodes : client.Decodes)
    (hserverEnd : server.ending = some (serverTime, serverCode))
    (hserverTime : serverTime < clientTime + runner.serverTimeout)
    (hdir : world.storage (world.scenarioDir profile.id scenario.id) = .ok ())
    (hstores : world.Stores (world.scenarioDir profile.id scenario.id)
      (Runner.outputFiles "server" ++ Runner.outputFiles "client")) (s : Stage) :
    ∃ artifacts t, (execute interpreter.python world runner profile index scenario).Gives s artifacts
      t := by
  have hserverPlays := hplays.server serverCmd server hserverCmd hserverRun
  have hclientPlays := hplays.client serverOpts started clientCmd client hserverOpts hlistening
    hclientCmd hclientRun
  have hqueue := (hserverPlays.events hrecursion 0).2.2
  obtain ⟨rest, hevents⟩ : ∃ rest, (main serverStack strerror (serverCmd.map encodeUtf8)).events =
      .ready started.2 :: rest := List.head?_eq_some_iff.mp hfirst
  rw [hevents, List.map_cons] at hqueue
  cases hentries : readEvents interpreter.python server.stdout with
  | nil => simp [hentries] at hqueue
  | cons entry entries =>
      rw [hentries, List.map_cons] at hqueue
      have hhead : entry.2 = (HelperEvent.ready started.2).read := (List.cons.inj hqueue).1
      have hnamed : entry.2.isNamed "ready".toList = true := by
        unfold Runner.Event.isNamed Runner.Event.hasText
        rw [hhead, get_read_event]
        rfl
      have hready : (readEvents interpreter.python server.stdout).find? (fun entry =>
          entry.2.isNamed "ready".toList) = some (entry.1, entry.2) := by
        rw [hentries, List.find?_cons, hnamed]
      have htime : entry.1 < Runner.readyTimeout := by
        have hmem := (Runner.readEvents_sublist interpreter.python server.stdout).subset
          (show entry.1 ∈ _ by rw [hentries]; exact List.mem_cons_self)
        obtain ⟨line, hline, heq⟩ := List.mem_map.mp hmem
        exact heq ▸ hprompt line hline
      have haddrs : Runner.readyAddrs entry.2 =
          .ok (started.2.map fun addr => .str (cText addr)) := by
        unfold Runner.readyAddrs
        rw [hhead]
        simp [HelperEvent.read, HelperEvent.members, Runner.Event.get_cons, Field.read,
          Value.toList]
      have hcompletes : ∃ artifacts, Runner.Completes interpreter.python world runner profile index
          scenario [server, client] artifacts :=
        ⟨_, .serverClient hdir hserver hclient hserverCmd hserverRun hready htime haddrs hclientCmd
          hclientRun hclientEnd hclientTime hdecodes hserverEnd (by omega)
          (hserverPlays.forRole hrecursion serverCode "server").2
          (hclientPlays.forRole hrecursion clientCode "client").1 hstores⟩
      obtain ⟨artifacts, hcompletes⟩ := hcompletes
      obtain ⟨t, hgives, -⟩ := Runner.execute_of_completes interpreter.python world hcompletes s
      exact ⟨artifacts, t, hgives⟩

end Scenarios

/-! ## A scenario that passes -/

/-- A helper that prints at once what the program prints. -/
def printing (ran : Ran) (hcarried : ∀ event ∈ ran.events, event.Carried) : Runner.Helper where
  stdout := ran.events.map fun event => (0, event.line)
  stderr := []
  ending := ran.exitCode.map fun code => (1, code)
  endsOnTerminate := true
  endsOnKill := true
  stdout_lines := by
    intro line hline
    obtain ⟨event, hevent, rfl⟩ := List.mem_map.mp hline
    exact not_mem_of_boundary (line_boundary (hcarried event hevent))
  stdout_ordered := by
    rw [List.map_map]
    exact List.pairwise_of_forall_mem_list fun a ha b hb => by
      obtain ⟨event, -, rfl⟩ := List.mem_map.mp ha
      exact Nat.zero_le _
  stdout_before := by
    intro line hline last _
    obtain ⟨event, -, rfl⟩ := List.mem_map.mp hline
    exact Nat.zero_le _

/-- It executes the program. -/
theorem executes_printing {ran : Ran} (hcarried : ∀ event ∈ ran.events, event.Carried) :
    Executes (printing ran hcarried) ran := by
  refine ⟨hcarried, ?_, ?_⟩
  · rw [capturedText_printed hcarried, printing, List.flatMap_map]
    rfl
  · intro time code hending
    obtain ⟨code', hcode, heq⟩ := Option.map_eq_some_iff.mp hending
    rw [hcode]
    exact congrArg some (Prod.mk.inj heq).2

/-- It ends after a millisecond with the code of the program. -/
theorem printing_ending {ran : Ran} (hcarried : ∀ event ∈ ran.events, event.Carried) {code : Int}
    (hcode : ran.exitCode = some code) : (printing ran hcarried).ending = some (1, code) := by
  show ran.exitCode.map (fun code => (1, code)) = _
  rw [hcode]
  rfl

/-- It prints in time. -/
theorem printing_prompt {ran : Ran} (hcarried : ∀ event ∈ ran.events, event.Carried) :
    ∀ line ∈ (printing ran hcarried).stdout, line.1 < Runner.readyTimeout := by
  intro line hline
  obtain ⟨event, -, rfl⟩ := List.mem_map.mp hline
  exact Nat.zero_lt_succ 9999

/-- The server waits for one message. -/
def sampleServer : EndpointSpec where
  bindAddrs := ["127.0.0.1:0".toList]
  readMessages := 1

/-- The client sends it. -/
def sampleClient : EndpointSpec where
  connectFromServerReady := true
  messages := [{ payload := "a".toList, stream := 0, ppid := 1 }]

/-- The message is asserted to arrive. -/
def sampleScenario : Scenario where
  id := "single".toList
  title := "Single message".toList
  requiredFeatures := []
  server := some sampleServer
  client := some sampleClient
  assertions := { serverRecvCount := some 1 }

/-- The profile of the C helper. -/
def sampleProfile : Profile where
  id := "freebsd-oracle".toList
  kind := "remote-freebsd-c".toList

/-- The arguments of the server. -/
def sampleServerFlags : List Text :=
  ["server", "--bind-addrs", "127.0.0.1:0", "--read-messages", "1"].map String.toList

/-- The arguments of the client. -/
def sampleClientFlags : List Text :=
  ["client", "--connect-addrs", "127.0.0.1:5001", "--messages", "a:0:1"].map String.toList

/-- The process of the server, to which one message is delivered. -/
def sampleServerRan : Ran :=
  main (sampleStack [.message (str "a") 0 1 7]) (fun _ => str "error")
    (sampleServerFlags.map encodeUtf8)

/-- The process of the client. -/
def sampleClientRan : Ran :=
  main (sampleStack []) (fun _ => str "error") (sampleClientFlags.map encodeUtf8)

/-- They are those of the scenario. -/
theorem sampleServerFlags_eq : commandFlags sampleServer "server".toList = .ok sampleServerFlags :=
  rfl

/-- They are those of the scenario, with the address of the server. -/
theorem sampleClientFlags_eq : commandFlags (told sampleClient [str "127.0.0.1:5001"])
    "client".toList = .ok sampleClientFlags := by
  have haddr : cText (str "127.0.0.1:5001") = "127.0.0.1:5001".toList := cText_str (by decide)
  simp only [told, EndpointSpec.connecting, sampleClient, if_true, List.map_cons, List.map_nil, haddr]
  rfl

/-- The client is told the address of the server. -/
theorem sampleClient_told : joinValues (told sampleClient [str "127.0.0.1:5001"]).connectAddrs =
    .ok ["127.0.0.1:5001".toList] := by
  have haddr : cText (str "127.0.0.1:5001") = "127.0.0.1:5001".toList := cText_str (by decide)
  simp only [told, EndpointSpec.connecting, sampleClient, if_true, List.map_cons, List.map_nil, haddr]
  rfl

/-- Its counts are small. -/
theorem sampleServer_fits : FitsInt sampleServer := by
  constructor <;> decide

/-- So are those of the client. -/
theorem sampleClient_fits : FitsInt sampleClient := by
  constructor <;> decide

/-- The client has nothing to fail at. -/
theorem sampleClient_end : clientEnd (sampleStack []) (endpointOptions
    (told sampleClient [str "127.0.0.1:5001"]) ["127.0.0.1:5001".toList] "client".toList) =
      .completed 1 :=
  rfl

/-- The message arrives. -/
theorem sample_passes : Passes sampleInterpreter.python sampleScenario.assertions
    (sampleStack [.message (str "a") 0 1 7]) (sampleStack [])
    (endpointOptions sampleServer [] "server".toList)
    (endpointOptions (told sampleClient [str "127.0.0.1:5001"]) ["127.0.0.1:5001".toList]
      "client".toList) [str "127.0.0.1:5001"] where
  received := by decide
  client := by
    rw [sampleClient_end]
    nofun
  stages := nofun
  asserted _ := {
    recvCount := by
      rintro count ⟨rfl⟩
      rfl
    payloads := nofun
    streams := nofun
    ppids := nofun
    notifyCount := nofun
    localAddrCount := nofun
    peerAddrCount := nofun }

/-- What the server prints. -/
theorem sampleServerRan_events :
    sampleServerRan.events = [.ready [str "127.0.0.1:5001"], .recv (str "a") 0 1 7,
      .complete 1 .recvCount] ∧ sampleServerRan.exitCode = some 0 := by
  obtain ⟨opts, ⟨addrs, hjoin, rfl⟩, hends, -⟩ := main_of_flags
    (sampleStack [.message (str "a") 0 1 7]) (fun _ => str "error") sampleServer_fits
      sampleServerFlags_eq
  obtain rfl : [] = addrs := Except.ok.inj hjoin
  have houtcome : serverOutcome (sampleStack [.message (str "a") 0 1 7])
      (endpointOptions sampleServer [] "server".toList) = .ok () := rfl
  have hends := hends rfl
  rw [houtcome] at hends
  exact ⟨hends.2, hends.1⟩

/-- What the client prints. -/
theorem sampleClientRan_events :
    sampleClientRan.events = [.sent (str "a") 0 1, .complete 1 .sentCount] ∧
      sampleClientRan.exitCode = some 0 := by
  obtain ⟨opts, ⟨addrs, hjoin, rfl⟩, -, hends⟩ := main_of_flags (sampleStack [])
    (fun _ => str "error") (sampleClient_fits.told [str "127.0.0.1:5001"]) sampleClientFlags_eq
  obtain rfl := Except.ok.inj (sampleClient_told.symm.trans hjoin)
  have hends := hends rfl
  rw [sampleClient_end] at hends
  exact ⟨hends.2, hends.1⟩

/-- All of it comes through. -/
theorem sampleRan_carried : (∀ event ∈ sampleServerRan.events, event.Carried) ∧
    ∀ event ∈ sampleClientRan.events, event.Carried := by
  have htext {literal : String} (h : ∀ ch ∈ literal.toList, ch ≠ '\x00' ∧ Runner.Carried ch) :
      CarriedString (str literal) :=
    carriedString_str (fun hzero => (h _ hzero).1 rfl) fun ch hch => (h ch hch).2
  have hready : CarriedString (str "ready") := htext (by decide)
  have haddr : CarriedString (str "127.0.0.1:5001") := htext (by decide)
  have hrecv : CarriedString (str "recv") := htext (by decide)
  have hpayload : CarriedString (str "a") := htext (by decide)
  have hcomplete : CarriedString (str "complete") := htext (by decide)
  have hsent : CarriedString (str "sent") := htext (by decide)
  rw [sampleServerRan_events.1, sampleClientRan_events.1]
  simp only [List.forall_mem_cons, List.not_mem_nil, false_implies, implies_true, and_true,
    HelperEvent.Carried, HelperEvent.members, Field.strings]
  exact ⟨⟨⟨hready, haddr⟩, ⟨hrecv, hpayload⟩, hcomplete⟩, ⟨hsent, hpayload⟩, hcomplete⟩

/-- The helpers of the scenario are the two processes. -/
def sampleWorld : World where
  helper _ role _ := match role with
    | .server => .ok (printing sampleServerRan sampleRan_carried.1)
    | .client => .ok (printing sampleClientRan sampleRan_carried.2)
  freePort _ := .ok 0
  prepare := .ok ()
  runDir := { root := "/".toList, parts := ["artifacts", "runs", "run"].map String.toList }
  storage _ := .ok ()
  terminal := .ok ()

/-- Both are runs of the program. -/
theorem sampleWorld_plays : Plays sampleWorld 0 sampleServer sampleClient
    (sampleStack [.message (str "a") 0 1 7]) (sampleStack []) (fun _ => str "error") := by
  constructor
  · intro serverCmd server hserverCmd hserver
    obtain rfl := Except.ok.inj (sampleServerFlags_eq.symm.trans hserverCmd)
    obtain rfl := Except.ok.inj hserver
    exact executes_printing sampleRan_carried.1
  · rintro serverOpts started clientCmd client ⟨addrs, hjoin, rfl⟩ hlistening hclientCmd hclient
    obtain rfl : [] = addrs := Except.ok.inj hjoin
    obtain rfl : (3, [str "127.0.0.1:5001"]) = started := Option.some.inj hlistening
    obtain rfl := Except.ok.inj (sampleClientFlags_eq.symm.trans hclientCmd)
    obtain rfl := Except.ok.inj hclient
    exact executes_printing sampleRan_carried.2

/-- Their output can be written. -/
theorem sampleWorld_stores : sampleWorld.Stores
    (sampleWorld.scenarioDir "freebsd-oracle".toList "single".toList)
    (Runner.outputFiles "server" ++ Runner.outputFiles "client") :=
  ⟨fun _ _ => rfl, by decide⟩

/-- The message that the client sends is delivered, and the scenario passes. -/
theorem scenario_passes_iff_single : ∃ artifacts t,
    (execute sampleInterpreter.python sampleWorld .freeBSD sampleProfile 0 sampleScenario).Gives
        ⟨0, []⟩ artifacts t ∧
      ∃ result, evaluateScenario sampleInterpreter.python sampleProfile sampleScenario artifacts =
        .ok result ∧ result.status = .pass := by
  have hopts : HasOptions sampleServer "server".toList
      (endpointOptions sampleServer [] "server".toList) := ⟨[], rfl, rfl⟩
  have hlistening : listening (sampleStack [.message (str "a") 0 1 7])
      (endpointOptions sampleServer [] "server".toList) = some (3, [str "127.0.0.1:5001"]) := by
    decide
  have hserverHelper : sampleWorld.helper 0 .server sampleServerFlags =
      .ok (printing sampleServerRan sampleRan_carried.1) := rfl
  have hclientHelper : sampleWorld.helper 0 .client sampleClientFlags =
      .ok (printing sampleClientRan sampleRan_carried.2) := rfl
  have hdecodes : (printing sampleClientRan sampleRan_carried.2).Decodes := ⟨rfl, rfl⟩
  have hfirst : sampleServerRan.events.head? = some (.ready [str "127.0.0.1:5001"]) := by
    rw [sampleServerRan_events.1]
    rfl
  have hclientEnd := printing_ending sampleRan_carried.2 sampleClientRan_events.2
  have hserverEnd := printing_ending sampleRan_carried.1 sampleServerRan_events.2
  have hprompt := printing_prompt sampleRan_carried.1
  have hrecursion : 0 < sampleInterpreter.recursion := by decide
  have hclientTime : 1 < ProfileRunner.freeBSD.clientTimeout := by decide
  have hserverTime : 1 < 1 + ProfileRunner.freeBSD.serverTimeout := by decide
  obtain ⟨artifacts, t, hexecute⟩ := execute_plays sampleProfile
    (show sampleScenario.server = some sampleServer from rfl)
    (show sampleScenario.client = some sampleClient from rfl) sampleWorld_plays hrecursion
    sampleServerFlags_eq hopts hlistening hfirst hserverHelper hprompt sampleClientFlags_eq
    hclientHelper hclientEnd hclientTime hdecodes hserverEnd hserverTime rfl sampleWorld_stores
    ⟨0, []⟩
  refine ⟨artifacts, t, hexecute, ?_⟩
  obtain ⟨serverOpts, clientOpts, started, result, ⟨addrs, hjoin, rfl⟩, hstarted,
    ⟨clientAddrs, hclientJoin, rfl⟩, hresult, hpass⟩ := scenario_passes_iff
      (show sampleScenario.server = some sampleServer from rfl)
      (show sampleScenario.client = some sampleClient from rfl) sampleServer_fits sampleClient_fits
      sampleWorld_plays hrecursion hexecute
  obtain rfl : [] = addrs := Except.ok.inj hjoin
  obtain rfl : (3, [str "127.0.0.1:5001"]) = started :=
    Option.some.inj (hlistening.symm.trans hstarted)
  obtain rfl := Except.ok.inj (sampleClient_told.symm.trans hclientJoin)
  exact ⟨result, hresult, hpass.mpr sample_passes⟩

end SctpConformance.FreebsdHelper
