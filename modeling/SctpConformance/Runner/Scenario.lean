import SctpConformance.Runner.Process
import Mathlib.Data.List.Infix

/-!
# Scenarios and their evaluation

The scenario records of `config.py`, and the functions of `runner.py` that turn a
scenario into helper commands and the helpers' output into a result.

Main results:

- Theorems `mem_splitlines_flatMap`, `mem_splitlines_join`: a line of an output is read back.
- Theorem `firstEvent_extracted`: an event on one of the lines of an output is found.
-/

namespace SctpConformance.Runner

/-! ## Configuration -/

/-- `InitOptions` of a scenario; a zero leaves a value to the system. -/
structure InitOptions where
  numOstreams : Int := 0
  maxInstreams : Int := 0
  maxAttempts : Int := 0
  maxInitTimeout : Int := 0

/-- A message that a client is to send. -/
structure MessageSpec where
  payload : Text
  stream : Int
  ppid : Int

/-- One side of a scenario.  The items of `connectAddrs` can be anything, since the runner may
take them from an event. -/
structure EndpointSpec where
  bindAddrs : List Text := []
  connectAddrs : List Value := []
  connectFromServerReady : Bool := false
  subscribe : List Text := []
  initOptions : InitOptions := {}
  setNodelay : Bool := false
  emitLocalAddrs : Bool := false
  emitPeerAddrs : Bool := false
  readMessages : Int := 0
  expectFailure : Option Text := none
  messages : List MessageSpec := []

/-- The value of the assertion `expected_failure`: one stage or a list of stages. -/
inductive ExpectedFailure where
  | stage (stage : Text)
  | stages (stages : List Text)

/-- The assertions that the evaluation looks up. -/
structure Assertions where
  expectedFailure : Option ExpectedFailure := none
  serverRecvCount : Option Int := none
  serverPayloads : Option Value := none
  serverStreams : Option Value := none
  serverPpids : Option Value := none
  minNotifyCount : Option Int := none
  serverLocalAddrCount : Option Int := none
  clientPeerAddrCount : Option Int := none

/-- A scenario of the configuration. -/
structure Scenario where
  id : Text
  title : Text
  requiredFeatures : List Text
  server : Option EndpointSpec := none
  client : Option EndpointSpec := none
  assertions : Assertions := {}

/-- The scenarios, with the features that they have to cover together. -/
structure ScenarioSet where
  requiredFeatures : List Text
  scenarios : List Scenario

/-- The part of a profile that selects its runner and names its results. -/
structure Profile where
  id : Text
  kind : Text

/-! ## Commands -/

/-- `str(n)` -/
def intText (n : Int) : Text :=
  (toString n).toList

/-- The value of the flag `--messages`. -/
def encodeMessages (messages : List MessageSpec) : Text :=
  joinTexts ",".toList (messages.map fun message =>
    message.payload ++ ":".toList ++ intText message.stream ++ ":".toList ++ intText message.ppid)

/-- `",".join(items)`, which needs strings. -/
def joinValues : List Value → Except Raised (List Text)
  | [] => .ok []
  | .str text :: rest => (joinValues rest).map (text :: ·)
  | _ :: _ => .error .typeError

/-- A flag with its value, when the condition holds. -/
def flagIf (condition : Bool) (flag : String) (value : Text) : List Text :=
  if condition then [flag.toList, value] else []

/-- The arguments of the helper for one side of a scenario. -/
def commandFlags (endpoint : EndpointSpec) (mode : Text) : Except Raised (List Text) := do
  let connectAddrs ← joinValues endpoint.connectAddrs
  let init := endpoint.initOptions
  return [mode]
    ++ flagIf (!endpoint.bindAddrs.isEmpty) "--bind-addrs" (joinTexts ",".toList endpoint.bindAddrs)
    ++ flagIf (!connectAddrs.isEmpty) "--connect-addrs" (joinTexts ",".toList connectAddrs)
    ++ flagIf (!endpoint.subscribe.isEmpty) "--subscribe" (joinTexts ",".toList endpoint.subscribe)
    ++ flagIf (endpoint.readMessages ≠ 0) "--read-messages" (intText endpoint.readMessages)
    ++ (if endpoint.setNodelay then ["--set-nodelay".toList] else [])
    ++ (if endpoint.emitLocalAddrs then ["--emit-local-addrs".toList] else [])
    ++ (if endpoint.emitPeerAddrs then ["--emit-peer-addrs".toList] else [])
    ++ flagIf (endpoint.expectFailure.getD [] ≠ []) "--expect-failure"
        (endpoint.expectFailure.getD [])
    ++ flagIf (!endpoint.messages.isEmpty) "--messages" (encodeMessages endpoint.messages)
    ++ (if init.numOstreams ≠ 0 ∨ init.maxInstreams ≠ 0 ∨ init.maxAttempts ≠ 0 ∨
          init.maxInitTimeout ≠ 0 then
        ["--init-ostreams".toList, intText init.numOstreams,
          "--init-instreams".toList, intText init.maxInstreams,
          "--init-attempts".toList, intText init.maxAttempts,
          "--init-timeout".toList, intText init.maxInitTimeout]
      else [])

/-- `item.rpartition(":")[0]` -/
def beforeLastColon (item : Text) : Text :=
  ((item.reverse.dropWhile (· ≠ ':')).drop 1).reverse

/-- The addresses with another port. -/
def applyPort (addrs : List Text) (port : Nat) : List Text :=
  addrs.map fun item => beforeLastColon item ++ ":".toList ++ intText port

/-! ## Events -/

/-- The characters at which `str.splitlines` splits, a carriage return before a line feed
apart. -/
def isLineBoundary (ch : Char) : Bool :=
  ch = '\n' || ch = '\r' || ch = '\x0b' || ch = '\x0c' || ch = '\x1c' || ch = '\x1d' ||
    ch = '\x1e' || ch = '\u0085' || ch = '\u2028' || ch = '\u2029'

/-- `str.splitlines`, with the characters of the current line read so far. -/
def splitlinesFrom (line : Text) : Text → List Text
  | [] => if line.isEmpty then [] else [line]
  | '\r' :: '\n' :: rest => line :: splitlinesFrom [] rest
  | ch :: rest =>
      if isLineBoundary ch then line :: splitlinesFrom [] rest
      else splitlinesFrom (line ++ [ch]) rest

/-- `str.splitlines` -/
def splitlines (text : Text) : List Text :=
  splitlinesFrom [] text

/-- The characters that `str.strip` removes. -/
def isSpace (ch : Char) : Bool :=
  ('\t' ≤ ch && ch ≤ '\r') || ('\x1c' ≤ ch && ch ≤ ' ') || ch = '\u0085' || ch = '\u00a0' ||
    ch = '\u1680' || ('\u2000' ≤ ch && ch ≤ '\u200a') || ch = '\u2028' || ch = '\u2029' ||
    ch = '\u202f' || ch = '\u205f' || ch = '\u3000'

/-- `str.strip` -/
def strip (text : Text) : Text :=
  (((text.dropWhile isSpace).reverse).dropWhile isSpace).reverse

/-- A character other than a carriage return ends the line or is added to it. -/
theorem splitlinesFrom_cons {ch : Char} (h : ch ≠ '\r') (front rest : Text) :
    splitlinesFrom front (ch :: rest) =
      if isLineBoundary ch then front :: splitlinesFrom [] rest
      else splitlinesFrom (front ++ [ch]) rest := by
  rw [splitlinesFrom.eq_def]
  split
  · rename_i heq
    cases heq
  · rename_i heq
    cases heq
    exact absurd rfl h
  · rename_i heq
    cases heq
    rfl

/-- A line ends at a boundary. -/
theorem splitlinesFrom_boundary {ch : Char} (h : isLineBoundary ch = true) (hcr : ch ≠ '\r')
    (front rest : Text) :
    splitlinesFrom front (ch :: rest) = front :: splitlinesFrom [] rest := by
  rw [splitlinesFrom_cons hcr, if_pos h]

/-- Characters that are no boundaries are read on. -/
theorem splitlinesFrom_append {line : Text} (h : ∀ ch ∈ line, isLineBoundary ch = false)
    (front rest : Text) :
    splitlinesFrom front (line ++ rest) = splitlinesFrom (front ++ line) rest := by
  induction line generalizing front with
  | nil => rw [List.nil_append, List.append_nil]
  | cons ch line ih =>
      have hch := h ch List.mem_cons_self
      have hcr : ch ≠ '\r' := by
        rintro rfl
        exact absurd hch (by decide)
      rw [List.cons_append, splitlinesFrom_cons hcr, hch, if_neg Bool.false_ne_true,
        ih (fun c hc => h c (List.mem_cons_of_mem _ hc)), List.append_assoc, List.singleton_append]

/-- A line without other boundaries is read whole. -/
theorem splitlinesFrom_whole {line : Text} (h : ∀ ch ∈ line, isLineBoundary ch = false)
    (front rest : Text) :
    splitlinesFrom front (line ++ '\n' :: rest) = (front ++ line) :: splitlinesFrom [] rest := by
  rw [splitlinesFrom_append h, splitlinesFrom_boundary (by decide) (by decide)]

/-- A last line needs no newline behind it. -/
theorem splitlinesFrom_last {line : Text} (h : ∀ ch ∈ line, isLineBoundary ch = false)
    (front : Text) (hne : front ++ line ≠ []) : splitlinesFrom front line = [front ++ line] := by
  have hrest := splitlinesFrom_append h front []
  rw [List.append_nil] at hrest
  rw [hrest]
  exact if_neg (by rwa [List.isEmpty_iff])

/-- What comes after a newline is split on its own, if no carriage return stands before
the newline. -/
theorem splitlinesFrom_newline {line : Text} (h : '\r' ∉ line) (front rest : Text) :
    ∃ pieces, splitlinesFrom front (line ++ '\n' :: rest) = pieces ++ splitlinesFrom [] rest := by
  induction line generalizing front with
  | nil => exact ⟨[front], splitlinesFrom_boundary (by decide) (by decide) _ _⟩
  | cons ch line ih =>
      rw [List.mem_cons, not_or] at h
      rw [List.cons_append, splitlinesFrom_cons (fun heq => h.1 heq.symm)]
      split
      · obtain ⟨pieces, hpieces⟩ := ih h.2 []
        exact ⟨front :: pieces, by rw [hpieces, List.cons_append]⟩
      · exact ih h.2 _

/-- A line of an output is one of its `splitlines` if it holds no other boundary. -/
theorem mem_splitlines_flatMap {lines : List Text} (hlines : ∀ line ∈ lines, '\r' ∉ line)
    {line : Text} (hmem : line ∈ lines) (hwhole : ∀ ch ∈ line, isLineBoundary ch = false) :
    line ∈ splitlines (lines.flatMap (· ++ "\n".toList)) := by
  unfold splitlines
  induction lines with
  | nil => cases hmem
  | cons first rest ih =>
      rw [List.flatMap_cons, List.append_assoc]
      rcases List.mem_cons.mp hmem with rfl | hrest
      · show line ∈ splitlinesFrom [] (line ++ '\n' :: _)
        rw [splitlinesFrom_whole hwhole]
        exact List.mem_cons_self
      · obtain ⟨pieces, hpieces⟩ := splitlinesFrom_newline (hlines first List.mem_cons_self) []
          (rest.flatMap (· ++ "\n".toList))
        have hsame : line ∈ pieces ++ splitlinesFrom [] (rest.flatMap (· ++ "\n".toList)) :=
          List.mem_append_right _ (ih (fun l hl => hlines l (List.mem_cons_of_mem _ hl)) hrest)
        rw [← hpieces] at hsame
        exact hsame

/-- The same when the lines are joined. -/
theorem mem_splitlines_join {lines : List Text} (hlines : ∀ line ∈ lines, '\r' ∉ line)
    {line : Text} (hmem : line ∈ lines) (hwhole : ∀ ch ∈ line, isLineBoundary ch = false)
    (hne : line ≠ []) : line ∈ splitlines (joinTexts "\n".toList lines) := by
  unfold splitlines joinTexts
  induction lines with
  | nil => cases hmem
  | cons first rest ih =>
      cases rest with
      | nil =>
          obtain rfl := List.mem_singleton.mp hmem
          rw [List.intercalate_singleton, splitlinesFrom_last hwhole [] (by simpa using hne)]
          exact List.mem_cons_self
      | cons second rest =>
          have hjoin : "\n".toList.intercalate (first :: second :: rest) =
              first ++ '\n' :: "\n".toList.intercalate (second :: rest) := by
            simp [List.intercalate_cons_cons]
          rw [hjoin]
          rcases List.mem_cons.mp hmem with rfl | hrest
          · rw [splitlinesFrom_whole hwhole]
            exact List.mem_cons_self
          · obtain ⟨pieces, hpieces⟩ :=
              splitlinesFrom_newline (hlines first List.mem_cons_self) []
                ("\n".toList.intercalate (second :: rest))
            rw [hpieces]
            exact List.mem_append_right _
              (ih (fun l hl => hlines l (List.mem_cons_of_mem _ hl)) hrest)

variable (py : Python)

/-- The loop of `extract_events`. -/
def eventsOfLines : List Text → Except Raised (List Event)
  | [] => .ok []
  | line :: rest =>
      match py.loads line with
      | .value (.dict event) => (eventsOfLines rest).map (event :: ·)
      | .raised exception => .error exception
      | _ => eventsOfLines rest

/-- `extract_events` -/
def extractEvents (output : Text) : Except Raised (List Event) :=
  eventsOfLines py (splitlines output)

/-- The events of an output, each with the role of the helper that printed it. -/
def extractEventsForRole (output role : Text) : Except Raised (List Event) := do
  let events ← extractEvents py output
  return events.map fun event => event.set "role".toList (.str role)

/-- The first event of a name. -/
def firstEvent (events : List Event) (eventName : Text) : Option Event :=
  events.find? (·.isNamed eventName)

/-- All events of a name. -/
def matchingEvents (events : List Event) (eventName : Text) : List Event :=
  events.filter (·.isNamed eventName)

/-- An event on one of the lines is among the events. -/
theorem mem_eventsOfLines {lines : List Text} {events : List Event}
    (h : eventsOfLines py lines = .ok events) {line : Text} (hline : line ∈ lines)
    {event : Event} (hloads : py.loads line = .value (.dict event)) : event ∈ events := by
  induction lines generalizing events with
  | nil => cases hline
  | cons first rest ih =>
      unfold eventsOfLines at h
      rcases List.mem_cons.mp hline with rfl | hrest
      · rw [hloads] at h
        cases hothers : eventsOfLines py rest with
        | ok others =>
            rw [hothers] at h
            cases h
            exact List.mem_cons_self
        | error exception =>
            rw [hothers] at h
            cases h
      · split at h
        · cases hothers : eventsOfLines py rest with
          | ok others =>
              rw [hothers] at h
              cases h
              exact List.mem_cons_of_mem _ (ih hothers hrest)
          | error exception =>
              rw [hothers] at h
              cases h
        · cases h
        · exact ih h hrest

/-- An event of the output is found by its name, whatever the role. -/
theorem firstEvent_extracted {output role : Text} {events : List Event}
    (h : extractEventsForRole py output role = .ok events) {line : Text}
    (hline : line ∈ splitlines output) {event : Event}
    (hloads : py.loads line = .value (.dict event)) {eventName : Text}
    (hname : event.isNamed eventName) : ∃ found ∈ events, found.isNamed eventName := by
  unfold extractEventsForRole extractEvents at h
  cases hevents : eventsOfLines py (splitlines output) with
  | error exception =>
      rw [hevents] at h
      cases h
  | ok extracted =>
      rw [hevents] at h
      cases h
      refine ⟨event.set "role".toList (.str role),
        List.mem_map_of_mem (mem_eventsOfLines py hevents hline hloads), ?_⟩
      unfold Event.isNamed Event.hasText at hname ⊢
      rwa [Event.get_set_ne event _ (by decide)]

/-- There is a first event of a name if there is one at all. -/
theorem firstEvent_ne_none {events : List Event} {eventName : Text} :
    firstEvent events eventName ≠ none ↔ ∃ event ∈ events, event.isNamed eventName := by
  unfold firstEvent
  rw [← Option.isSome_iff_ne_none, List.find?_isSome]

/-- What the helpers of a scenario leave behind. -/
structure ScenarioArtifacts where
  stdout : Text
  stderr : Text
  events : List Event
  artifactPaths : List (Text × Text)

/-! ## Evaluation -/

/-- The status of a result. -/
inductive Status where
  | pass
  | fail
  | unsupported
deriving DecidableEq

/-- The status as it is written. -/
def Status.text : Status → Text
  | .pass => "pass".toList
  | .fail => "fail".toList
  | .unsupported => "unsupported".toList

/-- The result of a scenario, as the reports show it. -/
structure ScenarioResult where
  profile : Text
  scenarioId : Text
  title : Text
  status : Status
  message : Text
  requiredFeatures : List Text
  stdout : Text
  stderr : Text
  events : List Event
  artifacts : List (Text × Text)

/-- `str(value)` -/
def Python.str : Value → Text
  | .str text => text
  | value => py.repr value

/-- The texts that make an error one of missing support. -/
def unsupportedMarkers : List Text :=
  ["not supported", "unsupported", "unavailable", "operation not supported",
    "protocol not supported"].map String.toList

/-- The status for an error event with this message. -/
def errorStatus (message : Text) : Status :=
  if unsupportedMarkers.any fun marker => decide (marker <:+: py.lower message) then
    .unsupported
  else .fail

/-- The stages that are expected to fail, when the assertion is given and not empty. -/
def expectedStages : Option ExpectedFailure → Option (List Text)
  | some (.stage stage) => if stage.isEmpty then none else some [stage]
  | some (.stages stages) => if stages.isEmpty then none else some stages
  | none => none

/-- `matched is None or matched.get("stage") not in expected_stages`, negated. -/
def stageObserved (events : List Event) (stages : List Text) : Bool :=
  match firstEvent events "expected_failure".toList with
  | some matched => stages.any fun stage => matched.hasText "stage".toList stage
  | none => false

/-- The failure message for the number of received messages, if it is wrong. -/
def recvCountFailure (assertions : Assertions) (recvEvents : List Event) : Option Text :=
  let count : Int := recvEvents.length
  if count ≠ assertions.serverRecvCount.getD count then
    some ("expected ".toList ++ (assertions.serverRecvCount.elim "None".toList intText) ++
      " recv events, got ".toList ++ intText count)
  else none

/-- The failure message for the values that the received messages have under a key, if
they are not the expected ones. -/
def valuesFailure (what : String) (key : String) (expected : Option Value)
    (recvEvents : List Event) : Option Text :=
  match expected with
  | none => none
  | some expected =>
      let actual := Value.list (recvEvents.map fun event => (event.get key.toList).getD .none)
      if py.equal actual expected then none
      else some (what.toList ++ " mismatch: expected ".toList ++ py.str expected ++
        ", got ".toList ++ py.str actual)

/-- The failure message for too few notifications. -/
def notifyFailure (assertions : Assertions) (notifyEvents : List Event) : Option Text :=
  match assertions.minNotifyCount with
  | none => none
  | some minimum =>
      if (notifyEvents.length : Int) < minimum then
        some ("expected at least ".toList ++ intText minimum ++ " notifications, got ".toList ++
          intText notifyEvents.length)
      else none

/-- The number of addresses that an event lists under a key; zero when there is none. -/
def addrCount (event : Option Event) (key : String) : Except Raised Int :=
  match event with
  | none => .ok 0
  | some event => do
      let addrs ← ((event.get key.toList).getD (.list [])).toList
      return addrs.length

/-- The failure message for the number of addresses in the first event of a name from a
role, if it is wrong. -/
def addrCountFailure (what : String) (name role key : String) (expected : Option Int)
    (events : List Event) : Except Raised (Option Text) :=
  match expected with
  | none => .ok none
  | some expected => do
      let actual ← addrCount
        (events.find? fun event => event.isNamed name.toList && event.hasText "role".toList role.toList)
        key
      if actual ≠ expected then
        return some (what.toList ++ " addr count ".toList ++ intText expected ++ ", got ".toList ++
          intText actual)
      else return none

/-- The checks of what the server received. -/
def messageFailure (assertions : Assertions) (events : List Event) : Option Text :=
  let recvEvents := matchingEvents events "recv".toList
  recvCountFailure assertions recvEvents
    <|> valuesFailure py "payload" "payload" assertions.serverPayloads recvEvents
    <|> valuesFailure py "stream" "stream" assertions.serverStreams recvEvents
    <|> valuesFailure py "PPID" "ppid" assertions.serverPpids recvEvents
    <|> notifyFailure assertions (matchingEvents events "notify".toList)

/-- The check of the addresses that the server has named. -/
def localAddrFailure (assertions : Assertions) (events : List Event) :
    Except Raised (Option Text) :=
  addrCountFailure "expected server local" "ready" "server" "local_addrs"
    assertions.serverLocalAddrCount events

/-- The check of the addresses that the client has found at its peer. -/
def peerAddrFailure (assertions : Assertions) (events : List Event) :
    Except Raised (Option Text) :=
  addrCountFailure "expected client peer" "peer_addrs" "client" "addrs"
    assertions.clientPeerAddrCount events

/-- The message of the first check that fails.  The checks after it are not made. -/
def assertionFailure (assertions : Assertions) (events : List Event) :
    Except Raised (Option Text) :=
  match messageFailure py assertions events with
  | some message => .ok (some message)
  | none =>
      match localAddrFailure assertions events with
      | .ok none => peerAddrFailure assertions events
      | outcome => outcome

/-- The status and the message of a result. -/
def verdict (assertions : Assertions) (events : List Event) : Except Raised (Status × Text) :=
  match firstEvent events "error".toList with
  | some errorEvent =>
      let message := py.str
        ((errorEvent.get "message".toList).getD (.str "helper reported an error".toList))
      .ok (errorStatus py message, message)
  | none =>
      match expectedStages assertions.expectedFailure with
      | some stages =>
          if stageObserved events stages then .ok (.pass, "passed".toList)
          else .ok (.fail, "expected failure stages ".toList ++
            py.repr (.list (stages.map .str)) ++ " were not observed".toList)
      | none =>
          match assertionFailure py assertions events with
          | .ok none => .ok (.pass, "passed".toList)
          | .ok (some message) => .ok (.fail, message)
          | .error exception => .error exception

/-- `evaluate_scenario` -/
def evaluateScenario (profile : Profile) (scenario : Scenario) (artifacts : ScenarioArtifacts) :
    Except Raised ScenarioResult := do
  let (status, message) ← verdict py scenario.assertions artifacts.events
  return {
    profile := profile.id
    scenarioId := scenario.id
    title := scenario.title
    status := status
    message := message
    requiredFeatures := scenario.requiredFeatures
    stdout := artifacts.stdout
    stderr := artifacts.stderr
    events := artifacts.events
    artifacts := artifacts.artifactPaths }

end SctpConformance.Runner
