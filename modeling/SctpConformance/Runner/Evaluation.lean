import SctpConformance.Runner.Scenario
import SctpConformance.Runner.World

/-!
# What the evaluation of a scenario decides

When `evaluate_scenario` returns, what its status says about the events, and when the texts of
its result can be written into the reports.

Main results:

- Definition `Satisfied`: what the events of a pass show.
- Theorem `evaluateScenario_pass_iff`: a scenario passes exactly on such events.
- Definition `Reportable`: the evaluation has a result, and the reports can show it.
- Theorems `evaluateScenario_ok_iff`, `evaluateScenario_message_iff`: this is when the evaluation
  returns, and when its message can be encoded.
-/

namespace SctpConformance.Runner

open Library

variable (py : Python)

/-! ## What a pass shows -/

/-- The values of the received messages under a key are the expected ones. -/
def ValuesMet (key : String) (expected : Option Value) (events : List Event) : Prop :=
  ∀ value ∈ expected, py.equal
    (.list ((matchingEvents events "recv".toList).map fun event =>
      (event.get key.toList).getD .none)) value = true

/-- The first event of a name from a role lists as many addresses as expected. -/
def AddrsMet (name role key : String) (expected : Option Int) (events : List Event) : Prop :=
  ∀ count ∈ expected,
    match events.find? fun event =>
      event.isNamed name.toList && event.hasText "role".toList role.toList with
    | none => count = 0
    | some event => ∃ addrs, ((event.get key.toList).getD (.list [])).toList = .ok addrs ∧
        (addrs.length : Int) = count

/-- The assertions about messages and notifications. -/
structure MessagesMet (assertions : Assertions) (events : List Event) : Prop where
  recvCount : ∀ count ∈ assertions.serverRecvCount,
    ((matchingEvents events "recv".toList).length : Int) = count
  payloads : ValuesMet py "payload" assertions.serverPayloads events
  streams : ValuesMet py "stream" assertions.serverStreams events
  ppids : ValuesMet py "ppid" assertions.serverPpids events
  notifications : ∀ minimum ∈ assertions.minNotifyCount,
    minimum ≤ ((matchingEvents events "notify".toList).length : Int)

/-- The assertions about messages, notifications and addresses. -/
structure ChecksMet (assertions : Assertions) (events : List Event) : Prop where
  recvCount : ∀ count ∈ assertions.serverRecvCount,
    ((matchingEvents events "recv".toList).length : Int) = count
  payloads : ValuesMet py "payload" assertions.serverPayloads events
  streams : ValuesMet py "stream" assertions.serverStreams events
  ppids : ValuesMet py "ppid" assertions.serverPpids events
  notifications : ∀ minimum ∈ assertions.minNotifyCount,
    minimum ≤ ((matchingEvents events "notify".toList).length : Int)
  localAddrs : AddrsMet "ready" "server" "local_addrs" assertions.serverLocalAddrCount events
  peerAddrs : AddrsMet "peer_addrs" "client" "addrs" assertions.clientPeerAddrCount events

/-- There is no error event, and the assertions hold: the expected failure where one is
given, and the other assertions where none is. -/
structure Satisfied (assertions : Assertions) (events : List Event) : Prop where
  noError : ∀ event ∈ events, event.isNamed "error".toList = false
  stage : ∀ stages ∈ expectedStages assertions.expectedFailure,
    ∃ event, firstEvent events "expected_failure".toList = some event ∧
      ∃ stage ∈ stages, event.hasText "stage".toList stage = true
  checks : expectedStages assertions.expectedFailure = none → ChecksMet py assertions events

/-! ## Each check -/

/-- There is no event of a name if none of the events has it. -/
theorem firstEvent_eq_none {events : List Event} {eventName : Text} :
    firstEvent events eventName = none ↔ ∀ event ∈ events, event.isNamed eventName = false := by
  simp [firstEvent]

/-- The first event of a failure names one of the expected stages. -/
theorem stageObserved_iff {events : List Event} {stages : List Text} :
    stageObserved events stages = true ↔
      ∃ event, firstEvent events "expected_failure".toList = some event ∧
        ∃ stage ∈ stages, event.hasText "stage".toList stage = true := by
  unfold stageObserved
  cases firstEvent events "expected_failure".toList with
  | none => simp
  | some event => simp

/-- The number of messages is right exactly when it is the asserted one. -/
theorem recvCountFailure_eq_none {assertions : Assertions} {recvEvents : List Event} :
    recvCountFailure assertions recvEvents = none ↔
      ∀ count ∈ assertions.serverRecvCount, (recvEvents.length : Int) = count := by
  unfold recvCountFailure
  cases assertions.serverRecvCount with
  | none => simp
  | some count => simp

/-- The values are right exactly when they are the asserted ones. -/
theorem valuesFailure_eq_none {what key : String} {expected : Option Value}
    {events : List Event} :
    valuesFailure py what key expected (matchingEvents events "recv".toList) = none ↔
      ValuesMet py key expected events := by
  unfold valuesFailure ValuesMet
  cases expected with
  | none => simp
  | some value => simp

/-- There are enough notifications exactly when there are as many as asserted. -/
theorem notifyFailure_eq_none {assertions : Assertions} {notifyEvents : List Event} :
    notifyFailure assertions notifyEvents = none ↔
      ∀ minimum ∈ assertions.minNotifyCount, minimum ≤ (notifyEvents.length : Int) := by
  unfold notifyFailure
  cases assertions.minNotifyCount with
  | none => simp
  | some minimum => simp

/-- The number of addresses is right exactly when it is the asserted one. -/
theorem addrCountFailure_eq_none {what name role key : String} {expected : Option Int}
    {events : List Event} :
    addrCountFailure what name role key expected events = .ok none ↔
      AddrsMet name role key expected events := by
  unfold addrCountFailure AddrsMet
  cases expected with
  | none => simp
  | some count =>
      simp only [Option.mem_def, Option.some.injEq, forall_eq']
      cases events.find? fun event =>
          event.isNamed name.toList && event.hasText "role".toList role.toList with
      | none =>
          by_cases hcount : count = 0
          · subst hcount
            simp [addrCount, bind, Except.bind, pure, Except.pure]
          · simp [addrCount, bind, Except.bind, pure, Except.pure, hcount, Ne.symm hcount]
      | some event =>
          cases haddrs : ((event.get key.toList).getD (.list [])).toList with
          | error exception => simp [addrCount, haddrs, bind, Except.bind]
          | ok addrs =>
              by_cases hcount : (addrs.length : Int) = count
              · simp [addrCount, haddrs, bind, Except.bind, pure, Except.pure, hcount]
              · simp [addrCount, haddrs, bind, Except.bind, pure, Except.pure, hcount]

/-- No check of the messages fails exactly when all of them are met. -/
theorem messageFailure_eq_none {assertions : Assertions} {events : List Event} :
    messageFailure py assertions events = none ↔ MessagesMet py assertions events := by
  unfold messageFailure
  simp only [Option.orElse_eq_orElse, Option.orElse_eq_or, Option.or_eq_none_iff,
    recvCountFailure_eq_none, valuesFailure_eq_none, notifyFailure_eq_none]
  constructor
  · rintro ⟨hcount, hpayloads, hstreams, hppids, hnotify⟩
    exact ⟨hcount, hpayloads, hstreams, hppids, hnotify⟩
  · intro h
    exact ⟨h.recvCount, h.payloads, h.streams, h.ppids, h.notifications⟩

/-- No complaint about the local addresses: there are as many as the scenario wants. -/
theorem localAddrFailure_eq_none {assertions : Assertions} {events : List Event} :
    localAddrFailure assertions events = .ok none ↔
      AddrsMet "ready" "server" "local_addrs" assertions.serverLocalAddrCount events :=
  addrCountFailure_eq_none

/-- The same for the peer addresses. -/
theorem peerAddrFailure_eq_none {assertions : Assertions} {events : List Event} :
    peerAddrFailure assertions events = .ok none ↔
      AddrsMet "peer_addrs" "client" "addrs" assertions.clientPeerAddrCount events :=
  addrCountFailure_eq_none

/-- No check fails exactly when all of them are met. -/
theorem assertionFailure_eq_none {assertions : Assertions} {events : List Event} :
    assertionFailure py assertions events = .ok none ↔ ChecksMet py assertions events := by
  have hinOrder : assertionFailure py assertions events = .ok none ↔
      messageFailure py assertions events = none ∧
        localAddrFailure assertions events = .ok none ∧
        peerAddrFailure assertions events = .ok none := by
    unfold assertionFailure
    cases messageFailure py assertions events with
    | some message => simp
    | none =>
        rcases localAddrFailure assertions events with exception | _ | message
        · simp
        · simp
        · simp
  rw [hinOrder, messageFailure_eq_none, localAddrFailure_eq_none, peerAddrFailure_eq_none]
  constructor
  · rintro ⟨hmessages, haddrs, hpeers⟩
    exact ⟨hmessages.recvCount, hmessages.payloads, hmessages.streams, hmessages.ppids,
      hmessages.notifications, haddrs, hpeers⟩
  · intro h
    exact ⟨⟨h.recvCount, h.payloads, h.streams, h.ppids, h.notifications⟩, h.localAddrs,
      h.peerAddrs⟩

/-! ## The verdict -/

/-- An error event is never a pass. -/
theorem errorStatus_ne (message : Text) :
    errorStatus py message = .fail ∨ errorStatus py message = .unsupported := by
  unfold errorStatus
  split
  · exact .inr rfl
  · exact .inl rfl

/-- The verdict is a pass exactly on events that satisfy the assertions. -/
theorem verdict_pass_iff {assertions : Assertions} {events : List Event} :
    (∃ message, verdict py assertions events = .ok (.pass, message)) ↔
      Satisfied py assertions events := by
  have herrors : firstEvent events "error".toList = none ↔
      ∀ event ∈ events, event.isNamed "error".toList = false := firstEvent_eq_none
  unfold verdict
  cases herror : firstEvent events "error".toList with
  | some errorEvent =>
      rw [herror] at herrors
      constructor
      · rintro ⟨message, hverdict⟩
        simp only [Except.ok.injEq, Prod.mk.injEq] at hverdict
        rcases errorStatus_ne py (py.str
          ((errorEvent.get "message".toList).getD (.str "helper reported an error".toList)))
          with hstatus | hstatus
        · rw [hverdict.1] at hstatus
          contradiction
        · rw [hverdict.1] at hstatus
          contradiction
      · intro h
        exact absurd (herrors.mpr h.noError) (Option.some_ne_none errorEvent)
  | none =>
      have hnoError := herrors.mp herror
      cases hstages : expectedStages assertions.expectedFailure with
      | some stages =>
          dsimp only
          constructor
          · rintro ⟨message, hverdict⟩
            split at hverdict
            · rename_i hstage
              refine ⟨hnoError, ?_, ?_⟩
              · intro stages' hstages'
                rw [hstages] at hstages'
                cases hstages'
                exact stageObserved_iff.mp hstage
              · intro hnone
                rw [hstages] at hnone
                contradiction
            · cases hverdict
          · intro h
            rw [if_pos (stageObserved_iff.mpr (h.stage stages hstages))]
            exact ⟨_, rfl⟩
      | none =>
          dsimp only
          constructor
          · rintro ⟨message, hverdict⟩
            split at hverdict
            · rename_i hfailure
              refine ⟨hnoError, ?_, fun _ => (assertionFailure_eq_none py).mp hfailure⟩
              intro stages hstages'
              rw [hstages] at hstages'
              contradiction
            · cases hverdict
            · cases hverdict
          · intro h
            rw [(assertionFailure_eq_none py).mpr (h.checks hstages)]
            exact ⟨_, rfl⟩

/-- A scenario passes exactly on events that satisfy its assertions. -/
theorem evaluateScenario_pass_iff (profile : Profile) (scenario : Scenario)
    (artifacts : ScenarioArtifacts) :
    (∃ result, evaluateScenario py profile scenario artifacts = .ok result ∧
      result.status = .pass) ↔ Satisfied py scenario.assertions artifacts.events := by
  rw [← verdict_pass_iff]
  unfold evaluateScenario
  cases verdict py scenario.assertions artifacts.events with
  | error exception =>
      constructor
      · rintro ⟨result, hresult, -⟩
        cases hresult
      · rintro ⟨message, hverdict⟩
        cases hverdict
  | ok outcome =>
      constructor
      · rintro ⟨result, hresult, hstatus⟩
        cases hresult
        exact ⟨outcome.2, by rw [← hstatus]⟩
      · rintro ⟨message, hverdict⟩
        cases hverdict
        exact ⟨_, rfl, rfl⟩

/-- What the evaluation returns is about its scenario and the events. -/
theorem evaluateScenario_fields {profile : Profile} {scenario : Scenario}
    {artifacts : ScenarioArtifacts} {result : ScenarioResult}
    (h : evaluateScenario py profile scenario artifacts = .ok result) :
    result.profile = profile.id ∧ result.scenarioId = scenario.id ∧
      result.requiredFeatures = scenario.requiredFeatures ∧ result.events = artifacts.events := by
  obtain ⟨outcome, -, hresult⟩ := Outcome.bind_eq_ok.mp h
  rw [Outcome.pure_eq_ok.mp hresult]
  exact ⟨rfl, rfl, rfl, rfl⟩

/-! ## When there is a verdict -/

/-- The addresses can be counted: the first event of that name from that role lists them, if
there is one. -/
def AddrsListed (name role key : String) (expected : Option Int) (events : List Event) : Prop :=
  expected ≠ none → ∀ event ∈ events.find? fun event =>
      event.isNamed name.toList && event.hasText "role".toList role.toList,
    ∃ addrs, ((event.get key.toList).getD (.list [])).toList = .ok addrs

/-- The checks of the addresses are made in order, each if nothing has failed before. -/
structure AddrsCounted (assertions : Assertions) (events : List Event) : Prop where
  localAddrs : MessagesMet py assertions events →
    AddrsListed "ready" "server" "local_addrs" assertions.serverLocalAddrCount events
  peerAddrs : MessagesMet py assertions events →
    AddrsMet "ready" "server" "local_addrs" assertions.serverLocalAddrCount events →
      AddrsListed "peer_addrs" "client" "addrs" assertions.clientPeerAddrCount events

/-- Addresses can be counted where they are a list. -/
theorem addrCountFailure_ok_iff {what name role key : String} {expected : Option Int}
    {events : List Event} :
    (∃ failure, addrCountFailure what name role key expected events = .ok failure) ↔
      AddrsListed name role key expected events := by
  unfold addrCountFailure AddrsListed
  cases expected with
  | none => simp
  | some count =>
      simp only [ne_eq, reduceCtorEq, not_false_eq_true, forall_const, Option.mem_def]
      cases events.find? fun event =>
          event.isNamed name.toList && event.hasText "role".toList role.toList with
      | none =>
          refine iff_of_true ?_ (by simp)
          simp only [addrCount, bind, Except.bind]
          split
          · exact ⟨_, rfl⟩
          · exact ⟨_, rfl⟩
      | some event =>
          simp only [Option.some.injEq, forall_eq']
          cases haddrs : ((event.get key.toList).getD (.list [])).toList with
          | error exception => simp [addrCount, haddrs, bind, Except.bind]
          | ok addrs =>
              refine iff_of_true ?_ ⟨addrs, rfl⟩
              simp only [addrCount, haddrs, bind, Except.bind, pure, Except.pure]
              split
              · exact ⟨_, rfl⟩
              · exact ⟨_, rfl⟩

/-- The checks come to an end exactly when the addresses can be counted. -/
theorem assertionFailure_ok_iff {assertions : Assertions} {events : List Event} :
    (∃ failure, assertionFailure py assertions events = .ok failure) ↔
      AddrsCounted py assertions events := by
  have hlocal : (∃ failure, localAddrFailure assertions events = .ok failure) ↔
      AddrsListed "ready" "server" "local_addrs" assertions.serverLocalAddrCount events :=
    addrCountFailure_ok_iff
  have hpeer : (∃ failure, peerAddrFailure assertions events = .ok failure) ↔
      AddrsListed "peer_addrs" "client" "addrs" assertions.clientPeerAddrCount events :=
    addrCountFailure_ok_iff
  have hmessages : messageFailure py assertions events = none ↔ MessagesMet py assertions events :=
    messageFailure_eq_none py
  have hmet : localAddrFailure assertions events = .ok none ↔
      AddrsMet "ready" "server" "local_addrs" assertions.serverLocalAddrCount events :=
    localAddrFailure_eq_none
  unfold assertionFailure
  cases hmessage : messageFailure py assertions events with
  | some message =>
      rw [hmessage] at hmessages
      have hunmet : ¬MessagesMet py assertions events := fun h => nomatch hmessages.mpr h
      exact iff_of_true ⟨_, rfl⟩ ⟨fun h => absurd h hunmet, fun h => absurd h hunmet⟩
  | none =>
      have hmessagesMet := hmessages.mp hmessage
      rcases hfailure : localAddrFailure assertions events with exception | _ | message
      · rw [hfailure] at hlocal
        refine iff_of_false (by simp) fun h => ?_
        obtain ⟨failure, hok⟩ := hlocal.mpr (h.localAddrs hmessagesMet)
        cases hok
      · rw [hfailure] at hlocal
        refine Iff.trans hpeer ⟨fun h => ⟨fun _ => hlocal.mp ⟨_, rfl⟩, fun _ _ => h⟩, fun h => ?_⟩
        exact h.peerAddrs hmessagesMet (hmet.mp hfailure)
      · rw [hfailure] at hlocal hmet
        refine iff_of_true ⟨_, rfl⟩ ⟨fun _ => hlocal.mp ⟨_, rfl⟩, fun _ h => ?_⟩
        have hnone := hmet.mpr h
        simp at hnone

/-- There is a verdict exactly when the addresses can be counted, where they are. -/
theorem verdict_ok_iff {assertions : Assertions} {events : List Event} :
    (∃ outcome, verdict py assertions events = .ok outcome) ↔
      ((∀ event ∈ events, event.isNamed "error".toList = false) →
        expectedStages assertions.expectedFailure = none → AddrsCounted py assertions events) := by
  rw [← firstEvent_eq_none]
  unfold verdict
  cases firstEvent events "error".toList with
  | some errorEvent => exact iff_of_true ⟨_, rfl⟩ fun herror => nomatch herror
  | none =>
      cases expectedStages assertions.expectedFailure with
      | some stages =>
          refine iff_of_true ?_ fun _ hstages => nomatch hstages
          dsimp only
          split
          · exact ⟨_, rfl⟩
          · exact ⟨_, rfl⟩
      | none =>
          rw [← assertionFailure_ok_iff]
          rcases assertionFailure py assertions events with exception | _ | message
          · simp
          · exact iff_of_true ⟨_, rfl⟩ fun _ _ => ⟨_, rfl⟩
          · exact iff_of_true ⟨_, rfl⟩ fun _ _ => ⟨_, rfl⟩

/-! ## What the message shows -/

/-- The number of received messages is the asserted one. -/
def RecvCountMet (assertions : Assertions) (events : List Event) : Prop :=
  ∀ count ∈ assertions.serverRecvCount, ((matchingEvents events "recv".toList).length : Int) = count

/-- Where the values under a key are not the expected ones, these can be shown. -/
def ValuesShown (key : String) (expected : Option Value) (events : List Event) : Prop :=
  ¬ValuesMet py key expected events → ∀ text, expected = some (.str text) → Encodable py text

/-- The expected values that the message of a failed check shows can be encoded. -/
structure ExpectationsShown (assertions : Assertions) (events : List Event) : Prop where
  payloads : RecvCountMet assertions events →
    ValuesShown py "payload" assertions.serverPayloads events
  streams : RecvCountMet assertions events →
    ValuesMet py "payload" assertions.serverPayloads events →
      ValuesShown py "stream" assertions.serverStreams events
  ppids : RecvCountMet assertions events →
    ValuesMet py "payload" assertions.serverPayloads events →
      ValuesMet py "stream" assertions.serverStreams events →
        ValuesShown py "ppid" assertions.serverPpids events

/-- The message of the first error event can be encoded, and without one that of a failed
check. -/
structure MessageShown (assertions : Assertions) (events : List Event) : Prop where
  error : ∀ event ∈ firstEvent events "error".toList, ∀ text,
    event.get "message".toList = some (.str text) → Encodable py text
  checks : (∀ event ∈ events, event.isNamed "error".toList = false) →
    expectedStages assertions.expectedFailure = none → ExpectationsShown py assertions events

/-- A message shows a text as it is, and anything else by its `repr`. -/
theorem encodable_str {value : Value} :
    Encodable py (py.str value) ↔ ∀ text, value = .str text → Encodable py text := by
  cases value with
  | str text => simp [Python.str]
  | none => exact iff_of_true (py.encodable_repr _) fun _ h => nomatch h
  | bool value => exact iff_of_true (py.encodable_repr _) fun _ h => nomatch h
  | int value => exact iff_of_true (py.encodable_repr _) fun _ h => nomatch h
  | float literal => exact iff_of_true (py.encodable_repr _) fun _ h => nomatch h
  | list items => exact iff_of_true (py.encodable_repr _) fun _ h => nomatch h
  | dict members => exact iff_of_true (py.encodable_repr _) fun _ h => nomatch h

/-- The characters of a number are ASCII characters. -/
theorem encodable_intText (n : Int) : Encodable py (intText n) := by
  have hdigits (n : Nat) : ∀ ch ∈ (Nat.repr n).toList, ch.toNat < 128 := by
    intro ch hch
    rw [Nat.toList_repr] at hch
    have hdigit := Nat.isDigit_of_mem_toDigits (by decide) (by decide) hch
    have hle : ch.toNat ≤ '9'.toNat := by
      have hrange := of_decide_eq_true (Bool.and_eq_true_iff.mp hdigit).2
      exact hrange
    exact Nat.lt_of_le_of_lt hle (by decide)
  apply encodable_of_ascii
  cases n with
  | ofNat n => exact hdigits n
  | negSucc n =>
      have htext : intText (Int.negSucc n) = "-".toList ++ (Nat.repr (n + 1)).toList := by
        simp [intText, Int.repr]
      rw [htext]
      exact List.forall_mem_append.mpr ⟨by decide, hdigits (n + 1)⟩

/-- The complaint about the number of messages can be encoded. -/
theorem recvCountFailure_encodable {assertions : Assertions} {recvEvents : List Event}
    {message : Text} (h : recvCountFailure assertions recvEvents = some message) :
    Encodable py message := by
  have hcount : Encodable py (assertions.serverRecvCount.elim "None".toList intText) := by
    cases assertions.serverRecvCount with
    | none => exact encodable_of_ascii py (by decide)
    | some count => exact encodable_intText py count
  have hexpected : Encodable py "expected ".toList := encodable_of_ascii py (by decide)
  have hgot : Encodable py " recv events, got ".toList := encodable_of_ascii py (by decide)
  unfold recvCountFailure at h
  dsimp only at h
  split at h
  · obtain rfl := Option.some.inj h
    simp only [encodable_append]
    exact ⟨⟨⟨hexpected, hcount⟩, hgot⟩, encodable_intText py _⟩
  · cases h

/-- The message for wrong values shows the expected ones. -/
theorem valuesFailure_encodable {what key : String} (hwhat : Encodable py what.toList)
    {expected : Option Value} {recvEvents : List Event} {message : Text}
    (h : valuesFailure py what key expected recvEvents = some message) :
    Encodable py message ↔ ∀ text, expected = some (.str text) → Encodable py text := by
  have hmismatch : Encodable py " mismatch: expected ".toList := encodable_of_ascii py (by decide)
  have hgot : Encodable py ", got ".toList := encodable_of_ascii py (by decide)
  cases expected with
  | none => cases h
  | some value =>
      unfold valuesFailure at h
      dsimp only at h
      split at h
      · cases h
      · obtain rfl := Option.some.inj h
        have hactual : Encodable py (py.str (.list (recvEvents.map fun event =>
            (event.get key.toList).getD .none))) := py.encodable_repr _
        simp only [encodable_append, hwhat, hmismatch, hgot, hactual, encodable_str, true_and,
          and_true, Option.some.injEq]

/-- The complaint about notifications can be encoded. -/
theorem notifyFailure_encodable {assertions : Assertions} {notifyEvents : List Event}
    {message : Text} (h : notifyFailure assertions notifyEvents = some message) :
    Encodable py message := by
  have hexpected : Encodable py "expected at least ".toList := encodable_of_ascii py (by decide)
  have hgot : Encodable py " notifications, got ".toList := encodable_of_ascii py (by decide)
  unfold notifyFailure at h
  split at h
  · cases h
  · split at h
    · obtain rfl := Option.some.inj h
      simp only [encodable_append]
      exact ⟨⟨⟨hexpected, encodable_intText py _⟩, hgot⟩, encodable_intText py _⟩
    · cases h

/-- So can the one about addresses. -/
theorem addrCountFailure_encodable {what name role key : String}
    (hwhat : Encodable py what.toList) {expected : Option Int} {events : List Event}
    {message : Text} (h : addrCountFailure what name role key expected events = .ok (some message)) :
    Encodable py message := by
  have hcount : Encodable py " addr count ".toList := encodable_of_ascii py (by decide)
  have hgot : Encodable py ", got ".toList := encodable_of_ascii py (by decide)
  unfold addrCountFailure at h
  split at h
  · cases h
  · obtain ⟨actual, -, hactual⟩ := Outcome.bind_eq_ok.mp h
    split at hactual
    · obtain rfl := Option.some.inj (Outcome.pure_eq_ok.mp hactual)
      simp only [encodable_append]
      exact ⟨⟨⟨⟨hwhat, hcount⟩, encodable_intText py _⟩, hgot⟩, encodable_intText py _⟩
    · cases hactual

/-- The first check that fails gives the message, and shows what it has to. -/
theorem encodable_or {first rest : Option Text} {message : Text} {Met Shown Later : Prop}
    (h : first.or rest = some message) (hmet : first = none ↔ Met)
    (hfirst : first = some message → (Encodable py message ↔ Shown))
    (hrest : rest = some message → (Encodable py message ↔ Later)) :
    Encodable py message ↔ (¬Met → Shown) ∧ (Met → Later) := by
  cases first with
  | some other =>
      obtain rfl := Option.some.inj h
      have hunmet : ¬Met := fun hnone => nomatch hmet.mpr hnone
      rw [hfirst rfl]
      exact ⟨fun hshown => ⟨fun _ => hshown, fun hnone => absurd hnone hunmet⟩,
        fun hshown => hshown.1 hunmet⟩
  | none =>
      have hnone := hmet.mp rfl
      rw [hrest h]
      exact ⟨fun hlater => ⟨fun hunmet => absurd hnone hunmet, fun _ => hlater⟩,
        fun hlater => hlater.2 hnone⟩

/-- The checks of the messages, one after the other. -/
theorem expectationsShown_iff {assertions : Assertions} {events : List Event} :
    ExpectationsShown py assertions events ↔
      (¬RecvCountMet assertions events → True) ∧ (RecvCountMet assertions events →
        ValuesShown py "payload" assertions.serverPayloads events ∧
          (ValuesMet py "payload" assertions.serverPayloads events →
            ValuesShown py "stream" assertions.serverStreams events ∧
              (ValuesMet py "stream" assertions.serverStreams events →
                ValuesShown py "ppid" assertions.serverPpids events ∧
                  (ValuesMet py "ppid" assertions.serverPpids events → True)))) := by
  constructor
  · intro h
    exact ⟨fun _ => trivial, fun hcount => ⟨h.payloads hcount, fun hpayloads =>
      ⟨h.streams hcount hpayloads, fun hstreams =>
        ⟨h.ppids hcount hpayloads hstreams, fun _ => trivial⟩⟩⟩⟩
  · rintro ⟨-, h⟩
    exact ⟨fun hcount => (h hcount).1, fun hcount hpayloads => ((h hcount).2 hpayloads).1,
      fun hcount hpayloads hstreams => (((h hcount).2 hpayloads).2 hstreams).1⟩

/-- The message about the received messages can be encoded if the expected values can that it
shows. -/
theorem messageFailure_encodable {assertions : Assertions} {events : List Event} {message : Text}
    (h : messageFailure py assertions events = some message) :
    Encodable py message ↔ ExpectationsShown py assertions events := by
  unfold messageFailure at h
  simp only [Option.orElse_eq_orElse, Option.orElse_eq_or] at h
  rw [expectationsShown_iff]
  refine encodable_or py h recvCountFailure_eq_none ?recvCount fun h =>
    encodable_or py h (valuesFailure_eq_none py) ?payloads fun h =>
      encodable_or py h (valuesFailure_eq_none py) ?streams fun h =>
        encodable_or py h (valuesFailure_eq_none py) ?ppids ?notifications
  case recvCount => exact fun h => iff_of_true (recvCountFailure_encodable py h) trivial
  case payloads => exact valuesFailure_encodable py (encodable_of_ascii py (by decide))
  case streams => exact valuesFailure_encodable py (encodable_of_ascii py (by decide))
  case ppids => exact valuesFailure_encodable py (encodable_of_ascii py (by decide))
  case notifications => exact fun h => iff_of_true (notifyFailure_encodable py h) trivial

/-- Once the messages are right, no expected values are shown. -/
theorem MessagesMet.shown {assertions : Assertions} {events : List Event}
    (h : MessagesMet py assertions events) : ExpectationsShown py assertions events where
  payloads _ hwrong := absurd h.payloads hwrong
  streams _ _ hwrong := absurd h.streams hwrong
  ppids _ _ _ hwrong := absurd h.ppids hwrong

/-- The message of a failed check can be encoded if the expected values can that it shows. -/
theorem assertionFailure_encodable {assertions : Assertions} {events : List Event}
    {message : Text} (h : assertionFailure py assertions events = .ok (some message)) :
    Encodable py message ↔ ExpectationsShown py assertions events := by
  unfold assertionFailure at h
  cases hmessage : messageFailure py assertions events with
  | some first =>
      rw [hmessage] at h
      cases h
      exact messageFailure_encodable py hmessage
  | none =>
      rw [hmessage] at h
      have hmet := (messageFailure_eq_none py).mp hmessage
      refine iff_of_true ?_ (hmet.shown py)
      have hlocal : Encodable py "expected server local".toList := encodable_of_ascii py (by decide)
      have hpeer : Encodable py "expected client peer".toList := encodable_of_ascii py (by decide)
      rcases hfailure : localAddrFailure assertions events with exception | _ | first
      · rw [hfailure] at h
        cases h
      · rw [hfailure] at h
        exact addrCountFailure_encodable py hpeer h
      · rw [hfailure] at h
        cases h
        exact addrCountFailure_encodable py hlocal hfailure

/-- The message of an error event can be encoded if its text can, where it has one. -/
theorem errorMessage_encodable {errorEvent : Event} :
    Encodable py (py.str ((errorEvent.get "message".toList).getD
      (.str "helper reported an error".toList))) ↔
      ∀ text, errorEvent.get "message".toList = some (.str text) → Encodable py text := by
  rw [encodable_str]
  cases errorEvent.get "message".toList with
  | none =>
      refine iff_of_true ?_ fun text hnone => nomatch hnone
      intro text htext
      cases htext
      exact encodable_of_ascii py (by decide)
  | some value => simp

/-- With an error event its own message counts. -/
theorem messageShown_of_error {assertions : Assertions} {events : List Event} {errorEvent : Event}
    (h : firstEvent events "error".toList = some errorEvent) :
    MessageShown py assertions events ↔
      ∀ text, errorEvent.get "message".toList = some (.str text) → Encodable py text := by
  constructor
  · intro hshown
    exact hshown.error errorEvent h
  · intro hmessage
    refine ⟨fun event hevent => ?_, fun hnone => ?_⟩
    · rw [h] at hevent
      cases hevent
      exact hmessage
    · rw [firstEvent_eq_none.mpr hnone] at h
      cases h

/-- Without an error event the checks count. -/
theorem messageShown_of_no_error {assertions : Assertions} {events : List Event}
    (h : firstEvent events "error".toList = none) :
    MessageShown py assertions events ↔
      (expectedStages assertions.expectedFailure = none →
        ExpectationsShown py assertions events) := by
  constructor
  · intro hshown
    exact hshown.checks (firstEvent_eq_none.mp h)
  · intro hchecks
    refine ⟨fun event hevent => ?_, fun _ => hchecks⟩
    rw [h] at hevent
    cases hevent

/-- When the message of a verdict can be encoded. -/
theorem verdict_encodable {assertions : Assertions} {events : List Event} {status : Status}
    {message : Text} (h : verdict py assertions events = .ok (status, message)) :
    Encodable py message ↔ MessageShown py assertions events := by
  have hpassed : Encodable py "passed".toList := encodable_of_ascii py (by decide)
  unfold verdict at h
  cases herror : firstEvent events "error".toList with
  | some errorEvent =>
      rw [herror] at h
      cases h
      rw [messageShown_of_error py herror]
      exact errorMessage_encodable py
  | none =>
      rw [herror] at h
      rw [messageShown_of_no_error py herror]
      cases hstages : expectedStages assertions.expectedFailure with
      | some stages =>
          rw [hstages] at h
          refine iff_of_true ?_ fun hempty => nomatch hempty
          have hexpected : Encodable py "expected failure stages ".toList :=
            encodable_of_ascii py (by decide)
          have hobserved : Encodable py " were not observed".toList :=
            encodable_of_ascii py (by decide)
          dsimp only at h
          split at h
          · cases h
            exact hpassed
          · cases h
            simp only [encodable_append]
            exact ⟨⟨hexpected, py.encodable_repr _⟩, hobserved⟩
      | none =>
          rw [hstages] at h
          dsimp only at h
          rcases hfailure : assertionFailure py assertions events with exception | _ | first
          · rw [hfailure] at h
            cases h
          · rw [hfailure] at h
            cases h
            have hmet := (assertionFailure_eq_none py).mp hfailure
            have hmessages : MessagesMet py assertions events :=
              ⟨hmet.recvCount, hmet.payloads, hmet.streams, hmet.ppids, hmet.notifications⟩
            exact iff_of_true hpassed fun _ => hmessages.shown py
          · rw [hfailure] at h
            cases h
            rw [assertionFailure_encodable py hfailure]
            exact ⟨fun hshown _ => hshown, fun hshown => hshown rfl⟩

/-! ## Results that can be reported -/

/-- The evaluation returns, and the reports can show what it returns: the message can be
encoded, and the events are not too deep. -/
structure Reportable (assertions : Assertions) (events : List Event) : Prop where
  counted : (∀ event ∈ events, event.isNamed "error".toList = false) →
    expectedStages assertions.expectedFailure = none → AddrsCounted py assertions events
  shown : MessageShown py assertions events
  serializable : ∀ event ∈ events, py.serializable (.dict event) = true

/-- The evaluation returns exactly when it can count the addresses, where it does. -/
theorem evaluateScenario_ok_iff (profile : Profile) {scenario : Scenario}
    {artifacts : ScenarioArtifacts} :
    (∃ result, evaluateScenario py profile scenario artifacts = .ok result) ↔
      ((∀ event ∈ artifacts.events, event.isNamed "error".toList = false) →
        expectedStages scenario.assertions.expectedFailure = none →
          AddrsCounted py scenario.assertions artifacts.events) := by
  rw [← verdict_ok_iff]
  unfold evaluateScenario
  cases verdict py scenario.assertions artifacts.events with
  | ok outcome => exact iff_of_true ⟨_, rfl⟩ ⟨outcome, rfl⟩
  | error exception =>
      constructor
      · rintro ⟨_, h⟩
        cases h
      · rintro ⟨_, h⟩
        cases h

/-- When the message of a result can be encoded. -/
theorem evaluateScenario_message_iff {profile : Profile} {scenario : Scenario}
    {artifacts : ScenarioArtifacts} {result : ScenarioResult}
    (h : evaluateScenario py profile scenario artifacts = .ok result) :
    Encodable py result.message ↔ MessageShown py scenario.assertions artifacts.events := by
  obtain ⟨⟨status, message⟩, hverdict, hresult⟩ := Outcome.bind_eq_ok.mp h
  rw [Outcome.pure_eq_ok.mp hresult]
  exact verdict_encodable py hverdict

/-- The reports can show a result exactly if the evaluation says so. -/
theorem reportable_iff {profile : Profile} {scenario : Scenario} {artifacts : ScenarioArtifacts}
    {result : ScenarioResult}
    (h : evaluateScenario py profile scenario artifacts = .ok result) :
    Reportable py scenario.assertions artifacts.events ↔
      (∀ event ∈ result.events, py.serializable (.dict event) = true) ∧
        Encodable py result.message := by
  obtain ⟨-, -, -, hevents⟩ := evaluateScenario_fields py h
  rw [hevents, evaluateScenario_message_iff py h]
  constructor
  · intro hreportable
    exact ⟨hreportable.serializable, hreportable.shown⟩
  · rintro ⟨hserializable, hshown⟩
    exact ⟨(evaluateScenario_ok_iff py profile).mp ⟨result, h⟩, hshown, hserializable⟩

/-- A result is no pass exactly if the events do not satisfy the assertions. -/
theorem evaluateScenario_no_pass_iff {profile : Profile} {scenario : Scenario}
    {artifacts : ScenarioArtifacts} {result : ScenarioResult}
    (h : evaluateScenario py profile scenario artifacts = .ok result) :
    (result.status = .fail ∨ result.status = .unsupported) ↔
      ¬Satisfied py scenario.assertions artifacts.events := by
  rw [← evaluateScenario_pass_iff py profile, h]
  simp only [Except.ok.injEq, exists_eq_left']
  cases result.status with
  | pass => simp
  | fail => simp
  | unsupported => simp

end SctpConformance.Runner
