import SctpConformance.Helpers.Reports
import SctpConformance.Runner.Evaluation

/-!
# How the events of the C helper are evaluated

What `evaluate_scenario` makes of the events of two processes of the C helper, in terms of
what the processes have heard and done.

Main results:

- Definition `Meets`: the server has received what is asserted, and the addresses are as many.
- Theorem `verdict_iff`: when the verdict is a pass.
-/

namespace SctpConformance.FreebsdHelper

open Runner (Assertions Python Raised Status Text Value addrCount addrCountFailure expectedStages
  firstEvent matchingEvents stageObserved verdict)

/-! ## Events with a role -/

/-- The value under `event`. -/
def HelperEvent.name : HelperEvent → Text
  | .ready _ => "ready".toList
  | .addrs event _ => cText event
  | .recv .. => "recv".toList
  | .sent .. => "sent".toList
  | .notify .. => "notify".toList
  | .expectedFailure .. => "expected_failure".toList
  | .complete .. => "complete".toList
  | .error _ => "error".toList

/-- The event as it is evaluated, when it comes from the helper with this role. -/
def HelperEvent.shown (role : String) (event : HelperEvent) : Runner.Event :=
  event.read.set "role".toList (.str role.toList)

/-- The addresses that are listed under a name other than `ready` are local or of a peer. -/
def HelperEvent.Plain : HelperEvent → Prop
  | .addrs event _ => event = str "local_addrs" ∨ event = str "peer_addrs"
  | _ => True

/-- The kind of an event is its name, but for the events that list addresses. -/
def HelperEvent.kind : HelperEvent → String
  | .ready _ => "ready"
  | .addrs .. => "addrs"
  | .recv .. => "recv"
  | .sent .. => "sent"
  | .notify .. => "notify"
  | .expectedFailure .. => "expected_failure"
  | .complete .. => "complete"
  | .error _ => "error"

/-- The name of an event decides what kind it is, apart from lists of addresses. -/
theorem name_eq_iff {event : HelperEvent} (h : event.Plain) {name : String}
    (hname : name ∉ ["local_addrs", "peer_addrs", "addrs"]) :
    event.name = name.toList ↔ event.kind = name := by
  have hlocal : cText (str "local_addrs") = "local_addrs".toList := cText_str (by decide)
  have hpeer : cText (str "peer_addrs") = "peer_addrs".toList := cText_str (by decide)
  simp only [List.mem_cons, List.not_mem_nil, or_false, not_or] at hname
  cases event with
  | addrs listed addrs =>
      refine iff_of_false ?_ (Ne.symm hname.2.2)
      rcases h with rfl | rfl
      · exact fun heq => hname.1 (String.toList_inj.mp (hlocal.symm.trans heq)).symm
      · exact fun heq => hname.2.1 (String.toList_inj.mp (hpeer.symm.trans heq)).symm
  | _ => exact String.toList_inj

/-- A key that is set is found. -/
theorem get_set_self (event : Runner.Event) (key : Text) (value : Value) :
    (event.set key value).get key = some value := by
  unfold Runner.Event.set
  split
  · rename_i hany
    induction event with
    | nil => cases hany
    | cons member event ih =>
        rw [List.map_cons, Runner.Event.get_cons]
        by_cases hkey : member.1 = key
        · rw [if_pos hkey, if_pos rfl]
        · rw [if_neg hkey, if_neg hkey]
          exact ih (by simpa [hkey] using hany)
  · rename_i hany
    have hnone : event.find? (fun member => member.1 = key) = none := by
      rw [List.find?_eq_none]
      intro member hmember hkey
      exact hany (List.any_eq_true.mpr ⟨member, hmember, hkey⟩)
    simp [Runner.Event.get, List.find?_append, hnone]

/-- A printed event is read with its name. -/
theorem get_read_event (event : HelperEvent) :
    event.read.get "event".toList = some (.str event.name) := by
  have hname : ∀ literal ∈ ["ready", "recv", "sent", "notify", "expected_failure", "complete",
      "error"], cText (str literal) = literal.toList := by
    have hzero : ∀ literal ∈ ["ready", "recv", "sent", "notify", "expected_failure", "complete",
        "error"], '\x00' ∉ literal.toList := by
      decide
    exact fun literal hliteral => cText_str (hzero literal hliteral)
  have hfirst (value : CppString) (rest : List (String × Field)) :
      Runner.Event.get ((("event", Field.text value) :: rest).map fun member =>
        (member.1.toList, member.2.read)) "event".toList = some (.str (cText value)) := by
    simp [Runner.Event.get_cons, Field.read]
  cases event <;>
    first
      | exact (hfirst _ _).trans (by rw [hname _ (by simp)]; rfl)
      | exact hfirst _ _

/-- The role does not change the name. -/
theorem isNamed_shown (event : HelperEvent) (role : String) (name : Text) :
    (event.shown role).isNamed name = decide (event.name = name) := by
  unfold Runner.Event.isNamed Runner.Event.hasText HelperEvent.shown
  rw [Runner.Event.get_set_ne _ _ (by decide), get_read_event]

/-- The role is the one of the helper. -/
theorem hasRole_shown (event : HelperEvent) (role : String) (role' : Text) :
    (event.shown role).hasText "role".toList role' = decide (role.toList = role') := by
  unfold Runner.Event.hasText HelperEvent.shown
  rw [get_set_self]

/-- Events with their roles, as they are evaluated. -/
def shownAll (events : List (String × HelperEvent)) : List Runner.Event :=
  events.map fun event => event.2.shown event.1

/-- The events of a server and of its client. -/
def ofBoth (serverEvents clientEvents : List HelperEvent) : List (String × HelperEvent) :=
  serverEvents.map (Prod.mk "server") ++ clientEvents.map (Prod.mk "client")

/-- The events of both helpers stand one behind the other. -/
theorem map_ofBoth (serverEvents clientEvents : List HelperEvent) :
    (ofBoth serverEvents clientEvents).map Prod.snd = serverEvents ++ clientEvents := by
  simp [ofBoth, Function.comp_def]

section Shown

variable {events : List (String × HelperEvent)} {name : String}

/-- An event is found by its name if it is of this kind. -/
theorem isNamed_eq_kind (hplain : ∀ event ∈ events, event.2.Plain)
    (hname : name ∉ ["local_addrs", "peer_addrs", "addrs"]) :
    ∀ event ∈ events, (event.2.shown event.1).isNamed name.toList = decide (event.2.kind = name) := by
  intro event hevent
  rw [isNamed_shown]
  exact decide_eq_decide.mpr (name_eq_iff (hplain event hevent) hname)

/-- The events of a name are those of this kind. -/
theorem matchingEvents_shownAll (hplain : ∀ event ∈ events, event.2.Plain)
    (hname : name ∉ ["local_addrs", "peer_addrs", "addrs"]) :
    matchingEvents (shownAll events) name.toList =
      shownAll (events.filter fun event => event.2.kind = name) := by
  unfold matchingEvents shownAll
  rw [List.filter_map]
  exact congrArg (List.map _) (List.filter_congr (isNamed_eq_kind hplain hname))

/-- There is no event of this kind. -/
theorem firstEvent_shownAll (hplain : ∀ event ∈ events, event.2.Plain)
    (hname : name ∉ ["local_addrs", "peer_addrs", "addrs"]) :
    firstEvent (shownAll events) name.toList = none ↔
      ∀ event ∈ events.map Prod.snd, event.kind ≠ name := by
  unfold firstEvent shownAll
  rw [List.find?_eq_none, List.forall_mem_map, List.forall_mem_map]
  refine forall₂_congr fun event hevent => ?_
  rw [isNamed_eq_kind hplain hname event hevent, decide_eq_true_iff]

end Shown

/-! ## What has been received -/

/-- The payload, the stream and the PPID of a message. -/
def Delivery.content : Delivery → Option (CppString × UInt16 × UInt32)
  | .message data stream ppid _ => some (data, stream, ppid)
  | .notification .. => none

/-- What is evaluated of the received messages, the values under one key. -/
def valuesOf (value : CppString × UInt16 × UInt32 → Value) (heard : List Delivery) : Value :=
  .list ((heard.filterMap Delivery.content).map value)

/-- The payload of a message as it is compared. -/
def payloadValue (content : CppString × UInt16 × UInt32) : Value :=
  .str (cText content.1)

/-- The stream of a message as it is compared. -/
def streamValue (content : CppString × UInt16 × UInt32) : Value :=
  .int content.2.1.toNat

/-- The PPID of a message as it is compared. -/
def ppidValue (content : CppString × UInt16 × UInt32) : Value :=
  .int content.2.2.toNat

/-- The server has received what is asserted, and the addresses are as many. -/
structure Meets (py : Python) (assertions : Assertions) (heard : List Delivery)
    (localAddrs peerAddrs : Option (List CppString)) : Prop where
  recvCount : ∀ count, assertions.serverRecvCount = some count → (messageCount heard : Int) = count
  payloads : ∀ expected, assertions.serverPayloads = some expected →
    py.equal (valuesOf payloadValue heard) expected = true
  streams : ∀ expected, assertions.serverStreams = some expected →
    py.equal (valuesOf streamValue heard) expected = true
  ppids : ∀ expected, assertions.serverPpids = some expected →
    py.equal (valuesOf ppidValue heard) expected = true
  notifyCount : ∀ minimum, assertions.minNotifyCount = some minimum →
    minimum ≤ (heard.length - messageCount heard : Int)
  localAddrCount : ∀ count, assertions.serverLocalAddrCount = some count →
    ((localAddrs.getD []).length : Int) = count
  peerAddrCount : ∀ count, assertions.clientPeerAddrCount = some count →
    ((peerAddrs.getD []).length : Int) = count

/-- The deliveries that events report. -/
def heardOf (events : List HelperEvent) : List Delivery :=
  events.filterMap HelperEvent.delivery

/-- What is read from the events of received messages. -/
theorem map_received {β : Type} {events : List (String × HelperEvent)}
    (hplain : ∀ event ∈ events, event.2.Plain) (f : Runner.Event → β)
    (g : CppString × UInt16 × UInt32 → β)
    (hfg : ∀ role data stream ppid assocId,
      f ((HelperEvent.recv data stream ppid assocId).shown role) = g (data, stream, ppid)) :
    (matchingEvents (shownAll events) "recv".toList).map f =
      ((heardOf (events.map Prod.snd)).filterMap Delivery.content).map g := by
  rw [matchingEvents_shownAll hplain (by decide)]
  induction events with
  | nil => rfl
  | cons event events ih =>
      have hrest := ih fun e he => hplain e (List.mem_cons_of_mem _ he)
      obtain ⟨role, event⟩ := event
      cases event with
      | recv data stream ppid assocId =>
          rw [List.filter_cons_of_pos (by simp [HelperEvent.kind])]
          simp only [shownAll, List.map_cons, hfg]
          exact congrArg _ hrest
      | _ =>
          rw [List.filter_cons_of_neg (by simp [HelperEvent.kind])]
          exact hrest

/-- The other deliveries are reported by `notify` events. -/
theorem length_notified {events : List (String × HelperEvent)}
    (hplain : ∀ event ∈ events, event.2.Plain) :
    (matchingEvents (shownAll events) "notify".toList).length +
      messageCount (heardOf (events.map Prod.snd)) = (heardOf (events.map Prod.snd)).length := by
  rw [matchingEvents_shownAll hplain (by decide), shownAll, List.length_map]
  clear hplain
  induction events with
  | nil => rfl
  | cons event events ih =>
      obtain ⟨role, event⟩ := event
      cases event with
      | recv data stream ppid assocId =>
          rw [List.filter_cons_of_neg (by simp [HelperEvent.kind])]
          have hheard : heardOf (((role, HelperEvent.recv data stream ppid assocId) :: events).map
              Prod.snd) = .message data stream ppid assocId :: heardOf (events.map Prod.snd) := rfl
          rw [hheard, messageCount, List.countP_cons_of_pos rfl, ← messageCount, List.length_cons]
          omega
      | notify type flags =>
          rw [List.filter_cons_of_pos (by simp [HelperEvent.kind])]
          have hheard : heardOf (((role, HelperEvent.notify type flags) :: events).map Prod.snd) =
              .notification type flags :: heardOf (events.map Prod.snd) := rfl
          have hmessage : ¬(Delivery.notification type flags).isMessage = true := by
            simp [Delivery.isMessage]
          rw [hheard, messageCount, List.countP_cons_of_neg hmessage, ← messageCount,
            List.length_cons, List.length_cons]
          omega
      | _ =>
          rw [List.filter_cons_of_neg (by simp [HelperEvent.kind])]
          exact ih

/-! ## Stages and addresses -/

/-- What failed as it was expected to. -/
def HelperEvent.stage : HelperEvent → Option Text
  | .expectedFailure stage _ => some (cText stage)
  | _ => none

/-- The addresses of a `ready` event. -/
def HelperEvent.readyAddrs : HelperEvent → Option (List CppString)
  | .ready localAddrs => some localAddrs
  | _ => none

/-- The addresses that are listed under a name. -/
def HelperEvent.listed (name : CppString) : HelperEvent → Option (List CppString)
  | .addrs event list => if event = name then some list else none
  | _ => none

/-- The stage is the one of the first event of a failure. -/
theorem stageObserved_shownAll {events : List (String × HelperEvent)}
    (hplain : ∀ event ∈ events, event.2.Plain) (stages : List Text) :
    stageObserved (shownAll events) stages = true ↔
      ∃ stage ∈ stages, (events.map Prod.snd).findSome? HelperEvent.stage = some stage := by
  unfold stageObserved firstEvent shownAll
  induction events with
  | nil =>
      refine iff_of_false Bool.false_ne_true ?_
      rintro ⟨stage, -, hnone⟩
      cases hnone
  | cons event events ih =>
      have hrest := ih fun e he => hplain e (List.mem_cons_of_mem _ he)
      have hname := isNamed_eq_kind hplain (show "expected_failure" ∉ _ by decide) event
        List.mem_cons_self
      obtain ⟨role, event⟩ := event
      cases event with
      | expectedFailure stage message =>
          have hstage : (HelperEvent.shown role (.expectedFailure stage message)).get
              "stage".toList = some (.str (cText stage)) := by
            unfold HelperEvent.shown
            rw [Runner.Event.get_set_ne _ _ (by decide)]
            simp [HelperEvent.read, HelperEvent.members, Runner.Event.get_cons, Field.read]
          rw [List.map_cons, List.find?_cons_of_pos (by rw [hname]; rfl)]
          have hsome : ((((role, HelperEvent.expectedFailure stage message) :: events).map
              Prod.snd).findSome? HelperEvent.stage) = some (cText stage) := rfl
          simp only [hsome, List.any_eq_true, Runner.Event.hasText, hstage, decide_eq_true_iff,
            Option.some_inj]
      | _ =>
          rw [List.map_cons, List.find?_cons_of_neg (by rw [hname]; simp [HelperEvent.kind])]
          exact hrest

/-- Only the events of the own role are looked at. -/
theorem find_role (role role' : String) (events : List HelperEvent) (name : Text) :
    (shownAll (events.map (Prod.mk role))).find? (fun event =>
        event.isNamed name && event.hasText "role".toList role'.toList) =
      if role = role' then
        (events.find? fun event => event.name = name).map (HelperEvent.shown role)
      else none := by
  unfold shownAll
  rw [List.map_map, List.find?_map]
  by_cases hrole : role = role'
  · rw [if_pos hrole]
    refine congrArg (Option.map _) (congrArg (events.find? ·) (funext fun event => ?_))
    rw [Function.comp_apply, Function.comp_apply, isNamed_shown, hasRole_shown, hrole]
    simp
  · rw [if_neg hrole, Option.map_eq_none_iff, List.find?_eq_none]
    intro event _
    rw [Function.comp_apply, Function.comp_apply, hasRole_shown]
    simp [String.toList_inj, hrole]

/-- The addresses of an event are counted. -/
theorem addrCount_list {event : Runner.Event} {key : String} {addrs : List CppString}
    (h : event.get key.toList = some (.list (addrs.map fun addr => .str (cText addr)))) :
    addrCount (some event) key = .ok (addrs.length : Int) := by
  have hlength : (addrs.map fun addr => Value.str (cText addr)).length = addrs.length :=
    List.length_map _
  simp only [addrCount, h, Option.getD_some, Value.toList]
  rw [← hlength]
  rfl

/-- The number of addresses in the first event of a name. -/
theorem addrCount_find {events : List HelperEvent} {name : Text} {role key : String}
    {read : HelperEvent → Option (List CppString)}
    (hname : ∀ event ∈ events, decide (event.name = name) = (read event).isSome)
    (hget : ∀ event addrs, read event = some addrs → (event.shown role).get key.toList =
      some (.list (addrs.map fun addr => .str (cText addr)))) :
    addrCount ((events.find? fun event => event.name = name).map (HelperEvent.shown role)) key =
      .ok ((((events.findSome? read).getD []).length : Nat) : Int) := by
  induction events with
  | nil => rfl
  | cons event events ih =>
      have hhead := hname event List.mem_cons_self
      rw [List.find?_cons, List.findSome?_cons, hhead]
      cases hread : read event with
      | some addrs => exact addrCount_list (hget event addrs hread)
      | none => exact ih fun e he => hname e (List.mem_cons_of_mem _ he)

/-- The events of one helper. -/
theorem shownAll_role (role : String) (events : List HelperEvent) :
    shownAll (events.map (Prod.mk role)) = events.map (HelperEvent.shown role) := by
  unfold shownAll
  rw [List.map_map]
  rfl

/-- The events of both. -/
theorem shownAll_ofBoth (serverEvents clientEvents : List HelperEvent) :
    shownAll (ofBoth serverEvents clientEvents) =
      shownAll (serverEvents.map (Prod.mk "server")) ++
        shownAll (clientEvents.map (Prod.mk "client")) := by
  simp [shownAll, ofBoth]

/-- How many addresses the server has named. -/
theorem addrCount_ready {serverEvents : List HelperEvent}
    (hplain : ∀ event ∈ serverEvents, event.Plain) (clientEvents : List HelperEvent) :
    addrCount ((shownAll (ofBoth serverEvents clientEvents)).find? fun event =>
        event.isNamed "ready".toList && event.hasText "role".toList "server".toList) "local_addrs" =
      .ok ((((serverEvents.findSome? HelperEvent.readyAddrs).getD []).length : Nat) : Int) := by
  rw [shownAll_ofBoth, List.find?_append, find_role, find_role, if_pos rfl, if_neg (by decide),
    Option.or_none]
  refine addrCount_find ?_ ?_
  · intro event hevent
    have hname := name_eq_iff (hplain event hevent) (show "ready" ∉ _ by decide)
    have hkind : decide (event.name = "ready".toList) = decide (event.kind = "ready") :=
      decide_eq_decide.mpr hname
    rw [hkind]
    cases event <;> simp [HelperEvent.kind, HelperEvent.readyAddrs]
  · intro event addrs hread
    cases event with
    | ready localAddrs =>
        obtain rfl := Option.some.inj hread
        unfold HelperEvent.shown
        rw [Runner.Event.get_set_ne _ _ (by decide)]
        simp [HelperEvent.read, HelperEvent.members, Runner.Event.get_cons, Field.read]
    | _ => cases hread

/-- How many addresses of the server the client has named. -/
theorem addrCount_peer (serverEvents : List HelperEvent) {clientEvents : List HelperEvent}
    (hplain : ∀ event ∈ clientEvents, event.Plain) :
    addrCount ((shownAll (ofBoth serverEvents clientEvents)).find? fun event =>
        event.isNamed "peer_addrs".toList && event.hasText "role".toList "client".toList) "addrs" =
      .ok ((((clientEvents.findSome? (HelperEvent.listed (str "peer_addrs"))).getD []).length :
        Nat) : Int) := by
  have hlocal : cText (str "local_addrs") = "local_addrs".toList := cText_str (by decide)
  have hpeer : cText (str "peer_addrs") = "peer_addrs".toList := cText_str (by decide)
  have hne : str "local_addrs" ≠ str "peer_addrs" := by decide
  rw [shownAll_ofBoth, List.find?_append, find_role, find_role, if_neg (by decide), if_pos rfl,
    Option.none_or]
  refine addrCount_find ?_ ?_
  · intro event hevent
    cases event with
    | addrs listed list =>
        have hlisted : listed = str "local_addrs" ∨ listed = str "peer_addrs" := hplain _ hevent
        show decide (cText listed = "peer_addrs".toList) =
          (if listed = str "peer_addrs" then some list else none).isSome
        rcases hlisted with hlisted | hlisted
        · rw [hlisted, hlocal, if_neg hne]
          rfl
        · rw [hlisted, hpeer, if_pos rfl, decide_eq_true rfl]
          rfl
    | _ => rfl
  · intro event addrs hread
    cases event with
    | addrs listed list =>
        obtain ⟨-, hlist⟩ := Option.ite_none_right_eq_some.mp hread
        rw [← Option.some.inj hlist]
        unfold HelperEvent.shown
        rw [Runner.Event.get_set_ne _ _ (by decide)]
        simp [HelperEvent.read, HelperEvent.members, Runner.Event.get_cons, Field.read]
    | _ => cases hread

/-! ## The verdict -/

section Verdict

variable (py : Python) (assertions : Assertions) {serverEvents clientEvents : List HelperEvent}

/-- The check of a count of addresses. -/
theorem addrCountFailure_eq (what name role key : String) (expected : Option Int)
    {events : List Runner.Event} {count : Int}
    (hcount : addrCount (events.find? fun event => event.isNamed name.toList &&
      event.hasText "role".toList role.toList) key = .ok count) :
    ∃ failure, addrCountFailure what name role key expected events = .ok failure ∧
      (failure = none ↔ ∀ wanted, expected = some wanted → count = wanted) := by
  cases expected with
  | none => exact ⟨none, rfl, by simp⟩
  | some wanted =>
      unfold addrCountFailure
      rw [hcount]
      by_cases heq : count = wanted
      · exact ⟨none, if_neg (by simp [heq]), by simp [heq]⟩
      · exact ⟨_, if_pos heq, by simp [heq]⟩

/-- The check of the values of the messages. -/
theorem valuesFailure_iff (what key : String) (expected : Option Value)
    (recvEvents : List Runner.Event) :
    Runner.valuesFailure py what key expected recvEvents = none ↔
      ∀ value, expected = some value → py.equal
        (.list (recvEvents.map fun event => (event.get key.toList).getD .none)) value = true := by
  cases expected with
  | none => simp [Runner.valuesFailure]
  | some value => simp [Runner.valuesFailure]

/-- The checks of what the server received, in terms of what it has heard. -/
theorem messageFailure_iff {events : List (String × HelperEvent)}
    (hplain : ∀ event ∈ events, event.2.Plain) {heard : List Delivery}
    (hheard : heardOf (events.map Prod.snd) = heard) :
    Runner.messageFailure py assertions (shownAll events) = none ↔
      (∀ count, assertions.serverRecvCount = some count → (messageCount heard : Int) = count) ∧
      (∀ expected, assertions.serverPayloads = some expected →
        py.equal (valuesOf payloadValue heard) expected = true) ∧
      (∀ expected, assertions.serverStreams = some expected →
        py.equal (valuesOf streamValue heard) expected = true) ∧
      (∀ expected, assertions.serverPpids = some expected →
        py.equal (valuesOf ppidValue heard) expected = true) ∧
      (∀ minimum, assertions.minNotifyCount = some minimum →
        minimum ≤ (heard.length - messageCount heard : Int)) := by
  have hvalues (key : String) (value : CppString × UInt16 × UInt32 → Value)
      (hvalue : ∀ role data stream ppid assocId,
        ((HelperEvent.recv data stream ppid assocId).shown role).get key.toList =
          some (value (data, stream, ppid))) :
      Value.list ((matchingEvents (shownAll events) "recv".toList).map fun event =>
        (event.get key.toList).getD .none) = valuesOf value heard := by
    rw [map_received hplain (fun event => (event.get key.toList).getD .none) value
      fun role data stream ppid assocId => by rw [hvalue, Option.getD_some], hheard]
    rfl
  have hget (key : String) (hkey : key.toList ≠ "role".toList) (role : String)
      (event : HelperEvent) : (event.shown role).get key.toList = event.read.get key.toList :=
    Runner.Event.get_set_ne _ _ hkey
  have hpayload := hvalues "payload" payloadValue fun role data stream ppid assocId => by
    rw [hget _ (by decide)]
    simp [HelperEvent.read, HelperEvent.members, Runner.Event.get_cons, Field.read, payloadValue]
  have hstream := hvalues "stream" streamValue fun role data stream ppid assocId => by
    rw [hget _ (by decide)]
    simp [HelperEvent.read, HelperEvent.members, Runner.Event.get_cons, Field.read, streamValue]
  have hppid := hvalues "ppid" ppidValue fun role data stream ppid assocId => by
    rw [hget _ (by decide)]
    simp [HelperEvent.read, HelperEvent.members, Runner.Event.get_cons, Field.read, ppidValue]
  have hcount : (matchingEvents (shownAll events) "recv".toList).length = messageCount heard := by
    have hmap := congrArg List.length (map_received hplain (fun _ => ()) (fun _ => ())
      fun _ _ _ _ _ => rfl)
    rw [List.length_map, List.length_map, hheard] at hmap
    rw [hmap, messageCount, List.length_filterMap_eq_countP]
    exact List.countP_congr fun delivery _ => by cases delivery <;> simp [Delivery.content,
      Delivery.isMessage]
  have hnotify := length_notified hplain
  rw [hheard] at hnotify
  have hrecvFailure : Runner.recvCountFailure assertions
      (matchingEvents (shownAll events) "recv".toList) = none ↔
        ∀ count, assertions.serverRecvCount = some count → (messageCount heard : Int) = count := by
    unfold Runner.recvCountFailure
    rw [hcount]
    cases assertions.serverRecvCount <;> simp
  have hnotifyFailure : Runner.notifyFailure assertions
      (matchingEvents (shownAll events) "notify".toList) = none ↔
        ∀ minimum, assertions.minNotifyCount = some minimum →
          minimum ≤ (heard.length - messageCount heard : Int) := by
    unfold Runner.notifyFailure
    cases assertions.minNotifyCount with
    | none => simp
    | some minimum =>
        simp only [ite_eq_right_iff, reduceCtorEq, imp_false, Option.some_inj, forall_eq']
        omega
  have helse (first second : Option Text) :
      (first <|> second) = none ↔ first = none ∧ second = none := by
    cases first <;> simp
  unfold Runner.messageFailure
  simp only [helse, hrecvFailure, hnotifyFailure, valuesFailure_iff, hpayload, hstream, hppid]

/-- The events of both helpers are plain if those of each are. -/
theorem plain_ofBoth (hplain : ∀ event ∈ serverEvents ++ clientEvents, event.Plain) :
    ∀ event ∈ ofBoth serverEvents clientEvents, event.2.Plain := by
  intro event hevent
  refine hplain event.2 ?_
  rw [← map_ofBoth]
  exact List.mem_map_of_mem hevent

/-- The checks come to an end, and find nothing wrong exactly if the assertions are met. -/
theorem assertionFailure_meets (hplain : ∀ event ∈ serverEvents ++ clientEvents, event.Plain) :
    ∃ failure, Runner.assertionFailure py assertions
        (shownAll (ofBoth serverEvents clientEvents)) = .ok failure ∧
      (failure = none ↔ Meets py assertions (heardOf (serverEvents ++ clientEvents))
        (serverEvents.findSome? HelperEvent.readyAddrs)
        (clientEvents.findSome? (HelperEvent.listed (str "peer_addrs")))) := by
  rw [List.forall_mem_append] at hplain
  have hmessages := messageFailure_iff py assertions
    (plain_ofBoth (List.forall_mem_append.mpr hplain))
    (congrArg heardOf (map_ofBoth serverEvents clientEvents))
  obtain ⟨localFailure, hlocal, hlocalNone⟩ := addrCountFailure_eq "expected server local" "ready"
    "server" "local_addrs" assertions.serverLocalAddrCount
    (addrCount_ready hplain.1 clientEvents)
  obtain ⟨peerFailure, hpeer, hpeerNone⟩ := addrCountFailure_eq "expected client peer" "peer_addrs"
    "client" "addrs" assertions.clientPeerAddrCount (addrCount_peer serverEvents hplain.2)
  have hlocal' : Runner.localAddrFailure assertions _ = .ok localFailure := hlocal
  have hpeer' : Runner.peerAddrFailure assertions _ = .ok peerFailure := hpeer
  unfold Runner.assertionFailure
  cases hmessage : Runner.messageFailure py assertions
      (shownAll (ofBoth serverEvents clientEvents)) with
  | some message =>
      refine ⟨some message, rfl, iff_of_false (by simp) fun h => ?_⟩
      rw [hmessages.mpr ⟨h.recvCount, h.payloads, h.streams, h.ppids, h.notifyCount⟩] at hmessage
      cases hmessage
  | none =>
      obtain ⟨hrecv, hpayloads, hstreams, hppids, hnotify⟩ := hmessages.mp hmessage
      rw [hlocal', hpeer']
      cases localFailure with
      | some message =>
          exact ⟨some message, rfl, iff_of_false (by simp) fun h =>
            absurd (hlocalNone.mpr h.localAddrCount) (by simp)⟩
      | none =>
          refine ⟨peerFailure, rfl, hpeerNone.trans ⟨fun h => ?_, fun h => h.peerAddrCount⟩⟩
          exact ⟨hrecv, hpayloads, hstreams, hppids, hnotify, hlocalNone.mp rfl, h⟩

/-- There is a verdict.  It is a pass exactly if no process has reported an error, and either
a failure that is expected has been reported, or what has been received is what is asserted. -/
theorem verdict_iff (hplain : ∀ event ∈ serverEvents ++ clientEvents, event.Plain) :
    ∃ status message, verdict py assertions (shownAll (ofBoth serverEvents clientEvents)) =
        .ok (status, message) ∧
      (status = .pass ↔ (∀ event ∈ serverEvents ++ clientEvents, event.kind ≠ "error") ∧
        (∀ stages, expectedStages assertions.expectedFailure = some stages → ∃ stage ∈ stages,
          (serverEvents ++ clientEvents).findSome? HelperEvent.stage = some stage) ∧
        (expectedStages assertions.expectedFailure = none →
          Meets py assertions (heardOf (serverEvents ++ clientEvents))
            (serverEvents.findSome? HelperEvent.readyAddrs)
            (clientEvents.findSome? (HelperEvent.listed (str "peer_addrs"))))) := by
  have hboth := plain_ofBoth hplain
  have herrors := firstEvent_shownAll hboth (show "error" ∉ _ by decide)
  have hstages := stageObserved_shownAll hboth
  rw [map_ofBoth] at herrors hstages
  obtain ⟨failure, hfailure, hmeets⟩ := assertionFailure_meets py assertions hplain
  unfold verdict
  cases herror : firstEvent (shownAll (ofBoth serverEvents clientEvents)) "error".toList with
  | some errorEvent =>
      refine ⟨_, _, rfl, iff_of_false (fun h => ?_) fun h => ?_⟩
      · rcases Runner.errorStatus_ne py _ with hstatus | hstatus <;> rw [h] at hstatus <;>
          cases hstatus
      · rw [herrors.mpr h.1] at herror
        cases herror
  | none =>
      have hnone := herrors.mp herror
      cases hexpected : expectedStages assertions.expectedFailure with
      | some stages =>
          dsimp only
          by_cases hobserved :
              stageObserved (shownAll (ofBoth serverEvents clientEvents)) stages = true
          · rw [if_pos hobserved]
            refine ⟨_, _, rfl, iff_of_true rfl ⟨hnone, ?_, nofun⟩⟩
            rintro _ ⟨rfl⟩
            exact (hstages stages).mp hobserved
          · rw [if_neg hobserved]
            exact ⟨_, _, rfl, iff_of_false nofun fun h =>
              hobserved ((hstages stages).mpr (h.2.1 stages rfl))⟩
      | none =>
          rw [hfailure]
          cases failure with
          | none => exact ⟨_, _, rfl, iff_of_true rfl ⟨hnone, nofun, fun _ => hmeets.mp rfl⟩⟩
          | some message =>
              exact ⟨_, _, rfl, iff_of_false nofun fun h =>
                absurd (hmeets.mpr (h.2.2 rfl)) (by simp)⟩

end Verdict

/-! ## The server -/

section Processes

variable {stack : Stack} {strerror : Errno → CppString} {opts : Options} {ran : Ran}

/-- What a server reports is plain and no failure. -/
theorem plain_reports (peerAddrs : Option (List CppString)) (recvCount : Nat)
    (deliveries : List Delivery) : ∀ event ∈ reports peerAddrs recvCount deliveries,
      event.Plain ∧ event.kind ≠ "error" ∧ event.stage = none ∧ event.readyAddrs = none := by
  induction deliveries generalizing recvCount with
  | nil => exact fun event hevent => absurd hevent List.not_mem_nil
  | cons delivery deliveries ih =>
      intro event hevent
      rcases List.mem_append.mp hevent with hevent | hevent
      · cases delivery with
        | notification type flags =>
            obtain rfl := List.mem_singleton.mp hevent
            simp [HelperEvent.Plain, HelperEvent.kind, HelperEvent.stage, HelperEvent.readyAddrs]
        | message data stream ppid assocId =>
            rcases List.mem_cons.mp hevent with rfl | hevent
            · simp [HelperEvent.Plain, HelperEvent.kind, HelperEvent.stage, HelperEvent.readyAddrs]
            · split at hevent
              · obtain ⟨addrs, -, rfl⟩ := Option.map_eq_some_iff.mp (Option.mem_toList.mp hevent)
                exact ⟨.inr rfl, by simp [HelperEvent.kind], rfl, rfl⟩
              · cases hevent
      · exact ih _ event hevent

/-- The events of a server that has ended: behind the reports it says that it is done, or why
it has failed. -/
theorem server_events (hends : ran.Ends (serverEvents stack opts) (serverOutcome stack opts))
    (hended : ran.exitCode ≠ none) {started : Nat × List CppString}
    (hlistening : listening stack opts = some started) :
    ∃ last, ran.events = .ready started.2 :: (reports (shownPeerAddrs stack opts) 0
        (upTo opts.readMessages.toNat (delivered stack.recvv)) ++ [last]) ∧
      ((opts.readMessages.toNat ≤ messageCount (delivered stack.recvv) ∧
          last = .complete (Int32.ofNat opts.readMessages.toNat) .recvCount) ∨
        (¬opts.readMessages.toNat ≤ messageCount (delivered stack.recvv) ∧
          ∃ message, last = .error message)) := by
  simp only [serverEvents, serverOutcome, hlistening, completion, receiveOutcome] at hends
  by_cases hall : opts.readMessages.toNat ≤ messageCount (delivered stack.recvv)
  · rw [if_pos hall, if_pos hall] at hends
    exact ⟨_, hends.2, .inl ⟨hall, rfl⟩⟩
  · rw [if_neg hall, if_neg hall] at hends
    cases hfails : recvFails stack.recvv with
    | false =>
        rw [hfails] at hends
        exact absurd hends.1 hended
    | true =>
        rw [hfails] at hends
        obtain ⟨-, message, hevents⟩ := hends
        exact ⟨.error message, by simpa using hevents, .inr ⟨hall, message, rfl⟩⟩

/-- What a server that has ended shows to the evaluation. -/
theorem server_shown (hends : ran.Ends (serverEvents stack opts) (serverOutcome stack opts))
    (hended : ran.exitCode ≠ none) {started : Nat × List CppString}
    (hlistening : listening stack opts = some started) :
    (∀ event ∈ ran.events, event.Plain) ∧
      ((∀ event ∈ ran.events, event.kind ≠ "error") ↔
        opts.readMessages.toNat ≤ messageCount (delivered stack.recvv)) ∧
      (∀ event ∈ ran.events, event.stage = none) ∧
      heardOf ran.events = upTo opts.readMessages.toNat (delivered stack.recvv) ∧
      ran.events.findSome? HelperEvent.readyAddrs = some started.2 := by
  obtain ⟨last, hevents, hlast⟩ := server_events hends hended hlistening
  have hreports := plain_reports (shownPeerAddrs stack opts) 0
    (upTo opts.readMessages.toNat (delivered stack.recvv))
  have hheard := heard_reports (shownPeerAddrs stack opts) 0
    (upTo opts.readMessages.toNat (delivered stack.recvv))
  have hplain : last.Plain ∧ last.stage = none ∧ last.delivery = none := by
    rcases hlast with ⟨-, rfl⟩ | ⟨-, message, rfl⟩ <;> exact ⟨trivial, rfl, rfl⟩
  have herror : last.kind ≠ "error" ↔
      opts.readMessages.toNat ≤ messageCount (delivered stack.recvv) := by
    rcases hlast with ⟨hall, rfl⟩ | ⟨hall, message, rfl⟩
    · exact iff_of_true (by simp [HelperEvent.kind]) hall
    · exact iff_of_false (by simp [HelperEvent.kind]) hall
  have hmem {p : HelperEvent → Prop} : (∀ event ∈ ran.events, p event) ↔ p (.ready started.2) ∧
      (∀ event ∈ reports (shownPeerAddrs stack opts) 0
        (upTo opts.readMessages.toNat (delivered stack.recvv)), p event) ∧ p last := by
    rw [hevents, List.forall_mem_cons, List.forall_mem_append, List.forall_mem_singleton]
  rw [hmem, hmem, hmem]
  refine ⟨⟨trivial, fun event h => (hreports event h).1, hplain.1⟩, ?_,
    ⟨rfl, fun event h => (hreports event h).2.2.1, hplain.2.1⟩, ?_, by rw [hevents]; rfl⟩
  · rw [← herror]
    exact ⟨fun h => h.2.2, fun h =>
      ⟨by simp [HelperEvent.kind], fun event hevent => (hreports event hevent).2.1, h⟩⟩
  · rw [heardOf, hevents, List.filterMap_cons_none rfl, List.filterMap_append, hheard,
      List.filterMap_cons_none hplain.2.2, List.filterMap_nil, List.append_nil]

/-! ## The client -/

/-- The addresses of the server that a client prints. -/
def namedPeerAddrs (stack : Stack) (opts : Options) : Option (List CppString) := do
  let started ← connecting stack opts
  let _ ← (stack.connectx started.2).toOption
  if opts.expects ["connect"] then none
  else if opts.emitPeerAddrs then loaded stack.getpaddrs
  else none

/-- An event that a client prints before its end. -/
def HelperEvent.OfClient : HelperEvent → Prop
  | .addrs event _ => event = str "local_addrs" ∨ event = str "peer_addrs"
  | .sent .. => True
  | _ => False

/-- What a client prints can come from a client. -/
theorem ofClient_clientEvents (stack : Stack) (opts : Options) :
    ∀ event ∈ clientEvents stack opts, event.OfClient := by
  have hsent (messages : List MessageSpec) :
      ∀ event ∈ messages.map sentEvent, event.OfClient := by
    intro event hevent
    obtain ⟨message, -, rfl⟩ := List.mem_map.mp hevent
    trivial
  have haddrs (condition : Bool) (addrs : Option (List CppString)) {name : String}
      (hname : str name = str "local_addrs" ∨ str name = str "peer_addrs") :
      ∀ event ∈ (if condition then (addrs.map fun addrs => HelperEvent.addrs (str name) addrs).toList
        else []), event.OfClient := by
    intro event hevent
    cases condition with
    | false => cases hevent
    | true =>
        obtain ⟨list, -, rfl⟩ := Option.map_eq_some_iff.mp (Option.mem_toList.mp hevent)
        exact hname
  intro event hevent
  unfold clientEvents at hevent
  cases hconnecting : connecting stack opts with
  | none => simp [hconnecting] at hevent
  | some started =>
      simp only [hconnecting] at hevent
      cases hanswer : stack.connectx started.2 with
      | error errno => simp [hanswer, connectEvents] at hevent
      | ok assocId =>
          simp only [hanswer, connectEvents, connectedEvents] at hevent
          split at hevent
          · cases hevent
          · rcases List.mem_append.mp hevent with hevent | hevent
            · rcases List.mem_append.mp hevent with hevent | hevent
              · exact haddrs _ _ (.inl rfl) event hevent
              · exact haddrs _ _ (.inr rfl) event hevent
            · split at hevent
              · cases hevent
              · exact hsent _ event hevent

/-- The addresses of the peer that a client lists. -/
theorem listed_clientEvents (stack : Stack) (opts : Options) :
    (clientEvents stack opts).findSome? (HelperEvent.listed (str "peer_addrs")) =
      namedPeerAddrs stack opts := by
  have hsent (messages : List MessageSpec) :
      (messages.map sentEvent).findSome? (HelperEvent.listed (str "peer_addrs")) = none := by
    rw [List.findSome?_eq_none_iff]
    intro event hevent
    obtain ⟨message, -, rfl⟩ := List.mem_map.mp hevent
    rfl
  have hlocal (addrs : List CppString) :
      (HelperEvent.addrs (str "local_addrs") addrs).listed (str "peer_addrs") = none := by
    have hne : str "local_addrs" ≠ str "peer_addrs" := by decide
    rw [HelperEvent.listed, if_neg hne]
  have hpeer (addrs : List CppString) :
      (HelperEvent.addrs (str "peer_addrs") addrs).listed (str "peer_addrs") = some addrs := by
    rw [HelperEvent.listed, if_pos rfl]
  have haddrs : (clientAddrs stack opts).findSome? (HelperEvent.listed (str "peer_addrs")) =
      if opts.emitPeerAddrs then loaded stack.getpaddrs else none := by
    unfold clientAddrs
    rw [List.findSome?_append]
    cases opts.emitLocalAddrs <;> cases opts.emitPeerAddrs <;> cases loaded stack.getladdrs <;>
      cases loaded stack.getpaddrs <;> simp [hlocal, hpeer]
  unfold clientEvents namedPeerAddrs
  cases hconnecting : connecting stack opts with
  | none => rfl
  | some started =>
      cases hanswer : stack.connectx started.2 with
      | error errno => simp [hanswer, connectEvents, Except.toOption]
      | ok assocId =>
          simp only [hanswer, connectEvents, connectedEvents, Except.toOption, Option.bind_eq_bind,
            Option.bind_some]
          split
          · rfl
          · rw [List.findSome?_append, haddrs]
            cases givenMessages opts.messages with
            | none => simp
            | some messages => simp only [hsent, Option.or_none]

/-- What failed as it was expected to. -/
def ClientEnd.stage : ClientEnd → Option Text
  | .expected stage _ => some stage.toList
  | _ => none

/-- A client fails at the stage that it names. -/
theorem failedAt_stage {stages : List String} {stage : String} {errno : Errno}
    (hstage : stage ∈ ["connect", "send"]) {stage' : String} {errno' : Errno}
    (h : failedAt opts stages stage errno = .expected stage' errno') :
    stage' ∈ ["connect", "send"] := by
  unfold failedAt at h
  split at h
  · cases h
    exact hstage
  · cases h

/-- Only two stages can be expected to fail. -/
theorem clientEnd_stage {stage : String} {errno : Errno}
    (h : clientEnd stack opts = .expected stage errno) : stage ∈ ["connect", "send"] := by
  unfold clientEnd at h
  split at h
  · cases h
  · unfold connectEnd at h
    split at h
    · exact failedAt_stage (by simp) h
    · unfold connectedEnd at h
      split at h
      · cases h
      · split at h
        · cases h
        · unfold sendingEnd at h
          split at h
          · exact failedAt_stage (by simp) h
          · split at h <;> cases h

/-- What a client shows to the evaluation. -/
theorem client_shown (hends : ran.Ends (clientEvents stack opts ++
      (clientEnd stack opts).events strerror) (clientEnd stack opts).outcome) :
    (∀ event ∈ ran.events, event.Plain) ∧
      ((∀ event ∈ ran.events, event.kind ≠ "error") ↔ clientEnd stack opts ≠ .failed) ∧
      ran.events.findSome? HelperEvent.stage = (clientEnd stack opts).stage ∧
      heardOf ran.events = [] ∧
      ran.events.findSome? (HelperEvent.listed (str "peer_addrs")) = namedPeerAddrs stack opts := by
  -- Behind what the client prints on its way there is one last event.
  obtain ⟨last, hevents, hplain, herror, hstage⟩ : ∃ last : HelperEvent,
      ran.events = clientEvents stack opts ++ [last] ∧
      (last.Plain ∧ last.delivery = none ∧ last.listed (str "peer_addrs") = none) ∧
      (last.kind ≠ "error" ↔ clientEnd stack opts ≠ .failed) ∧
      last.stage = (clientEnd stack opts).stage := by
    cases hend : clientEnd stack opts with
    | failed =>
        rw [hend] at hends
        obtain ⟨-, message, hevents⟩ := hends
        refine ⟨.error message, by simpa [ClientEnd.events] using hevents, ⟨trivial, rfl, rfl⟩, ?_,
          rfl⟩
        simp [HelperEvent.kind]
    | expected stage errno =>
        rw [hend] at hends
        have hzero : '\x00' ∉ stage.toList := by
          have hnone : ∀ stage ∈ ["connect", "send"], '\x00' ∉ stage.toList := by decide
          exact hnone stage (clientEnd_stage hend)
        refine ⟨_, hends.2, ⟨trivial, rfl, rfl⟩, by simp [HelperEvent.kind], ?_⟩
        rw [HelperEvent.stage, cText_str hzero]
        rfl
    | completed count =>
        rw [hend] at hends
        exact ⟨_, hends.2, ⟨trivial, rfl, rfl⟩, by simp [HelperEvent.kind], rfl⟩
  have hclient := ofClient_clientEvents stack opts
  have hfront : ∀ event ∈ clientEvents stack opts, event.Plain ∧ event.kind ≠ "error" ∧
      event.stage = none ∧ event.delivery = none := by
    intro event hevent
    have hof := hclient event hevent
    cases event with
    | addrs name list => exact ⟨hof, by simp [HelperEvent.kind], rfl, rfl⟩
    | sent payload stream ppid => exact ⟨trivial, by simp [HelperEvent.kind], rfl, rfl⟩
    | _ => exact hof.elim
  rw [hevents]
  refine ⟨?_, ?_, ?_, ?_, ?_⟩
  · exact List.forall_mem_append.mpr ⟨fun event h => (hfront event h).1, by simpa using hplain.1⟩
  · rw [List.forall_mem_append, List.forall_mem_singleton, ← herror]
    exact ⟨fun h => h.2, fun h => ⟨fun event hevent => (hfront event hevent).2.1, h⟩⟩
  · rw [List.findSome?_append, List.findSome?_eq_none_iff.mpr fun event h => (hfront event h).2.2.1,
      Option.none_or, ← hstage]
    cases hlast : last.stage <;> simp [hlast]
  · have hnone : ∀ event ∈ clientEvents stack opts ++ [last], event.delivery = none :=
      List.forall_mem_append.mpr ⟨fun event h => (hfront event h).2.2.2, by simpa using hplain.2.1⟩
    exact List.filterMap_eq_nil_iff.mpr hnone
  · rw [List.findSome?_append, listed_clientEvents]
    simp [hplain.2.2]

end Processes

end SctpConformance.FreebsdHelper
