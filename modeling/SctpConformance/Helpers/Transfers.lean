import SctpConformance.Helpers.Descriptors

/-!
# What the client hands over

Which messages a client gives to `sctp_sendv`, in which order, and what it reports of them.

Main results:

- Theorem `hands_runClient`: the connection and the messages that a client hands to the stack.
- Theorem `client_hands_over`: each message is handed over once and in its order, up to the first
  one that is refused, and exactly those before it are reported.
-/

namespace SctpConformance.FreebsdHelper

open Library

/-! ## Transfers -/

/-- Something is handed to the stack for the peer. -/
inductive Transfer where
  | connect (fd : Nat) (addrs : List (Option SockaddrIn))
  | send (fd : Nat) (message : MessageSpec) (assocId : UInt32)
deriving DecidableEq

/-- What an action asks the stack to transfer. -/
def Action.transfer : Action → Option Transfer
  | .connectx fd addrs => some (.connect fd addrs)
  | .sendv fd message assocId => some (.send fd message assocId)
  | _ => none

/-- What a process has asked the stack to transfer. -/
def Process.transfers (process : Process) : List Transfer :=
  process.actions.filterMap Action.transfer

/-- What a process has handed over. -/
def Ran.transfers (ran : Ran) : List Transfer :=
  ran.actions.filterMap Action.transfer

/-- The function ends like this and hands over this. -/
abbrev Hands {α : Type} (x : Program α) (outcome : Except Stop α) (transfers : List Transfer) :
    Prop :=
  x.Logs Process.transfers outcome transfers

/-- A function that hands nothing over. -/
abbrev Keeps {α : Type} (x : Program α) : Prop :=
  Within (fun action => action.transfer = none) x

section Hands

variable {α : Type} (stack : Stack)

/-- A part that keeps to itself transfers nothing. -/
theorem hands_of_keeps {x : Program α} {outcome : Except Stop α} {events : List HelperEvent}
    (h : Keeps x) (hdoes : Does x outcome events) : Hands x outcome [] :=
  Raising.Logs.of_only hdoes h

/-- A noted action transfers what it asks for. -/
theorem hands_note (action : Action) (answer : Except Errno α) :
    Hands (note action answer) (.ok ()) action.transfer.toList := by
  refine Raising.Logs.modify fun process => ?_
  unfold Process.transfers
  rw [List.filterMap_append]
  cases htransfer : action.transfer <;> simp [htransfer]

/-- An event transfers nothing. -/
theorem hands_print (event : HelperEvent) : Hands (print event) (.ok ()) [] :=
  hands_of_keeps (within_print (fun _ => rfl) event) (does_print event)

/-- Nor does closing. -/
theorem hands_close (fd : Nat) : Hands (close stack fd) (.ok ()) [] :=
  hands_of_keeps (within_close stack rfl) (does_close stack fd)

/-- Nor does closing on the way out. -/
theorem hands_orClose {fd : Nat} {x : Program α} {outcome : Except Stop α}
    {transfers : List Transfer} (h : Hands x outcome transfers) :
    Hands (orClose stack fd x) outcome transfers :=
  logs_orClose stack (hands_close stack fd) h

end Hands

/-! ## The client -/

variable (stack : Stack) (strerror : Errno → CppString)

/-- The messages up to the first one that cannot be sent, which is handed over too. -/
def attempted : List MessageSpec → Nat → List MessageSpec
  | [], _ => []
  | message :: messages, i => message ::
      match stack.sendv i message with
      | .ok _ => attempted messages (i + 1)
      | .error _ => []

/-- Nor does the report of an expected failure. -/
theorem hands_reportExpected (stage : String) :
    Hands (reportExpected strerror stage) (.ok ()) [] := by
  intro process
  refine ⟨rfl, ?_⟩
  have hnone : ([Action.print (.expectedFailure (str stage) (strerror process.errno))]).filterMap
      Action.transfer = [] := List.filterMap_cons_none rfl
  exact (List.filterMap_append).trans (congrArg (_ ++ ·) hnone)

/-- The loop hands over one message after the other. -/
theorem hands_sendMessages (opts : Options) (fd : Nat) (assocId : UInt32)
    (messages : List MessageSpec) (i : Nat) :
    Hands (sendMessages stack strerror opts fd assocId messages i)
      (sendOutcome opts (sendError stack messages i))
      ((attempted stack messages i).map fun message => .send fd message assocId) := by
  induction messages generalizing i with
  | nil => exact Raising.Logs.pure _
  | cons message messages ih =>
      unfold sendMessages attempted sendError
      rw [call_bind]
      have hnote := hands_note (.sendv fd message assocId) (stack.sendv i message)
      cases hsend : stack.sendv i message with
      | ok value =>
          rw [hsend] at hnote
          exact hnote.bind ((hands_print _).after (ih (i + 1)))
      | error errno =>
          rw [hsend] at hnote
          refine hnote.before ?_
          dsimp only [sendOutcome]
          cases hexpects : opts.expects ["send", "connect_or_send"] with
          | true =>
              simp only [if_true]
              exact (hands_reportExpected strerror "send").after (Raising.Logs.pure _)
          | false =>
              simp only [Bool.false_eq_true, if_false]
              exact Raising.Logs.throw _

/-- A client with its connection transfers the messages up to the first that is refused. -/
theorem hands_sendAndFinish (opts : Options) (fd : Nat) (assocId : UInt32)
    (messages : List MessageSpec) :
    Hands (sendAndFinish stack strerror opts fd assocId messages)
      (sendingEnd stack opts messages).outcome
      ((attempted stack messages 0).map fun message => .send fd message assocId) := by
  have hsend := hands_sendMessages stack strerror opts fd assocId messages 0
  unfold sendAndFinish sendingEnd
  cases herror : sendError stack messages 0 with
  | some errno =>
      rw [herror] at hsend
      cases hexpects : opts.expects ["send", "connect_or_send"] with
      | true =>
          simp only [sendOutcome, failedAt, hexpects, if_true] at hsend ⊢
          exact hsend.before (Raising.Logs.pure _)
      | false =>
          simp only [sendOutcome, failedAt, hexpects, Bool.false_eq_true, if_false] at hsend ⊢
          exact hsend.bind_error
  | none =>
      rw [herror] at hsend
      refine hsend.before ?_
      cases hexpects : opts.expects ["send", "connect_or_send"] with
      | true =>
          have hfatal : Hands (setFatalError (str "send succeeded unexpectedly")) (.ok ()) [] :=
            hands_of_keeps (within_setFatalError _) (does_setFatalError _)
          exact hfatal.after (Raising.Logs.throw _)
      | false => exact hands_print _

/-- The messages of a connected client that are handed over. -/
def handedMessages (opts : Options) : List MessageSpec :=
  if opts.expects ["connect"] then []
  else
    match givenMessages opts.messages with
    | none => []
    | some messages => attempted stack messages 0

/-- The report of the addresses transfers nothing. -/
theorem hands_printAddrsOf (condition : Prop) [Decidable condition] (event : String)
    (action : Action) (haction : action.event = none) (hkept : action.transfer = none)
    (answer : Except Errno (List Sockaddr)) :
    Hands (onlyIf condition (printAddrsOf event (loadAddrs action answer))) (.ok ()) [] :=
  hands_of_keeps
    (within_onlyIf (within_printAddrsOf (fun _ => rfl) event (within_loadAddrs hkept answer)))
    (does_onlyIf (does_printAddrsOf event (silent_loadAddrs haction answer)))

/-- Nothing else is transferred over the connection. -/
theorem hands_runConnected (opts : Options) (fd : Nat) (assocId : UInt32) :
    Hands (runConnected stack strerror opts fd assocId) (connectedEnd stack opts).outcome
      ((handedMessages stack opts).map fun message => .send fd message assocId) := by
  unfold runConnected connectedEnd handedMessages
  by_cases hconnect : opts.expects ["connect"] = true
  · rw [if_pos hconnect, if_pos hconnect, if_pos hconnect]
    have hfatal : Hands (setFatalError (str "connect succeeded unexpectedly")) (.ok ()) [] :=
      hands_of_keeps (within_setFatalError _) (does_setFatalError _)
    exact hfatal.after (Raising.Logs.throw _)
  · rw [if_neg hconnect, if_neg hconnect, if_neg hconnect]
    have hlocal := hands_printAddrsOf opts.emitLocalAddrs "local_addrs" (.getladdrs fd assocId)
      rfl rfl stack.getladdrs
    have hpeer := hands_printAddrsOf opts.emitPeerAddrs "peer_addrs" (.getpaddrs fd assocId)
      rfl rfl stack.getpaddrs
    have hgiven : Hands (orFail (givenMessages opts.messages))
        (ofOption (givenMessages opts.messages)) [] :=
      hands_of_keeps (within_orFail _) (silent_orFail _)
    refine hlocal.after (hpeer.after ?_)
    cases hmessages : givenMessages opts.messages with
    | none =>
        rw [hmessages] at hgiven
        exact hgiven.bind_error
    | some messages =>
        rw [hmessages] at hgiven
        exact hgiven.after (hands_sendAndFinish stack strerror opts fd assocId messages)

/-- What is handed over behind the addresses, given the answer to `sctp_connectx`. -/
def afterConnect (opts : Options) (fd : Nat) : Except Errno UInt32 → List Transfer
  | .error _ => []
  | .ok assocId => (handedMessages stack opts).map fun message => .send fd message assocId

/-- The connection comes first. -/
theorem hands_connectAndRun (opts : Options) (fd : Nat) (addrs : List (Option SockaddrIn)) :
    Hands (connectAndRun stack strerror opts fd addrs)
      (connectEnd stack opts (stack.connectx addrs)).outcome
      (.connect fd addrs :: afterConnect stack opts fd (stack.connectx addrs)) := by
  unfold connectAndRun
  rw [call_bind]
  have hnote := hands_note (.connectx fd addrs) (stack.connectx addrs)
  refine hnote.bind ?_
  cases stack.connectx addrs with
  | ok assocId => exact hands_runConnected stack strerror opts fd assocId
  | error errno =>
      dsimp only [connectEnd, failedAt]
      cases hexpects : opts.expects ["connect", "connect_or_send"] with
      | true =>
          simp only [if_true]
          exact hands_reportExpected strerror "connect"
      | false =>
          simp only [Bool.false_eq_true, if_false]
          exact Raising.Logs.throw _

/-- What a client hands over. -/
def clientTransfers (opts : Options) : List Transfer :=
  match connecting stack opts with
  | none => []
  | some started => .connect started.1 started.2 ::
      afterConnect stack opts started.1 (stack.connectx started.2)

/-- A client transfers nothing before it has its socket. -/
theorem keeps_startClient (opts : Options) : Keeps (startClient stack opts) := by
  have hoptions (fd : Nat) : Keeps (orClose stack fd (applyCommonSocketOptions stack fd opts)) :=
    within_orClose stack (by exact rfl) (within_options stack (by exact fun _ => rfl) opts)
  have hsocket : Keeps (need .socket stack.socket) := within_need (by exact rfl) _
  exact (within_orFail _).bind fun raw => (within_orFail _).bind fun given =>
    hsocket.bind fun fd => (hoptions fd).bind fun _ => Raising.Only.pure _

/-- What a client transfers. -/
theorem hands_runClient (opts : Options) :
    Hands (runClient stack strerror opts) (clientEnd stack opts).outcome
      (clientTransfers stack opts) := by
  have hstart := hands_of_keeps (keeps_startClient stack opts) (silent_startClient stack opts)
  unfold clientEnd clientTransfers
  cases hconnecting : connecting stack opts with
  | none =>
      rw [hconnecting] at hstart
      exact hstart.bind_error
  | some started =>
      rw [hconnecting] at hstart
      have hrun : Hands (orClose stack started.1 _) _ _ :=
        hands_orClose stack (hands_connectAndRun stack strerror opts started.1 started.2)
      refine hstart.after ?_
      dsimp only
      cases hend : (connectEnd stack opts (stack.connectx started.2)).outcome with
      | ok value =>
          rw [hend] at hrun
          exact hrun.before (hands_close stack started.1)
      | error stop =>
          rw [hend] at hrun
          exact hrun.bind_error

/-- The end of the process transfers nothing. -/
theorem transfers_finish (outcome : Except Stop Unit) (process : Process) :
    (finish strerror (outcome, process)).transfers = process.transfers := by
  unfold Ran.transfers
  rcases outcome with (_ | _) | _
  · exact (List.filterMap_append).trans (List.append_nil _)
  · rfl
  · rfl

/-- What a client process transfers. -/
theorem main_transfers {args : List CppString} {opts : Options}
    (hargs : parseOptions args = some opts) (hmode : opts.mode = str "client") :
    (main stack strerror args).transfers = clientTransfers stack opts := by
  rw [main_eq_client stack strerror hargs hmode]
  obtain ⟨-, htransfers⟩ := hands_runClient stack strerror opts {}
  exact (transfers_finish strerror _ _).trans htransfers

/-! ## Messages that are accepted -/

/-- The accepted messages are an initial part of all. -/
theorem accepted_initial (messages : List MessageSpec) (i : Nat) :
    accepted stack messages i <+: messages := by
  induction messages generalizing i with
  | nil => exact List.nil_prefix
  | cons message messages ih =>
      unfold accepted
      cases stack.sendv i message with
      | ok value => exact List.prefix_cons_inj message |>.mpr (ih (i + 1))
      | error errno => exact List.nil_prefix

/-- One more is attempted than accepted, if there is one. -/
theorem attempted_eq_take (messages : List MessageSpec) (i : Nat) :
    attempted stack messages i = messages.take ((accepted stack messages i).length + 1) := by
  induction messages generalizing i with
  | nil => rfl
  | cons message messages ih =>
      unfold attempted accepted
      cases stack.sendv i message with
      | ok value =>
          dsimp only
          rw [ih (i + 1), List.length_cons, List.take_succ_cons]
      | error errno => rfl

/-- Up to the first message that is refused, the accepted ones are those before it. -/
theorem isOk_iff_lt_accepted {messages : List MessageSpec} {message : MessageSpec} {i k : Nat}
    (hmessage : messages[k]? = some message) (hk : k ≤ (accepted stack messages i).length) :
    (stack.sendv (i + k) message).isOk = true ↔ k < (accepted stack messages i).length := by
  induction messages generalizing i k with
  | nil => cases hmessage
  | cons head messages ih =>
      unfold accepted at hk ⊢
      cases hsend : stack.sendv i head with
      | error errno =>
          rw [hsend] at hk
          obtain rfl : k = 0 := Nat.le_zero.mp hk
          obtain rfl : head = message := Option.some.inj hmessage
          rw [Nat.add_zero, hsend]
          exact iff_of_false (by simp [Except.isOk, Except.toBool]) (Nat.lt_irrefl 0)
      | ok value =>
          rw [hsend] at hk
          cases k with
          | zero =>
              obtain rfl : head = message := Option.some.inj hmessage
              rw [Nat.add_zero, hsend]
              exact iff_of_true rfl (Nat.succ_pos _)
          | succ k =>
              have htail : messages[k]? = some message := by simpa using hmessage
              have h := ih htail (Nat.le_of_succ_le_succ hk)
              rw [Nat.add_right_comm, Nat.add_assoc] at h
              exact h.trans Nat.succ_lt_succ_iff.symm

/-- No message is refused exactly if all are accepted. -/
theorem sendError_eq_none_iff (messages : List MessageSpec) (i : Nat) :
    sendError stack messages i = none ↔
      (accepted stack messages i).length = messages.length := by
  induction messages generalizing i with
  | nil => exact iff_of_true rfl rfl
  | cons message messages ih =>
      unfold sendError accepted
      cases stack.sendv i message with
      | ok value => exact (ih (i + 1)).trans Nat.succ_inj.symm
      | error errno => exact iff_of_false (by simp) (by simp)

/-- A client ends without an error if all messages are sent, unless one was to be refused. -/
theorem sendingEnd_outcome (opts : Options) (messages : List MessageSpec) :
    (sendingEnd stack opts messages).outcome = .ok () ↔
      ((accepted stack messages 0).length = messages.length ↔
        opts.expects ["send", "connect_or_send"] = false) := by
  rw [← sendError_eq_none_iff]
  unfold sendingEnd failedAt
  cases sendError stack messages 0 <;> cases opts.expects ["send", "connect_or_send"] <;>
    simp [ClientEnd.outcome]

/-! ## What is reported -/

/-- The event reports a message that was sent. -/
def HelperEvent.isSent : HelperEvent → Bool
  | .sent .. => true
  | _ => false

/-- The addresses are no sent messages. -/
theorem isSent_clientAddrs (opts : Options) :
    (clientAddrs stack opts).filter HelperEvent.isSent = [] := by
  have hone (condition : Prop) [Decidable condition] (name : String)
      (addrs : Option (List CppString)) :
      (if condition then (addrs.map fun addrs => HelperEvent.addrs (str name) addrs).toList
        else []).filter HelperEvent.isSent = [] := by
    split
    · cases addrs <;> rfl
    · rfl
  unfold clientAddrs
  rw [List.filter_append, hone, hone]
  rfl

/-- The events of sent messages are. -/
theorem isSent_sentEvents (messages : List MessageSpec) :
    (messages.map sentEvent).filter HelperEvent.isSent = messages.map sentEvent := by
  refine List.filter_eq_self.mpr fun event hevent => ?_
  obtain ⟨message, -, rfl⟩ := List.mem_map.mp hevent
  rfl

/-- The end of a client is no sent message. -/
theorem isSent_end (stop : ClientEnd) :
    (stop.events strerror).filter HelperEvent.isSent = [] := by
  cases stop <;> rfl

/-- What a process has printed, but for its error. -/
theorem Ran.Ends.filter_isSent {ran : Ran} {events : List HelperEvent}
    {outcome : Except Stop Unit} (h : ran.Ends events outcome) :
    ran.events.filter HelperEvent.isSent = events.filter HelperEvent.isSent := by
  rcases outcome with (_ | _) | _
  · obtain ⟨-, message, hevents⟩ := h
    rw [hevents, List.filter_append]
    exact List.append_nil _
  · rw [h.2]
  · rw [h.2]

/-- The exit code is zero exactly if the program has come to its end. -/
theorem Ran.Ends.exitCode_iff {ran : Ran} {events : List HelperEvent}
    {outcome : Except Stop Unit} (h : ran.Ends events outcome) :
    ran.exitCode = some 0 ↔ outcome = .ok () := by
  rcases outcome with (_ | _) | _
  · exact iff_of_false (by simp [h.1]) (by simp)
  · exact iff_of_false (by rw [show ran.exitCode = none from h.1]; simp) (by simp)
  · exact iff_of_true h.1 rfl

/-- A connected client hands its messages over one by one, in their order and on the association
that it was given, up to the first one that is refused.  It reports exactly the messages before
that one.  It exits without an error if all are accepted, and if a failure was expected it does
so if one is refused. -/
theorem client_hands_over {args : List CppString} {opts : Options}
    (hargs : parseOptions args = some opts) (hmode : opts.mode = str "client")
    {started : Nat × List (Option SockaddrIn)} (hconnecting : connecting stack opts = some started)
    {assocId : UInt32} (hconnect : stack.connectx started.2 = .ok assocId)
    (hexpects : opts.expects ["connect"] = false) {messages : List MessageSpec}
    (hgiven : givenMessages opts.messages = some messages) :
    let ran := main stack strerror args
    ∃ count ≤ messages.length,
      (∀ i message, messages[i]? = some message → i ≤ count →
        ((stack.sendv i message).isOk = true ↔ i < count)) ∧
      ran.transfers = .connect started.1 started.2 ::
        (messages.take (count + 1)).map (fun message => .send started.1 message assocId) ∧
      ran.events.filter HelperEvent.isSent = (messages.take count).map sentEvent ∧
      (ran.exitCode = some 0 ↔
        (count = messages.length ↔ opts.expects ["send", "connect_or_send"] = false)) := by
  intro ran
  have hends : ran.Ends _ _ := main_client stack strerror hargs hmode
  have hconnected : ¬opts.expects ["connect"] = true := by simp [hexpects]
  have hend : clientEnd stack opts = sendingEnd stack opts messages := by
    simp only [clientEnd, hconnecting, connectEnd, hconnect, connectedEnd, if_neg hconnected,
      hgiven]
  have hevents : clientEvents stack opts =
      clientAddrs stack opts ++ (accepted stack messages 0).map sentEvent := by
    simp only [clientEvents, hconnecting, connectEvents, hconnect, connectedEvents,
      if_neg hconnected, hgiven]
  have htransfers : ran.transfers = _ := main_transfers stack strerror hargs hmode
  have hinitial := accepted_initial stack messages 0
  refine ⟨(accepted stack messages 0).length, hinitial.length_le, ?_, ?_, ?_, ?_⟩
  · intro i message hmessage hi
    have h := isOk_iff_lt_accepted stack (i := 0) hmessage hi
    rwa [Nat.zero_add] at h
  · rw [htransfers, ← attempted_eq_take]
    simp only [clientTransfers, hconnecting, hconnect, afterConnect, handedMessages,
      if_neg hconnected, hgiven]
  · rw [hends.filter_isSent, List.filter_append, isSent_end, List.append_nil, hevents,
      List.filter_append, isSent_clientAddrs, List.nil_append, isSent_sentEvents,
      ← List.prefix_iff_eq_take.mp hinitial]
  · rw [hends.exitCode_iff, hend]
    exact sendingEnd_outcome stack opts messages

/-- A stack that has no room for the second message (`ENOBUFS`). -/
def refusingStack : Stack :=
  { sampleStack [] with sendv := fun i _ => if i = 1 then .error 55 else .ok () }

/-- The third message is not handed over, and only the first one is reported. -/
theorem client_hands_over_refused :
    let ran := main refusingStack (fun _ => str "error")
      [str "client", str "--connect-addrs", str "127.0.0.1:5001", str "--messages",
        str "a:0:1,b:0:1,c:0:1"]
    ran.transfers = [.connect 3 [some { address := [127, 0, 0, 1], port := 5001 }],
        .send 3 ⟨str "a", 0, 1⟩ 7, .send 3 ⟨str "b", 0, 1⟩ 7] ∧
      ran.events.filter HelperEvent.isSent = [.sent (str "a") 0 1] ∧ ran.exitCode ≠ some 0 := by
  obtain ⟨count, hcount, haccepted, htransfers, hevents, hexit⟩ :=
    @client_hands_over refusingStack (fun _ => str "error")
      [str "client", str "--connect-addrs", str "127.0.0.1:5001", str "--messages",
        str "a:0:1,b:0:1,c:0:1"]
      { mode := str "client", connectAddrs := some (str "127.0.0.1:5001"),
        messages := some (str "a:0:1,b:0:1,c:0:1") }
      (by decide) rfl (3, [some { address := [127, 0, 0, 1], port := 5001 }]) (by decide) 7 rfl rfl
      [⟨str "a", 0, 1⟩, ⟨str "b", 0, 1⟩, ⟨str "c", 0, 1⟩] (by decide)
  obtain rfl : count = 1 := by
    have hfirst := haccepted 0 _ rfl (Nat.zero_le _)
    have hone : 0 < count := hfirst.mp rfl
    by_contra hne
    have hsecond := haccepted 1 _ rfl hone
    have hrefused : ¬1 < count := fun h => Bool.false_ne_true (hsecond.mpr h)
    omega
  exact ⟨htransfers, hevents, fun h => absurd (hexit.mp h) (by decide)⟩

end SctpConformance.FreebsdHelper
