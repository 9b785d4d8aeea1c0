import SctpConformance.Helpers.Programs
import SctpConformance.Library.Logging

/-!
# What the C helper reports

Which events a process prints, and how it ends, for all answers of the SCTP stack.

Main results:

- Theorems `main_server` and `main_client`: the events and the exit code of a process.
- Theorem `server_reports`: the server reports all that is delivered, in its order, up to the
  number of messages that it was asked for.
-/

namespace SctpConformance.FreebsdHelper

open Library

/-! ## Functions that print nothing -/

/-- The events that the process has printed. -/
def Process.events (process : Process) : List HelperEvent :=
  process.actions.filterMap Action.event

/-- From every state the function ends like this and prints these events. -/
abbrev Does {α : Type} (x : Program α) (outcome : Except Stop α) (events : List HelperEvent) :
    Prop :=
  x.Logs Process.events outcome events

/-- A function that may fail. -/
def ofOption {α : Type} : Option α → Except Stop α
  | some value => .ok value
  | none => .error .failed

/-- The function prints nothing, and fails if there is no value. -/
abbrev Silent {α : Type} (x : Program α) (value : Option α) : Prop :=
  Does x (ofOption value) []

section Silence

variable {α β : Type}

/-- A value prints nothing. -/
theorem Silent.pure (a : α) : Silent (pure a) (some a) :=
  Raising.Logs.pure a

/-- Nor do two silent parts, one after the other. -/
theorem Silent.bind {x : Program α} {f : α → Program β} {value : Option α} {g : α → Option β}
    (hx : Silent x value) (hf : ∀ a, Silent (f a) (g a)) : Silent (x >>= f) (value.bind g) := by
  cases value with
  | none => exact Raising.Logs.bind_error hx
  | some a => exact Raising.Logs.bind hx (hf a)

/-- Nothing is printed by an action that is no event. -/
theorem does_note (action : Action) (haction : action.event = none) (answer : Except Errno α) :
    Does (note action answer) (.ok ()) [] := by
  refine Raising.Logs.modify fun process => ?_
  simp [Process.events, haction]

/-- A call goes on with its answer. -/
theorem call_bind (action : Action) (answer : Except Errno α)
    (f : Except Errno α → Program β) :
    call action answer >>= f = note action answer >>= fun _ => f answer := by
  simp [call]

/-- A call prints nothing. -/
theorem silent_call {action : Action} (haction : action.event = none) (answer : Except Errno α) :
    Silent (call action answer) (some answer) :=
  Raising.Logs.bind (does_note action haction answer) (Raising.Logs.pure answer)

/-- Nor does a call that must succeed. -/
theorem silent_need {action : Action} (haction : action.event = none) (answer : Except Errno α) :
    Silent (need action answer) answer.toOption := by
  unfold need
  rw [call_bind]
  have hnote := does_note action haction answer
  cases answer with
  | ok value => exact Raising.Logs.bind hnote (Raising.Logs.pure value)
  | error errno => exact Raising.Logs.bind hnote (Raising.Logs.throw _)

/-- Nor does a missing value. -/
theorem silent_orFail (value : Option α) : Silent (orFail value) value := by
  cases value with
  | some value => exact Raising.Logs.pure value
  | none => exact Raising.Logs.throw _

/-- An event is printed once. -/
theorem does_print (event : HelperEvent) : Does (print event) (.ok ()) [event] := by
  refine Raising.Logs.modify fun process => ?_
  simp [Process.events, Action.event]

/-- The text of an error is not printed yet. -/
theorem does_setFatalError (message : CppString) : Does (setFatalError message) (.ok ()) [] :=
  Raising.Logs.modify fun _ => (List.append_nil _).symm

variable (stack : Stack)

/-- Closing prints nothing. -/
theorem does_close (fd : Nat) : Does (close stack fd) (.ok ()) [] :=
  Raising.Logs.bind (silent_call rfl stack.close) (Raising.Logs.pure ())

/-- Closing the descriptor after a failure does not show in a log that leaves it out. -/
theorem logs_orClose {ω : Type} {log : Process → List ω} {fd : Nat} {x : Program α}
    {outcome : Except Stop α} {output : List ω}
    (hclose : Raising.Logs log (close stack fd) (.ok ()) [])
    (h : Raising.Logs log x outcome output) :
    Raising.Logs log (orClose stack fd x) outcome output := by
  rw [← List.append_nil output]
  cases outcome with
  | ok value =>
      rw [List.append_nil]
      exact Raising.Logs.catch_ok h
  | error stop =>
      refine Raising.Logs.catch_error h ?_
      cases stop with
      | failed => exact hclose.after (Raising.Logs.throw _)
      | waiting => exact Raising.Logs.throw _

/-- Nor does closing on the way out. -/
theorem does_orClose {fd : Nat} {x : Program α} {outcome : Except Stop α}
    {events : List HelperEvent} (h : Does x outcome events) :
    Does (orClose stack fd x) outcome events :=
  logs_orClose stack (does_close stack fd) h

/-- A silent part under a condition. -/
theorem silent_onlyIf {condition : Prop} [Decidable condition] {x : Program Unit}
    {value : Option Unit} (h : Silent x value) :
    Silent (onlyIf condition x) (if condition then value else some ()) := by
  unfold onlyIf
  split
  · exact h
  · exact Silent.pure ()

end Silence

/-! ## Setting up -/

variable (stack : Stack)

/-- The subscriptions are known, and the stack accepts them. -/
def eventsAccepted : Option CppString → Option Unit
  | none | some [] => some ()
  | some raw => (subscribeAll (splitCsv (strlcpy 256 raw)) {}).bind fun subscribe =>
      (stack.setsockopt (.events subscribe)).toOption

/-- The options can be set. -/
def optionsAccepted (opts : Options) : Option Unit := do
  (if opts.setNodelay then (stack.setsockopt .nodelay).toOption else some ())
  (if opts.initmsg.IsSet then (stack.setsockopt (.initmsg opts.initmsg)).toOption else some ())
  eventsAccepted stack opts.subscribe
  (stack.setsockopt .recvRcvinfo).toOption

/-- The socket options print nothing. -/
theorem silent_options (fd : Nat) (opts : Options) :
    Silent (applyCommonSocketOptions stack fd opts) (optionsAccepted stack opts) := by
  have hset (option : SocketOption) :
      Silent (need (.setsockopt fd option) (stack.setsockopt option))
        (stack.setsockopt option).toOption :=
    silent_need rfl _
  have hevents (raw : Option CppString) :
      Silent (subscribeEvents stack fd raw) (eventsAccepted stack raw) := by
    rcases raw with _ | _ | ⟨ch, raw⟩
    · exact Silent.pure ()
    · exact Silent.pure ()
    · exact (silent_orFail _).bind fun subscribe => hset _
  exact (silent_onlyIf (hset _)).bind fun _ => (silent_onlyIf (hset _)).bind fun _ =>
    (hevents _).bind fun _ => hset _

/-- The addresses in an answer, if there are some and all can be formatted. -/
def loaded : Except Errno (List Sockaddr) → Option (List CppString)
  | .error _ | .ok [] => none
  | .ok addrs => readAll formatSockaddr (addrs.take maxAddrs)

/-- Loading the addresses prints nothing. -/
theorem silent_loadAddrs {action : Action} (haction : action.event = none)
    (answer : Except Errno (List Sockaddr)) :
    Silent (loadAddrs action answer) (some (loaded answer)) := by
  unfold loadAddrs
  rw [call_bind]
  refine Raising.Logs.bind (does_note action haction answer) ?_
  rcases answer with errno | _ | ⟨addr, addrs⟩ <;> exact Raising.Logs.pure _

/-- The addresses of the `ready` event. -/
def shownAddrs (bindCount : Nat) (bindAddrs : Addrs) : Option (List CppString) :=
  match loaded stack.getladdrs with
  | some localAddrs => some localAddrs
  | none => (stack.getsockname 1).toOption.bind fun actual =>
      formatBound bindCount bindAddrs actual.port

/-- The socket can be bound and listens. -/
def boundAddrs (bindCount : Nat) (bindAddrs : Addrs) : Option (List CppString) := do
  (stack.bind (bindAddrs 0)).toOption
  (if 1 < bindCount then
    (stack.getsockname 0).toOption.bind fun actual =>
      (stack.bindx (((bindAddrs.first bindCount).drop 1).map (withPort actual.port))).toOption
  else some ())
  stack.listen.toOption
  shownAddrs stack bindCount bindAddrs

/-- The setup of a server prints nothing. -/
theorem silent_bindAndListen (fd bindCount : Nat) (bindAddrs : Addrs) :
    Silent (bindAndListen stack fd bindCount bindAddrs) (boundAddrs stack bindCount bindAddrs) := by
  have hothers : Silent (bindOthers stack fd bindCount bindAddrs) _ :=
    (silent_need rfl (stack.getsockname 0)).bind fun actual => silent_need rfl _
  have hready : Silent (readyAddrs stack fd bindCount bindAddrs)
      (shownAddrs stack bindCount bindAddrs) := by
    have hload : Silent (loadLaddrs stack fd futureAssoc) (some (loaded stack.getladdrs)) :=
      silent_loadAddrs rfl stack.getladdrs
    refine Raising.Logs.bind hload ?_
    unfold shownAddrs
    cases loaded stack.getladdrs with
    | some localAddrs => exact Silent.pure localAddrs
    | none => exact (silent_need rfl _).bind fun actual => silent_orFail _
  exact (silent_need rfl _).bind fun _ => (silent_onlyIf hothers).bind fun _ =>
    (silent_need rfl _).bind fun _ => hready

/-- The server gets as far as its `ready` event: its descriptor, and the addresses. -/
def listening (opts : Options) : Option (Nat × List CppString) := do
  let raw ← opts.bindAddrs
  let given ← addressList raw
  let fd ← stack.socket.toOption
  optionsAccepted stack opts
  let localAddrs ← boundAddrs stack given.1 given.2
  return (fd, localAddrs)

/-- A server is silent until it listens. -/
theorem silent_startServer (opts : Options) :
    Silent (startServer stack opts) (listening stack opts) := by
  have hoptions (fd : Nat) : Silent (orClose stack fd (applyCommonSocketOptions stack fd opts))
      (optionsAccepted stack opts) :=
    does_orClose stack (silent_options stack fd opts)
  have hbind (fd bindCount : Nat) (bindAddrs : Addrs) :
      Silent (orClose stack fd (bindAndListen stack fd bindCount bindAddrs))
        (boundAddrs stack bindCount bindAddrs) :=
    does_orClose stack (silent_bindAndListen stack fd bindCount bindAddrs)
  exact (silent_orFail _).bind fun raw => (silent_orFail _).bind fun given =>
    (silent_need rfl _).bind fun fd => (hoptions fd).bind fun _ =>
      (hbind fd given.1 given.2).bind fun localAddrs => Silent.pure (fd, localAddrs)

/-- The client gets as far as `sctp_connectx`: its descriptor, and the addresses. -/
def connecting (opts : Options) : Option (Nat × List (Option SockaddrIn)) := do
  let raw ← opts.connectAddrs
  let given ← addressList raw
  let fd ← stack.socket.toOption
  optionsAccepted stack opts
  return (fd, given.2.first given.1)

/-- A client is silent until it has its socket. -/
theorem silent_startClient (opts : Options) :
    Silent (startClient stack opts) (connecting stack opts) := by
  have hoptions (fd : Nat) : Silent (orClose stack fd (applyCommonSocketOptions stack fd opts))
      (optionsAccepted stack opts) :=
    does_orClose stack (silent_options stack fd opts)
  exact (silent_orFail _).bind fun raw => (silent_orFail _).bind fun given =>
    (silent_need rfl _).bind fun fd => (hoptions fd).bind fun _ =>
      Silent.pure (fd, given.2.first given.1)

/-! ## The server -/

/-- What is delivered before a call of `sctp_recvv` fails. -/
def delivered : List (Except Errno Delivery) → List Delivery
  | .ok delivery :: answers => delivery :: delivered answers
  | _ => []

/-- A call of `sctp_recvv` fails. -/
def recvFails (answers : List (Except Errno Delivery)) : Bool :=
  answers.any fun answer => !answer.isOk

/-- The delivery is a message. -/
def Delivery.isMessage : Delivery → Bool
  | .message .. => true
  | .notification .. => false

/-- The deliveries up to this number of messages. -/
def upTo : Nat → List Delivery → List Delivery
  | 0, _ => []
  | _, [] => []
  | n + 1, delivery :: deliveries =>
      delivery :: upTo (if delivery.isMessage then n else n + 1) deliveries

/-- The number of messages among the deliveries. -/
def messageCount (deliveries : List Delivery) : Nat :=
  deliveries.countP Delivery.isMessage

/-- The events for a delivery.  Behind the first message stand the addresses of its sender. -/
def reportsOf (peerAddrs : Option (List CppString)) (recvCount : Nat) :
    Delivery → List HelperEvent
  | .notification type flags => [.notify type flags]
  | .message data stream ppid assocId => .recv data stream ppid assocId ::
      if recvCount = 0 then (peerAddrs.map fun addrs => .addrs (str "peer_addrs") addrs).toList
      else []

/-- The events for what is delivered, after this number of messages. -/
def reports (peerAddrs : Option (List CppString)) : Nat → List Delivery → List HelperEvent
  | _, [] => []
  | recvCount, delivery :: deliveries => reportsOf peerAddrs recvCount delivery ++
      reports peerAddrs (if delivery.isMessage then recvCount + 1 else recvCount) deliveries

/-- The addresses that the server prints behind the first message. -/
def shownPeerAddrs (opts : Options) : Option (List CppString) :=
  if opts.emitPeerAddrs then loaded stack.getpaddrs else none

/-- How the loop over the messages ends. -/
def receiveOutcome (wanted : Nat) (answers : List (Except Errno Delivery)) : Except Stop Unit :=
  if wanted ≤ messageCount (delivered answers) then .ok ()
  else if recvFails answers then .error .failed
  else .error .waiting

/-- The addresses are printed in one event. -/
theorem does_printAddrsOf (event : String) {load : Program (Option (List CppString))}
    {addrs : Option (List CppString)} (h : Silent load (some addrs)) :
    Does (printAddrsOf event load) (.ok ())
      (addrs.map fun addrs => HelperEvent.addrs (str event) addrs).toList := by
  refine Raising.Logs.bind h ?_
  cases addrs with
  | some addrs => exact does_print _
  | none => exact Raising.Logs.pure ()

/-- A message is printed in one event, after the addresses of the peer for the first one. -/
theorem does_reportMessage (opts : Options) (fd recvCount : Nat) (data : CppString)
    (stream : UInt16) (ppid assocId : UInt32) :
    Does (reportMessage stack opts fd (recvCount + 1) data stream ppid assocId) (.ok ())
      (reportsOf (shownPeerAddrs stack opts) recvCount (.message data stream ppid assocId)) := by
  have hload : Silent (loadPaddrs stack fd assocId) (some (loaded stack.getpaddrs)) :=
    silent_loadAddrs rfl stack.getpaddrs
  have hpeer := does_printAddrsOf "peer_addrs" hload
  have hprint := does_print (.recv data stream ppid assocId)
  have hnone : Does (pure () : Program Unit) (.ok ()) [] := Raising.Logs.pure ()
  unfold reportMessage onlyIf reportsOf shownPeerAddrs
  by_cases hfirst : recvCount = 0
  · by_cases hemit : opts.emitPeerAddrs = true
    · rw [if_pos ⟨hemit, by rw [hfirst]⟩, if_pos hfirst, if_pos hemit]
      exact Raising.Logs.bind hprint hpeer
    · rw [if_neg fun h => hemit h.1, if_pos hfirst, if_neg hemit]
      exact Raising.Logs.bind hprint hnone
  · rw [if_neg fun h => hfirst (by omega), if_neg hfirst]
    exact Raising.Logs.bind hprint hnone

/-- A delivery counts if it is a message. -/
theorem receiveOutcome_cons (wanted : Nat) (delivery : Delivery)
    (answers : List (Except Errno Delivery)) :
    receiveOutcome (wanted + 1) (.ok delivery :: answers) =
      receiveOutcome (if delivery.isMessage then wanted else wanted + 1) answers := by
  have hfails : recvFails (.ok delivery :: answers) = recvFails answers := by
    simp [recvFails, Except.isOk, Except.toBool]
  unfold receiveOutcome
  rw [hfails, delivered, messageCount, List.countP_cons, ← messageCount]
  cases hmessage : delivery.isMessage <;> simp

/-- The loop reports what is delivered, up to the number of messages that it waits for. -/
theorem does_receiveMessages (opts : Options) (fd : Nat) (answers : List (Except Errno Delivery))
    {recvCount : Nat} (hcount : recvCount ≤ opts.readMessages.toNat) :
    Does (receiveMessages stack opts fd answers recvCount)
      ((receiveOutcome (opts.readMessages.toNat - recvCount) answers).map
        fun _ => opts.readMessages.toNat)
      (reports (shownPeerAddrs stack opts) recvCount
        (upTo (opts.readMessages.toNat - recvCount) (delivered answers))) := by
  induction answers generalizing recvCount with
  | nil =>
      unfold receiveMessages receiveOutcome
      by_cases hmore : (recvCount : Int) < opts.readMessages
      · rw [if_pos hmore, if_neg (by simp [messageCount, delivered]; omega)]
        have hnone : upTo (opts.readMessages.toNat - recvCount) (delivered []) = [] := by
          cases opts.readMessages.toNat - recvCount <;> rfl
        rw [hnone]
        exact Raising.Logs.throw _
      · obtain rfl : recvCount = opts.readMessages.toNat := by omega
        rw [if_neg hmore, Nat.sub_self, if_pos (Nat.zero_le _)]
        exact Raising.Logs.pure _
  | cons answer answers ih =>
      unfold receiveMessages
      by_cases hmore : (recvCount : Int) < opts.readMessages
      · obtain ⟨wanted, hwanted⟩ : ∃ wanted, opts.readMessages.toNat - recvCount = wanted + 1 :=
          ⟨opts.readMessages.toNat - recvCount - 1, by omega⟩
        rw [if_pos hmore, hwanted]
        have hcall : Silent (need (.recvv fd) answer) answer.toOption := silent_need rfl answer
        cases answer with
        | error errno =>
            have hfails : receiveOutcome (wanted + 1) (.error errno :: answers) =
                .error .failed := by
              simp [receiveOutcome, delivered, messageCount, recvFails, Except.isOk, Except.toBool]
            rw [hfails]
            exact Raising.Logs.bind_error hcall
        | ok delivery =>
            rw [receiveOutcome_cons]
            cases delivery with
            | notification type flags =>
                have hrest := ih hcount
                rw [hwanted] at hrest
                exact Raising.Logs.after hcall
                  (Raising.Logs.bind (does_print (.notify type flags)) hrest)
            | message data stream ppid assocId =>
                have hnext : recvCount + 1 ≤ opts.readMessages.toNat := by omega
                have hrest := ih hnext
                rw [show opts.readMessages.toNat - (recvCount + 1) = wanted by omega] at hrest
                exact Raising.Logs.after hcall (Raising.Logs.bind
                  (does_reportMessage stack opts fd recvCount data stream ppid assocId) hrest)
      · obtain rfl : recvCount = opts.readMessages.toNat := by omega
        rw [if_neg hmore, Nat.sub_self, receiveOutcome, if_pos (Nat.zero_le _), upTo]
        exact Raising.Logs.pure _

/-- How the server ends. -/
def serverOutcome (opts : Options) : Except Stop Unit :=
  match listening stack opts with
  | none => .error .failed
  | some _ => receiveOutcome opts.readMessages.toNat stack.recvv

/-- The event that the server prints last, when it has all messages. -/
def completion (opts : Options) : List HelperEvent :=
  if opts.readMessages.toNat ≤ messageCount (delivered stack.recvv) then
    [.complete (Int32.ofNat opts.readMessages.toNat) .recvCount]
  else []

/-- The events of the server, but for an error at the end. -/
def serverEvents (opts : Options) : List HelperEvent :=
  match listening stack opts with
  | none => []
  | some started => .ready started.2 :: (reports (shownPeerAddrs stack opts) 0
      (upTo opts.readMessages.toNat (delivered stack.recvv)) ++ completion stack opts)

/-- From the `ready` event on the server reports what it receives, and that it has all. -/
theorem does_receiveAndFinish (opts : Options) (fd : Nat) :
    Does (do
        let recvCount ← orClose stack fd (receiveMessages stack opts fd stack.recvv 0)
        print (.complete (Int32.ofNat recvCount) .recvCount)
        close stack fd) (receiveOutcome opts.readMessages.toNat stack.recvv)
      (reports (shownPeerAddrs stack opts) 0
        (upTo opts.readMessages.toNat (delivered stack.recvv)) ++ completion stack opts) := by
  have hreceive : Does (orClose stack fd _) _ _ := does_orClose stack
    (does_receiveMessages stack opts fd stack.recvv (Nat.zero_le _))
  rw [Nat.sub_zero] at hreceive
  unfold completion
  unfold receiveOutcome at hreceive ⊢
  by_cases hall : opts.readMessages.toNat ≤ messageCount (delivered stack.recvv)
  · rw [if_pos hall] at hreceive
    rw [if_pos hall, if_pos hall]
    have hprint := does_print (.complete (Int32.ofNat opts.readMessages.toNat) .recvCount)
    have hclose := does_close stack fd
    rw [← List.append_nil [HelperEvent.complete _ _]]
    exact Raising.Logs.bind hreceive (Raising.Logs.bind hprint hclose)
  · rw [if_neg hall] at hreceive
    rw [if_neg hall, if_neg hall, List.append_nil]
    cases hfails : recvFails stack.recvv with
    | true =>
        rw [hfails] at hreceive
        exact Raising.Logs.bind_error hreceive
    | false =>
        rw [hfails] at hreceive
        exact Raising.Logs.bind_error hreceive

/-- What a server prints, and how it ends. -/
theorem does_runServer (opts : Options) :
    Does (runServer stack opts) (serverOutcome stack opts) (serverEvents stack opts) := by
  have hstart := silent_startServer stack opts
  unfold serverOutcome serverEvents
  cases hlistening : listening stack opts with
  | none =>
      rw [hlistening] at hstart
      exact Raising.Logs.bind_error hstart
  | some started =>
      rw [hlistening] at hstart
      exact Raising.Logs.after hstart (Raising.Logs.bind (does_print (.ready started.2))
        (does_receiveAndFinish stack opts started.1))

/-! ## The client -/

variable (strerror : Errno → CppString)

/-- The messages before the first one that cannot be sent. -/
def accepted : List MessageSpec → Nat → List MessageSpec
  | [], _ => []
  | message :: messages, i =>
      match stack.sendv i message with
      | .ok _ => message :: accepted messages (i + 1)
      | .error _ => []

/-- Why the first message that cannot be sent cannot be sent. -/
def sendError : List MessageSpec → Nat → Option Errno
  | [], _ => none
  | message :: messages, i =>
      match stack.sendv i message with
      | .ok _ => sendError messages (i + 1)
      | .error errno => some errno

/-- The event of a message that is sent. -/
def sentEvent (message : MessageSpec) : HelperEvent :=
  .sent message.payload (UInt16.ofNat message.stream) (UInt32.ofNat message.ppid)

/-- How the client ends. -/
inductive ClientEnd where
  | failed
  | expected (stage : String) (errno : Errno)
  | completed (count : Nat)
deriving DecidableEq

/-- How the program ends. -/
def ClientEnd.outcome : ClientEnd → Except Stop Unit
  | .failed => .error .failed
  | _ => .ok ()

/-- The event that the client prints last. -/
def ClientEnd.events : ClientEnd → List HelperEvent
  | .failed => []
  | .expected stage errno => [.expectedFailure (str stage) (strerror errno)]
  | .completed count => [.complete (Int32.ofNat count) .sentCount]

/-- A call failed at a stage at which that is expected, or not. -/
def failedAt (opts : Options) (stages : List String) (stage : String) (errno : Errno) : ClientEnd :=
  if opts.expects stages then .expected stage errno else .failed

/-- The end of a client that has these messages to send. -/
def sendingEnd (opts : Options) (messages : List MessageSpec) : ClientEnd :=
  match sendError stack messages 0 with
  | some errno => failedAt opts ["send", "connect_or_send"] "send" errno
  | none => if opts.expects ["send", "connect_or_send"] then .failed else .completed messages.length

/-- The end of a client that is connected. -/
def connectedEnd (opts : Options) : ClientEnd :=
  if opts.expects ["connect"] then .failed
  else
    match givenMessages opts.messages with
    | none => .failed
    | some messages => sendingEnd stack opts messages

/-- How the connection ends the client. -/
def connectEnd (opts : Options) : Except Errno UInt32 → ClientEnd
  | .error errno => failedAt opts ["connect", "connect_or_send"] "connect" errno
  | .ok _ => connectedEnd stack opts

/-- How a client ends on this stack. -/
def clientEnd (opts : Options) : ClientEnd :=
  match connecting stack opts with
  | none => .failed
  | some started => connectEnd stack opts (stack.connectx started.2)

/-- The addresses that the client prints. -/
def clientAddrs (opts : Options) : List HelperEvent :=
  (if opts.emitLocalAddrs then
    ((loaded stack.getladdrs).map fun addrs => .addrs (str "local_addrs") addrs).toList
  else []) ++
    if opts.emitPeerAddrs then
      ((loaded stack.getpaddrs).map fun addrs => .addrs (str "peer_addrs") addrs).toList
    else []

/-- What a connected client prints before its end. -/
def connectedEvents (opts : Options) : List HelperEvent :=
  if opts.expects ["connect"] then []
  else clientAddrs stack opts ++
    match givenMessages opts.messages with
    | none => []
    | some messages => (accepted stack messages 0).map sentEvent

/-- What is printed before the end, given the answer to `sctp_connectx`. -/
def connectEvents (opts : Options) : Except Errno UInt32 → List HelperEvent
  | .error _ => []
  | .ok _ => connectedEvents stack opts

/-- What the client prints before its end. -/
def clientEvents (opts : Options) : List HelperEvent :=
  match connecting stack opts with
  | none => []
  | some started => connectEvents stack opts (stack.connectx started.2)

/-- An expected failure is reported with the error of the call. -/
theorem does_reportExpected {α : Type} {action : Action} (haction : action.event = none)
    (errno : Errno) (stage : String) :
    Does (note action (.error errno : Except Errno α) >>= fun _ => reportExpected strerror stage)
      (.ok ()) [.expectedFailure (str stage) (strerror errno)] := by
  intro process
  have hevents (event : HelperEvent) :
      (process.actions ++ [action] ++ [Action.print event]).filterMap Action.event =
        process.events ++ [event] := by
    rw [List.filterMap_append, List.filterMap_append, List.filterMap_cons_none haction,
      List.filterMap_nil, List.append_nil]
    rfl
  exact ⟨rfl, hevents _⟩

/-- How the loop over the messages ends, with the error of a call or without. -/
def sendOutcome (opts : Options) : Option Errno → Except Stop Sending
  | none => .ok .done
  | some _ =>
      if opts.expects ["send", "connect_or_send"] then .ok .expectedFailure else .error .failed

/-- What is printed for the error of a call. -/
def sendFailure (opts : Options) : Option Errno → List HelperEvent
  | none => []
  | some errno => (failedAt opts ["send", "connect_or_send"] "send" errno).events strerror

/-- The loop reports the messages that are sent. -/
theorem does_sendMessages (opts : Options) (fd : Nat) (assocId : UInt32)
    (messages : List MessageSpec) (i : Nat) :
    Does (sendMessages stack strerror opts fd assocId messages i)
      (sendOutcome opts (sendError stack messages i))
      ((accepted stack messages i).map sentEvent ++
        sendFailure strerror opts (sendError stack messages i)) := by
  induction messages generalizing i with
  | nil => exact Raising.Logs.pure _
  | cons message messages ih =>
      unfold sendMessages accepted sendError
      rw [call_bind]
      have hnote := does_note (.sendv fd message assocId) rfl (stack.sendv i message)
      cases hsend : stack.sendv i message with
      | ok value =>
          rw [hsend] at hnote
          have hprint := does_print (sentEvent message)
          exact Raising.Logs.after hnote (hprint.bind (ih (i + 1)))
      | error errno =>
          rw [hsend] at hnote
          dsimp only [List.map_nil, List.nil_append, sendOutcome, sendFailure, failedAt]
          cases hexpects : opts.expects ["send", "connect_or_send"] with
          | true =>
              simp only [if_true]
              have hreport := does_reportExpected strerror (α := Unit)
                (show (Action.sendv fd message assocId).event = none from rfl) errno "send"
              rw [← bind_assoc]
              exact Raising.Logs.before hreport (Raising.Logs.pure _)
          | false =>
              simp only [Bool.false_eq_true, if_false]
              exact Raising.Logs.after hnote (Raising.Logs.throw _)

/-- What a client does that has these messages to send. -/
theorem does_sendAndFinish (opts : Options) (fd : Nat) (assocId : UInt32)
    (messages : List MessageSpec) :
    Does (sendAndFinish stack strerror opts fd assocId messages)
      (sendingEnd stack opts messages).outcome
      ((accepted stack messages 0).map sentEvent ++
        (sendingEnd stack opts messages).events strerror) := by
  have hsend := does_sendMessages stack strerror opts fd assocId messages 0
  unfold sendAndFinish sendingEnd
  cases herror : sendError stack messages 0 with
  | some errno =>
      rw [herror] at hsend
      cases hexpects : opts.expects ["send", "connect_or_send"] with
      | true =>
          simp only [sendOutcome, sendFailure, failedAt, hexpects, if_true] at hsend ⊢
          exact Raising.Logs.before hsend (Raising.Logs.pure _)
      | false =>
          simp only [sendOutcome, sendFailure, failedAt, hexpects, Bool.false_eq_true, if_false]
            at hsend ⊢
          exact Raising.Logs.bind_error hsend
  | none =>
      rw [herror] at hsend
      simp only [sendOutcome, sendFailure, List.append_nil] at hsend
      cases hexpects : opts.expects ["send", "connect_or_send"] with
      | true =>
          have hfatal := does_setFatalError (str "send succeeded unexpectedly")
          have hthrow : Does (throw Stop.failed : Program Unit) (.error .failed) [] :=
            Raising.Logs.throw _
          exact hsend.bind (hfatal.bind hthrow)
      | false => exact hsend.bind (does_print _)

/-- A part under a condition prints its events under it. -/
theorem does_onlyIf {condition : Prop} [Decidable condition] {x : Program Unit}
    {events : List HelperEvent} (h : Does x (.ok ()) events) :
    Does (onlyIf condition x) (.ok ()) (if condition then events else []) := by
  unfold onlyIf
  split
  · exact h
  · exact Raising.Logs.pure ()

/-- What a connected client does. -/
theorem does_runConnected (opts : Options) (fd : Nat) (assocId : UInt32) :
    Does (runConnected stack strerror opts fd assocId) (connectedEnd stack opts).outcome
      (connectedEvents stack opts ++ (connectedEnd stack opts).events strerror) := by
  unfold runConnected connectedEnd connectedEvents
  by_cases hconnect : opts.expects ["connect"] = true
  · rw [if_pos hconnect, if_pos hconnect, if_pos hconnect]
    exact Raising.Logs.after (does_setFatalError _) (Raising.Logs.throw _)
  · rw [if_neg hconnect, if_neg hconnect, if_neg hconnect]
    have hload : Silent (loadLaddrs stack fd assocId) (some (loaded stack.getladdrs)) :=
      silent_loadAddrs rfl stack.getladdrs
    have hload' : Silent (loadPaddrs stack fd assocId) (some (loaded stack.getpaddrs)) :=
      silent_loadAddrs rfl stack.getpaddrs
    have hlocal : Does (onlyIf opts.emitLocalAddrs _) (.ok ()) _ :=
      does_onlyIf (does_printAddrsOf "local_addrs" hload)
    have hpeer : Does (onlyIf opts.emitPeerAddrs _) (.ok ()) _ :=
      does_onlyIf (does_printAddrsOf "peer_addrs" hload')
    have hgiven := silent_orFail (givenMessages opts.messages)
    rw [clientAddrs, List.append_assoc, List.append_assoc]
    cases hmessages : givenMessages opts.messages with
    | none =>
        rw [hmessages] at hgiven
        refine Raising.Logs.bind hlocal (Raising.Logs.bind hpeer ?_)
        exact Raising.Logs.bind_error hgiven
    | some messages =>
        rw [hmessages] at hgiven
        refine Raising.Logs.bind hlocal (Raising.Logs.bind hpeer ?_)
        exact Raising.Logs.after hgiven (does_sendAndFinish stack strerror opts fd assocId messages)

/-- What a client prints that connects, and how it ends. -/
theorem does_connectAndRun (opts : Options) (fd : Nat) (addrs : List (Option SockaddrIn)) :
    Does (connectAndRun stack strerror opts fd addrs)
      (connectEnd stack opts (stack.connectx addrs)).outcome
      (connectEvents stack opts (stack.connectx addrs) ++
        (connectEnd stack opts (stack.connectx addrs)).events strerror) := by
  unfold connectAndRun
  rw [call_bind]
  have haction : (Action.connectx fd addrs).event = none := rfl
  have hnote := does_note (.connectx fd addrs) haction (stack.connectx addrs)
  cases hanswer : stack.connectx addrs with
  | ok assocId =>
      rw [hanswer] at hnote
      exact Raising.Logs.after hnote (does_runConnected stack strerror opts fd assocId)
  | error errno =>
      rw [hanswer] at hnote
      cases hexpects : opts.expects ["connect", "connect_or_send"] with
      | true =>
          have hreport : Does (note (.connectx fd addrs) (.error errno : Except Errno UInt32) >>= _)
              _ _ := does_reportExpected strerror haction errno "connect"
          simp only [connectEnd, connectEvents, failedAt, hexpects, if_true]
          exact hreport
      | false =>
          simp only [connectEnd, connectEvents, failedAt, hexpects, Bool.false_eq_true, if_false]
          exact Raising.Logs.after hnote (Raising.Logs.throw _)

/-- What a client prints, and how it ends. -/
theorem does_runClient (opts : Options) :
    Does (runClient stack strerror opts) (clientEnd stack opts).outcome
      (clientEvents stack opts ++ (clientEnd stack opts).events strerror) := by
  have hstart := silent_startClient stack opts
  unfold clientEnd clientEvents
  cases hconnecting : connecting stack opts with
  | none =>
      rw [hconnecting] at hstart
      exact Raising.Logs.bind_error hstart
  | some started =>
      rw [hconnecting] at hstart
      have hrun : Does (orClose stack started.1 _) _ _ := does_orClose stack
        (does_connectAndRun stack strerror opts started.1 started.2)
      refine Raising.Logs.after hstart ?_
      dsimp only
      cases hend : (connectEnd stack opts (stack.connectx started.2)).outcome with
      | ok value =>
          rw [hend] at hrun
          exact Raising.Logs.before hrun (does_close stack started.1)
      | error stop =>
          rw [hend] at hrun
          exact Raising.Logs.bind_error hrun

/-! ## The process -/

/-- The process has ended like the function, and has printed these events and the error. -/
def Ran.Ends (ran : Ran) (events : List HelperEvent) : Except Stop Unit → Prop
  | .ok () => ran.exitCode = some 0 ∧ ran.events = events
  | .error .failed =>
      ran.exitCode = some 1 ∧ ∃ message, ran.events = events ++ [.error message]
  | .error .waiting => ran.exitCode = none ∧ ran.events = events

/-- The process ends as its program does, with the error as its last event. -/
theorem finish_ends {x : Program Unit} {outcome : Except Stop Unit} {events : List HelperEvent}
    (h : Does x outcome events) :
    (finish strerror (x.run.run {})).Ends events outcome := by
  obtain ⟨houtcome, hevents⟩ := h {}
  rcases hrun : x.run.run ({} : Process) with ⟨result, process⟩
  rw [hrun] at houtcome hevents
  obtain rfl : result = outcome := houtcome
  have hprinted : process.actions.filterMap Action.event = events := by
    simpa [Process.events] using hevents
  rcases result with stop | value
  · cases stop with
    | waiting => exact ⟨rfl, hprinted⟩
    | failed =>
        refine ⟨rfl, if process.fatalError ≠ [] then process.fatalError
          else strerror process.errno, ?_⟩
        simp only [finish, Ran.events, List.filterMap_append, hprinted]
        rfl
  · exact ⟨rfl, hprinted⟩

/-- A server process, from its command line to its end. -/
theorem main_server {args : List CppString} {opts : Options} (hargs : parseOptions args = some opts)
    (hmode : opts.mode = str "server") :
    (main stack strerror args).Ends (serverEvents stack opts) (serverOutcome stack opts) := by
  unfold main
  rw [hargs]
  dsimp only
  rw [if_pos hmode]
  exact finish_ends strerror (does_runServer stack opts)

/-- A process in the mode of a client runs the program of the client. -/
theorem main_eq_client {args : List CppString} {opts : Options}
    (hargs : parseOptions args = some opts) (hmode : opts.mode = str "client") :
    main stack strerror args = finish strerror ((runClient stack strerror opts).run.run {}) := by
  have hne : ¬str "client" = str "server" := by decide
  unfold main
  rw [hargs]
  dsimp only
  rw [if_neg (hmode ▸ hne), if_pos hmode]

/-- What a client process prints, and how it exits. -/
theorem main_client {args : List CppString} {opts : Options} (hargs : parseOptions args = some opts)
    (hmode : opts.mode = str "client") :
    (main stack strerror args).Ends
      (clientEvents stack opts ++ (clientEnd stack opts).events strerror)
      (clientEnd stack opts).outcome := by
  rw [main_eq_client stack strerror hargs hmode]
  exact finish_ends strerror (does_runClient stack strerror opts)

/-! ## What the server has heard -/

/-- The delivery that an event reports. -/
def HelperEvent.delivery : HelperEvent → Option Delivery
  | .recv payload stream ppid assocId => some (.message payload stream ppid assocId)
  | .notify type flags => some (.notification type flags)
  | _ => none

/-- The deliveries that a process has reported. -/
def Ran.heard (ran : Ran) : List Delivery :=
  ran.events.filterMap HelperEvent.delivery

/-- The reports are those of the deliveries, in their order. -/
theorem heard_reports (peerAddrs : Option (List CppString)) (recvCount : Nat)
    (deliveries : List Delivery) :
    (reports peerAddrs recvCount deliveries).filterMap HelperEvent.delivery = deliveries := by
  induction deliveries generalizing recvCount with
  | nil => rfl
  | cons delivery deliveries ih =>
      have hone : (reportsOf peerAddrs recvCount delivery).filterMap HelperEvent.delivery =
          [delivery] := by
        cases delivery with
        | notification type flags => rfl
        | message data stream ppid assocId =>
            dsimp only [reportsOf]
            by_cases hfirst : recvCount = 0
            · rw [if_pos hfirst]
              cases peerAddrs <;> rfl
            · rw [if_neg hfirst]
              rfl
      rw [reports, List.filterMap_append, hone, ih]
      rfl

/-- What is received is an initial part of what is delivered. -/
theorem upTo_initial (n : Nat) (deliveries : List Delivery) : upTo n deliveries <+: deliveries := by
  induction deliveries generalizing n with
  | nil => cases n <;> exact List.nil_prefix
  | cons delivery deliveries ih =>
      cases n with
      | zero => exact List.nil_prefix
      | succ n => exact List.prefix_cons_inj delivery |>.mpr (ih _)

/-- No more messages are received than asked for. -/
theorem messageCount_upTo (n : Nat) (deliveries : List Delivery) :
    messageCount (upTo n deliveries) = min n (messageCount deliveries) := by
  unfold messageCount
  induction deliveries generalizing n with
  | nil => cases n <;> simp [upTo]
  | cons delivery deliveries ih =>
      cases n with
      | zero => simp [upTo]
      | succ n =>
          rw [upTo, List.countP_cons, List.countP_cons, ih]
          cases delivery.isMessage <;> simp

/-- A server that listens reports its addresses first.  Then it reports everything that is
delivered, once and in its order, up to the number of messages that it was asked for.  It exits
without an error exactly when all of these have come, and never ends exactly when they have
not and no call fails. -/
theorem server_reports {args : List CppString} {opts : Options}
    (hargs : parseOptions args = some opts) (hmode : opts.mode = str "server")
    {started : Nat × List CppString} (hlistening : listening stack opts = some started) :
    let ran := main stack strerror args
    let wanted := opts.readMessages.toNat
    ran.events.head? = some (.ready started.2) ∧
      ran.heard = upTo wanted (delivered stack.recvv) ∧
      ran.heard <+: delivered stack.recvv ∧
      messageCount ran.heard = min wanted (messageCount (delivered stack.recvv)) ∧
      (ran.exitCode = some 0 ↔ wanted ≤ messageCount (delivered stack.recvv)) ∧
      (ran.exitCode = none ↔ messageCount (delivered stack.recvv) < wanted ∧
        recvFails stack.recvv = false) := by
  intro ran wanted
  have hends : ran.Ends _ _ := main_server stack strerror hargs hmode
  have hdeliveries := heard_reports (shownPeerAddrs stack opts) 0
    (upTo wanted (delivered stack.recvv))
  have hcompletion : (completion stack opts).filterMap HelperEvent.delivery = [] := by
    unfold completion
    split <;> rfl
  simp only [serverEvents, serverOutcome, hlistening] at hends
  -- Behind the first event stand the reports, and behind them nothing that reports a delivery.
  obtain ⟨tail, hevents, htail⟩ : ∃ tail, ran.events = .ready started.2 ::
      (reports (shownPeerAddrs stack opts) 0 (upTo wanted (delivered stack.recvv)) ++ tail) ∧
      tail.filterMap HelperEvent.delivery = [] := by
    cases hreceive : receiveOutcome opts.readMessages.toNat stack.recvv with
    | ok value =>
        rw [hreceive] at hends
        exact ⟨_, hends.2, hcompletion⟩
    | error stop =>
        rw [hreceive] at hends
        cases stop with
        | waiting => exact ⟨_, hends.2, hcompletion⟩
        | failed =>
            obtain ⟨-, message, hevents⟩ := hends
            refine ⟨completion stack opts ++ [.error message], ?_, ?_⟩
            · rw [hevents]
              simp [wanted]
            · rw [List.filterMap_append, hcompletion]
              rfl
  have hheard : ran.heard = upTo wanted (delivered stack.recvv) := by
    rw [Ran.heard, hevents, List.filterMap_cons_none rfl, List.filterMap_append, hdeliveries, htail,
      List.append_nil]
  refine ⟨by rw [hevents]; rfl, hheard, hheard ▸ upTo_initial _ _,
    by rw [hheard, messageCount_upTo], ?_⟩
  unfold receiveOutcome at hends
  by_cases hall : opts.readMessages.toNat ≤ messageCount (delivered stack.recvv)
  · rw [if_pos hall] at hends
    refine ⟨iff_of_true hends.1 hall, ?_⟩
    rw [hends.1]
    exact iff_of_false (by simp) fun h => Nat.not_le.mpr h.1 hall
  · rw [if_neg hall] at hends
    cases hfails : recvFails stack.recvv with
    | true =>
        rw [hfails] at hends
        rw [hends.1]
        exact ⟨iff_of_false (by simp) hall, iff_of_false (by simp) fun h => by simpa using h.2⟩
    | false =>
        rw [hfails] at hends
        rw [hends.1]
        exact ⟨iff_of_false (by simp) hall, iff_of_true rfl ⟨Nat.lt_of_not_le hall, rfl⟩⟩

/-- A stack on which everything succeeds, and which delivers this. -/
def sampleStack (deliveries : List Delivery) : Stack where
  socket := .ok 3
  setsockopt _ := .ok ()
  bind _ := .ok ()
  getsockname _ := .ok { address := [127, 0, 0, 1], port := 5001 }
  bindx _ := .ok ()
  listen := .ok ()
  getladdrs := .ok [.inet { address := [127, 0, 0, 1], port := 5001 }]
  getpaddrs := .ok [.inet { address := [127, 0, 0, 1], port := 5002 }]
  recvv := deliveries.map .ok
  connectx _ := .ok 7
  sendv _ _ := .ok ()
  close := .ok ()

/-- The server is asked for one message, and two are delivered behind a notification. -/
theorem server_reports_one :
    let ran := main (sampleStack [.notification 1 0x2080, .message (str "a") 0 1 7,
      .message (str "b") 0 1 7]) (fun _ => str "error")
      [str "server", str "--bind-addrs", str "127.0.0.1:0", str "--read-messages", str "1"]
    ran.events.head? = some (.ready [str "127.0.0.1:5001"]) ∧
      ran.heard = [.notification 1 0x2080, .message (str "a") 0 1 7] ∧ ran.exitCode = some 0 := by
  have h := @server_reports (sampleStack [.notification 1 0x2080, .message (str "a") 0 1 7,
    .message (str "b") 0 1 7]) (fun _ => str "error")
    [str "server", str "--bind-addrs", str "127.0.0.1:0", str "--read-messages", str "1"]
    { mode := str "server", bindAddrs := some (str "127.0.0.1:0"), readMessages := 1 }
    (by decide) rfl (3, [str "127.0.0.1:5001"]) (by decide)
  exact ⟨h.1, h.2.1, h.2.2.2.2.1.mpr (by decide)⟩

end SctpConformance.FreebsdHelper
