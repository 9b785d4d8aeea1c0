import SctpConformance.Helpers.Events
import SctpConformance.Helpers.Options
import SctpConformance.Library.Raising

/-!
# The C helper

`main`, `run_server` and `run_client` of `adapters/freebsd_c/helper.c`.

The SCTP stack is given by its answers to the calls of one process.  Any answers are
allowed; when `sctp_recvv` has no further answer, the process waits for ever.  Printing
leaves `errno` alone.

Main results:

- Definitions `runServer` and `runClient`: the two programs.
- Definition `main`: what a process does and prints, and the code that it exits with.
-/

namespace SctpConformance.FreebsdHelper

open Library

/-! ## The SCTP stack -/

/-- A value of `errno`. -/
abbrev Errno := Nat

/-- A `struct sockaddr`, as it is returned by the stack. -/
inductive Sockaddr where
  | inet (sin : SockaddrIn)
  | otherFamily
deriving DecidableEq

/-- The fields of `struct sctp_event_subscribe` that the helper sets. -/
structure EventSubscribe where
  association : Bool := false
  shutdown : Bool := false
  dataIo : Bool := false
deriving DecidableEq

/-- The socket options that the helper sets. -/
inductive SocketOption where
  | nodelay
  | initmsg (initmsg : SctpInitmsg)
  | events (subscribe : EventSubscribe)
  | recvRcvinfo
deriving DecidableEq

/-- What `sctp_recvv` puts in the buffer. -/
inductive Delivery where
  | notification (type : UInt16) (flags : Int32)
  | message (data : CppString) (stream : UInt16) (ppid assocId : UInt32)
deriving DecidableEq

/-- The answers of the stack to the calls of a process.  `getsockname` can be called twice,
`sctp_sendv` once for each message; an address that was not written is missing. -/
structure Stack where
  socket : Except Errno Nat
  setsockopt : SocketOption → Except Errno Unit
  bind : Option SockaddrIn → Except Errno Unit
  getsockname : Nat → Except Errno SockaddrIn
  bindx : List (Option SockaddrIn) → Except Errno Unit
  listen : Except Errno Unit
  getladdrs : Except Errno (List Sockaddr)
  getpaddrs : Except Errno (List Sockaddr)
  recvv : List (Except Errno Delivery)
  connectx : List (Option SockaddrIn) → Except Errno UInt32
  sendv : Nat → MessageSpec → Except Errno Unit
  close : Except Errno Unit

/-- A call of the stack, or a printed event. -/
inductive Action where
  | socket
  | setsockopt (fd : Nat) (option : SocketOption)
  | bind (fd : Nat) (addr : Option SockaddrIn)
  | getsockname (fd : Nat)
  | bindx (fd : Nat) (addrs : List (Option SockaddrIn))
  | listen (fd : Nat)
  | getladdrs (fd : Nat) (assocId : UInt32)
  | getpaddrs (fd : Nat) (assocId : UInt32)
  | recvv (fd : Nat)
  | connectx (fd : Nat) (addrs : List (Option SockaddrIn))
  | sendv (fd : Nat) (message : MessageSpec) (assocId : UInt32)
  | close (fd : Nat)
  | print (event : HelperEvent)
deriving DecidableEq

/-- The event that an action prints. -/
def Action.event : Action → Option HelperEvent
  | .print event => some event
  | _ => none

/-! ## Processes -/

/-- The state of a process. -/
structure Process where
  errno : Errno := 0
  /-- `fatal_error` -/
  fatalError : CppString := []
  /-- What the process has done so far. -/
  actions : List Action := []

/-- How a function ends without a result: with `return (-1)`, or never. -/
inductive Stop where
  | failed
  | waiting
deriving DecidableEq

/-- A function of the helper. -/
abbrev Program (α : Type) : Type :=
  Raising Stop Process α

/-- A call leaves its error in `errno`. -/
def note {α : Type} (action : Action) (answer : Except Errno α) : Program Unit :=
  modify fun process => {
    process with
    actions := process.actions ++ [action]
    errno := match answer with
      | .error errno => errno
      | .ok _ => process.errno }

/-- A call is noted, and the stack answers it. -/
def call {α : Type} (action : Action) (answer : Except Errno α) : Program (Except Errno α) := do
  note action answer
  return answer

/-- A call without which the function fails. -/
def need {α : Type} (action : Action) (answer : Except Errno α) : Program α := do
  match ← call action answer with
  | .ok value => return value
  | .error _ => throw .failed

/-- What has to be there. -/
def orFail {α : Type} : Option α → Program α
  | some value => return value
  | none => throw .failed

/-- An event is printed. -/
def print (event : HelperEvent) : Program Unit :=
  modify fun process => { process with actions := process.actions ++ [.print event] }

/-- `set_fatal_error` -/
def setFatalError (message : CppString) : Program Unit :=
  modify fun process => { process with fatalError := strlcpy 256 message }

variable (stack : Stack)

/-- `close`, whose answer nobody reads. -/
def close (fd : Nat) : Program Unit := do
  let _ ← call (.close fd) stack.close

/-- A failure closes the descriptor. -/
def orClose {α : Type} (fd : Nat) (x : Program α) : Program α :=
  tryCatch x fun
    | .failed => do
        close stack fd
        throw .failed
    | .waiting => throw .waiting

/-- `if (condition) …` -/
def onlyIf (condition : Prop) [Decidable condition] (x : Program Unit) : Program Unit :=
  if condition then x else pure ()

/-! ## Options of the socket -/

/-- The loop of `apply_subscriptions`. -/
def subscribeAll : List CppString → EventSubscribe → Option EventSubscribe
  | [], subscribe => some subscribe
  | part :: parts, subscribe =>
      if part = str "association" then subscribeAll parts { subscribe with association := true }
      else if part = str "shutdown" then subscribeAll parts { subscribe with shutdown := true }
      else if part = str "dataio" then subscribeAll parts { subscribe with dataIo := true }
      else none

/-- `apply_subscriptions` up to `enable_rcvinfo`. -/
def subscribeEvents (fd : Nat) : Option CppString → Program Unit
  | none | some [] => pure ()
  | some raw => do
      let subscribe ← orFail (subscribeAll (splitCsv (strlcpy 256 raw)) {})
      need (.setsockopt fd (.events subscribe)) (stack.setsockopt (.events subscribe))

/-- `apply_subscriptions` -/
def applySubscriptions (fd : Nat) (raw : Option CppString) : Program Unit := do
  subscribeEvents stack fd raw
  need (.setsockopt fd .recvRcvinfo) (stack.setsockopt .recvRcvinfo)

/-- A member of `initmsg` is set. -/
def SctpInitmsg.IsSet (initmsg : SctpInitmsg) : Prop :=
  initmsg.numOstreams ≠ 0 ∨ initmsg.maxInstreams ≠ 0 ∨ initmsg.maxAttempts ≠ 0 ∨
    initmsg.maxInitTimeo ≠ 0

instance : DecidablePred SctpInitmsg.IsSet := fun _ =>
  inferInstanceAs (Decidable (_ ∨ _))

/-- `apply_common_socket_options` -/
def applyCommonSocketOptions (fd : Nat) (opts : Options) : Program Unit := do
  onlyIf opts.setNodelay (need (.setsockopt fd .nodelay) (stack.setsockopt .nodelay))
  onlyIf opts.initmsg.IsSet
    (need (.setsockopt fd (.initmsg opts.initmsg)) (stack.setsockopt (.initmsg opts.initmsg)))
  applySubscriptions stack fd opts.subscribe

/-! ## Addresses -/

/-- `format_sockaddr` -/
def formatSockaddr : Sockaddr → Option CppString
  | .inet sin => some (dotted sin.address ++ [58] ++ decimal sin.port)
  | .otherFamily => none

/-- The answer of `sctp_getladdrs` or `sctp_getpaddrs`, formatted. -/
def loadAddrs (action : Action) (answer : Except Errno (List Sockaddr)) :
    Program (Option (List CppString)) := do
  match ← call action answer with
  | .error _ | .ok [] => return none
  | .ok addrs => return readAll formatSockaddr (addrs.take maxAddrs)

/-- `load_laddrs` -/
def loadLaddrs (fd : Nat) (assocId : UInt32) : Program (Option (List CppString)) :=
  loadAddrs (.getladdrs fd assocId) stack.getladdrs

/-- `load_paddrs` -/
def loadPaddrs (fd : Nat) (assocId : UInt32) : Program (Option (List CppString)) :=
  loadAddrs (.getpaddrs fd assocId) stack.getpaddrs

/-- The written part of an array of addresses. -/
def Addrs.first (addrs : Addrs) (count : Nat) : List (Option SockaddrIn) :=
  (List.range count).map addrs

/-- An address with another port. -/
def withPort (port : Nat) (addr : Option SockaddrIn) : Option SockaddrIn :=
  addr.map fun sin => { sin with port := port }

/-! ## The server -/

/-- `SCTP_FUTURE_ASSOC` -/
def futureAssoc : UInt32 :=
  0

/-- The other addresses are bound with the port of the first one. -/
def bindOthers (fd bindCount : Nat) (bindAddrs : Addrs) : Program Unit := do
  let actual ← need (.getsockname fd) (stack.getsockname 0)
  let extra := ((bindAddrs.first bindCount).drop 1).map (withPort actual.port)
  need (.bindx fd extra) (stack.bindx extra)

/-- The addresses as they were given, with the port of the socket. -/
def formatBound (bindCount : Nat) (bindAddrs : Addrs) (port : Nat) : Option (List CppString) :=
  readAll (fun addr => (withPort port addr).bind fun sin => formatSockaddr (.inet sin))
    (bindAddrs.first bindCount)

/-- The addresses of the `ready` event. -/
def readyAddrs (fd bindCount : Nat) (bindAddrs : Addrs) : Program (List CppString) := do
  match ← loadLaddrs stack fd futureAssoc with
  | some localAddrs => return localAddrs
  | none =>
      let actual ← need (.getsockname fd) (stack.getsockname 1)
      orFail (formatBound bindCount bindAddrs actual.port)

/-- `run_server` from the binding of the socket on. -/
def bindAndListen (fd bindCount : Nat) (bindAddrs : Addrs) : Program (List CppString) := do
  need (.bind fd (bindAddrs 0)) (stack.bind (bindAddrs 0))
  onlyIf (1 < bindCount) (bindOthers stack fd bindCount bindAddrs)
  need (.listen fd) stack.listen
  readyAddrs stack fd bindCount bindAddrs

/-- `run_server` up to the `ready` event. -/
def startServer (opts : Options) : Program (Nat × List CppString) := do
  let raw ← orFail opts.bindAddrs
  let (bindCount, bindAddrs) ← orFail (addressList raw)
  let fd ← need .socket stack.socket
  orClose stack fd (applyCommonSocketOptions stack fd opts)
  let localAddrs ← orClose stack fd (bindAndListen stack fd bindCount bindAddrs)
  return (fd, localAddrs)

/-- Addresses are printed if they can be loaded. -/
def printAddrsOf (event : String) (load : Program (Option (List CppString))) : Program Unit := do
  match ← load with
  | some addrs => print (.addrs (str event) addrs)
  | none => pure ()

/-- A message is reported, and after the first one the addresses of its sender. -/
def reportMessage (opts : Options) (fd recvCount : Nat) (data : CppString) (stream : UInt16)
    (ppid assocId : UInt32) : Program Unit := do
  print (.recv data stream ppid assocId)
  onlyIf (opts.emitPeerAddrs ∧ recvCount = 1)
    (printAddrsOf "peer_addrs" (loadPaddrs stack fd assocId))

/-- The loop of `run_server`, with what `sctp_recvv` is still to answer. -/
def receiveMessages (opts : Options) (fd : Nat) :
    List (Except Errno Delivery) → Nat → Program Nat
  | [], recvCount =>
      if (recvCount : Int) < opts.readMessages then throw .waiting
      else return recvCount
  | answer :: answers, recvCount =>
      if (recvCount : Int) < opts.readMessages then do
        match ← need (.recvv fd) answer with
        | .notification type flags =>
            print (.notify type flags)
            receiveMessages opts fd answers recvCount
        | .message data stream ppid assocId =>
            reportMessage stack opts fd (recvCount + 1) data stream ppid assocId
            receiveMessages opts fd answers (recvCount + 1)
      else return recvCount

/-- `run_server` -/
def runServer (opts : Options) : Program Unit := do
  let (fd, localAddrs) ← startServer stack opts
  print (.ready localAddrs)
  let recvCount ← orClose stack fd (receiveMessages stack opts fd stack.recvv 0)
  print (.complete (Int32.ofNat recvCount) .recvCount)
  close stack fd

/-! ## The client -/

/-- `opts->expect_failure` is one of these stages. -/
def Options.expects (opts : Options) (stages : List String) : Bool :=
  match opts.expectFailure with
  | some stage => stages.any fun expected => decide (stage = str expected)
  | none => false

/-- How the loop over the messages ends. -/
inductive Sending where
  | done
  | expectedFailure
deriving DecidableEq

variable (strerror : Errno → CppString)

/-- The event for a failure that was expected. -/
def reportExpected (stage : String) : Program Unit := do
  let process ← get
  print (.expectedFailure (str stage) (strerror process.errno))

/-- The loop of `run_client` over the messages from this one on. -/
def sendMessages (opts : Options) (fd : Nat) (assocId : UInt32) :
    List MessageSpec → Nat → Program Sending
  | [], _ => return .done
  | message :: messages, i => do
      match ← call (.sendv fd message assocId) (stack.sendv i message) with
      | .error _ =>
          if opts.expects ["send", "connect_or_send"] then do
            reportExpected strerror "send"
            return .expectedFailure
          else throw .failed
      | .ok _ =>
          print (.sent message.payload (UInt16.ofNat message.stream) (UInt32.ofNat message.ppid))
          sendMessages opts fd assocId messages (i + 1)

/-- The messages that the client is asked to send. -/
def givenMessages : Option CppString → Option (List MessageSpec)
  | some raw => clientMessages raw
  | none => some []

/-- `run_client` from the first message on. -/
def sendAndFinish (opts : Options) (fd : Nat) (assocId : UInt32) (messages : List MessageSpec) :
    Program Unit := do
  match ← sendMessages stack strerror opts fd assocId messages 0 with
  | .expectedFailure => return
  | .done =>
      if opts.expects ["send", "connect_or_send"] then do
        setFatalError (str "send succeeded unexpectedly")
        throw .failed
      else print (.complete (Int32.ofNat messages.length) .sentCount)

/-- `run_client` once it is connected. -/
def runConnected (opts : Options) (fd : Nat) (assocId : UInt32) : Program Unit :=
  if opts.expects ["connect"] then do
    setFatalError (str "connect succeeded unexpectedly")
    throw .failed
  else do
    onlyIf opts.emitLocalAddrs (printAddrsOf "local_addrs" (loadLaddrs stack fd assocId))
    onlyIf opts.emitPeerAddrs (printAddrsOf "peer_addrs" (loadPaddrs stack fd assocId))
    let messages ← orFail (givenMessages opts.messages)
    sendAndFinish stack strerror opts fd assocId messages

/-- `run_client` from `sctp_connectx` on, but for the last `close`. -/
def connectAndRun (opts : Options) (fd : Nat) (addrs : List (Option SockaddrIn)) :
    Program Unit := do
  match ← call (.connectx fd addrs) (stack.connectx addrs) with
  | .error _ =>
      if opts.expects ["connect", "connect_or_send"] then reportExpected strerror "connect"
      else throw .failed
  | .ok assocId => runConnected stack strerror opts fd assocId

/-- `run_client` up to `sctp_connectx`. -/
def startClient (opts : Options) : Program (Nat × List (Option SockaddrIn)) := do
  let raw ← orFail opts.connectAddrs
  let (connectCount, connectAddrs) ← orFail (addressList raw)
  let fd ← need .socket stack.socket
  orClose stack fd (applyCommonSocketOptions stack fd opts)
  return (fd, connectAddrs.first connectCount)

/-- `run_client` -/
def runClient (opts : Options) : Program Unit := do
  let (fd, addrs) ← startClient stack opts
  orClose stack fd (connectAndRun stack strerror opts fd addrs)
  close stack fd

/-! ## The process -/

/-- What a process leaves behind: what it has done, and the code that it exits with, unless
it waits for ever. -/
structure Ran where
  actions : List Action
  exitCode : Option Int

/-- The printed events. -/
def Ran.events (ran : Ran) : List HelperEvent :=
  ran.actions.filterMap Action.event

/-- The end of `main`. -/
def finish (outcome : Except Stop Unit × Process) : Ran :=
  match outcome.1 with
  | .ok () => { actions := outcome.2.actions, exitCode := some 0 }
  | .error .waiting => { actions := outcome.2.actions, exitCode := none }
  | .error .failed =>
      let message :=
        if outcome.2.fatalError ≠ [] then outcome.2.fatalError else strerror outcome.2.errno
      { actions := outcome.2.actions ++ [.print (.error message)], exitCode := some 1 }

/-- `usage`, which prints nothing on the standard output. -/
def usage : Ran where
  actions := []
  exitCode := some 2

/-- `main`, for the arguments behind the name of the program. -/
def main (args : List CppString) : Ran :=
  match parseOptions args with
  | none => usage
  | some opts =>
      if opts.mode = str "server" then finish strerror ((runServer stack opts).run.run {})
      else if opts.mode = str "client" then finish strerror ((runClient stack strerror opts).run.run {})
      else usage

end SctpConformance.FreebsdHelper
