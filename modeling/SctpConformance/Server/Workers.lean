import SctpConformance.Server.JsonEncode

/-!
# Worker threads

The four workers of `main.cpp`, each started by a successful start request with
the plain descriptor numbers of its sockets.  A worker is a state machine over
the outcomes of its own `sctp_recvv` and `sctp_sendv` calls; what it does next
is to receive, to send, or to end in `mark_failed` or `mark_network_complete`.
The local variables of each loop are the fields of its state.

Main results:

- Definition `Worker.start`: what a worker does first.
- Definitions `WorkerState.onReceive` and `WorkerState.onSend`: what it does
  after a call returned.
- Definition `WorkerStep.play`: what it does after a sequence of outcomes.
- Theorem `WorkerStep.play_append`: outcomes can be fed in two parts.
- Theorem `WorkerStep.play_fds`: a worker makes its calls on the descriptors it
  was started with.
-/

namespace SctpConformance

/-! ## Messages -/

/-- The filling loop of `materialize_payload`; each turn adds a whole copy or
the final part of one. -/
def fillPayload (payload : CppString) : Nat → CppString
  | 0 => []
  | remaining + 1 =>
      if payload = [] then []
      else if payload.length ≤ remaining + 1 then
        payload ++ fillPayload payload (remaining + 1 - payload.length)
      else payload.take (remaining + 1)
termination_by remaining => remaining
decreasing_by
  have : payload.length ≠ 0 := by simpa using ‹¬payload = []›
  omega

/-- `materialize_payload`: a payload is repeated up to its size. -/
def materializePayload (message : MessageSpec) : CppString :=
  if message.sizeBytes = 0 ∨ message.sizeBytes ≤ message.payload.length then message.payload
  else if message.payload = [] then List.replicate message.sizeBytes 120
  else fillPayload message.payload message.sizeBytes

/-- A message is filled up behind its payload. -/
theorem materializePayload_prefix (message : MessageSpec) :
    message.payload <+: materializePayload message := by
  unfold materializePayload
  split
  · exact List.prefix_rfl
  · rename_i hsize
    push Not at hsize
    split
    · rename_i hempty
      rw [hempty]
      exact List.nil_prefix
    · rename_i hpayload
      rcases Nat.exists_eq_succ_of_ne_zero hsize.1 with ⟨size, hsucc⟩
      rw [hsucc, fillPayload, if_neg hpayload, if_pos]
      · exact List.prefix_append _ _
      · have hlong := hsize.2
        omega

/-- The outcome of one `sctp_recvv`: an error, a notification, or data with what
the kernel reports about it.  `peerAddrs` is what `load_peer_addrs` returns for
the association of the message, were it called next. -/
inductive ReceiveOutcome where
  | error (errno : Errno)
  | notification
  | data (payload : CppString) (stream : UInt16) (ppid : UInt32) (assocId : UInt32)
      (endOfRecord : Bool) (peerAddrs : List CppString)
deriving DecidableEq

/-- The outcome of one `sctp_sendv`; `none` is success. -/
abbrev SendOutcome := Option Errno

/-! ## Worker states -/

/-- The arguments a worker is started with. -/
inductive Worker where
  | receive (fd : Nat) (expected : List MessageSpec) (expectedPeerAddrCount : Nat)
  | prReceive (fd : Nat) (expected : List MessageSpec)
  | receiveMultiTarget (fds : List Nat) (expected : List MessageSpec)
  | sendAfterTrigger (fd : Nat) (triggerPayload : CppString) (serverMessages : List MessageSpec)
deriving DecidableEq

/-- A worker between two calls, with the variables of its loop. -/
inductive WorkerState where
  | receive (fd : Nat) (expected : List MessageSpec) (expectedPeerAddrCount : Nat)
      (matched : Nat) (checkedPeerAddrs : Bool)
  | prReceive (fd : Nat) (expected : List MessageSpec) (sawSkipped sawFinal : Bool)
  | receiveMultiTarget (fds : List Nat) (expected : List MessageSpec) (i : Nat)
  | awaitTrigger (fd : Nat) (triggerPayload : CppString) (serverMessages : List MessageSpec)
  | sendMessages (fd : Nat) (assocId : UInt32) (messages : List MessageSpec)
deriving DecidableEq

/-- What a worker does next. -/
inductive WorkerStep where
  | receive (state : WorkerState)
  | send (state : WorkerState)
  | markFailed (message : CppString)
  | markNetworkComplete
deriving DecidableEq

/-- The descriptor a worker makes its next call on. -/
def WorkerState.fd : WorkerState → Nat
  | .receive fd _ _ _ _ => fd
  | .prReceive fd _ _ _ => fd
  | .receiveMultiTarget fds _ i => fds.getD i 0
  | .awaitTrigger fd _ _ => fd
  | .sendMessages fd _ _ => fd

/-- The descriptors a worker may still make a call on. -/
def WorkerState.fds : WorkerState → List Nat
  | .receive fd _ _ _ _ => [fd]
  | .prReceive fd _ _ _ => [fd]
  | .receiveMultiTarget fds _ _ => fds
  | .awaitTrigger fd _ _ => [fd]
  | .sendMessages fd _ _ => [fd]

/-- The descriptors a worker is started with. -/
def Worker.fds : Worker → List Nat
  | .receive fd _ _ => [fd]
  | .prReceive fd _ => [fd]
  | .receiveMultiTarget fds _ => fds
  | .sendAfterTrigger fd _ _ => [fd]

/-! ## Loop heads -/

/-- `while (matched < expected_messages.size())` of `run_receive_worker`. -/
def receiveLoop (fd : Nat) (expected : List MessageSpec) (expectedPeerAddrCount matched : Nat)
    (checkedPeerAddrs : Bool) : WorkerStep :=
  if matched < expected.length then
    .receive (.receive fd expected expectedPeerAddrCount matched checkedPeerAddrs)
  else .markNetworkComplete

/-- `for (size_t i = 0; i < expected_messages.size(); i++)` of
`run_receive_multi_target_worker`. -/
def receiveMultiTargetLoop (fds : List Nat) (expected : List MessageSpec) (i : Nat) :
    WorkerStep :=
  if i < expected.length then .receive (.receiveMultiTarget fds expected i)
  else .markNetworkComplete

/-- The loop over `server_messages` of `run_send_after_trigger_worker`. -/
def sendLoop (fd : Nat) (assocId : UInt32) : List MessageSpec → WorkerStep
  | [] => .markNetworkComplete
  | message :: messages => .send (.sendMessages fd assocId (message :: messages))

/-- What a worker does first. -/
def Worker.start : Worker → WorkerStep
  | .receive fd expected expectedPeerAddrCount =>
      receiveLoop fd expected expectedPeerAddrCount 0 false
  | .prReceive fd expected =>
      if expected.length < 2 then
        .markFailed (str "PR-SCTP feature is missing expected messages")
      else .receive (.prReceive fd expected false false)
  | .receiveMultiTarget fds expected =>
      if fds.length ≠ expected.length then
        .markFailed (str "one-to-many scenario is missing listener sockets")
      else receiveMultiTargetLoop fds expected 0
  | .sendAfterTrigger fd triggerPayload serverMessages =>
      .receive (.awaitTrigger fd triggerPayload serverMessages)

/-! ## After a call -/

section

variable (host : Host) (featureId : CppString)

/-- The text of a failed receive. -/
def receiveError (timeoutText : String) (errno : Errno) : WorkerStep :=
  .markFailed (if errno = .ewouldblock ∨ errno = .eagain then str timeoutText
    else host.strerror errno)

/-- The three comparisons of a data message with the expected one; `none` if it matches. -/
def mismatch (expected : MessageSpec) (payload : CppString) (stream : UInt16) (ppid : UInt32) :
    Option CppString :=
  if materializePayload expected ≠ payload then
    some (str "unexpected payload for feature " ++ featureId)
  else if expected.stream ≠ stream then some (str "unexpected SCTP stream id")
  else if expected.ppid ≠ ppid then some (str "unexpected SCTP PPID")
  else none

/-- What a worker does after `sctp_recvv` returned. -/
def WorkerState.onReceive : WorkerState → ReceiveOutcome → WorkerStep
  | .receive fd expected expectedPeerAddrCount matched checkedPeerAddrs, outcome =>
      match outcome with
      | .error errno => receiveError host "timed out waiting for SCTP client traffic" errno
      | .notification =>
          .receive (.receive fd expected expectedPeerAddrCount matched checkedPeerAddrs)
      | .data payload stream ppid _ _ peerAddrs =>
          match mismatch featureId (expected.getD matched ⟨[], 0, 0, 0, false, [], 0, 0⟩)
              payload stream ppid with
          | some message => .markFailed message
          | none =>
              if checkedPeerAddrs = false ∧ expectedPeerAddrCount > 0 then
                if peerAddrs.length < expectedPeerAddrCount then
                  .markFailed
                    (str "peer address enumeration did not return enough addresses")
                else receiveLoop fd expected expectedPeerAddrCount (matched + 1) true
              else
                receiveLoop fd expected expectedPeerAddrCount (matched + 1) checkedPeerAddrs
  | .prReceive fd expected sawSkipped sawFinal, outcome =>
      match outcome with
      | .error errno =>
          if (errno = .ewouldblock ∨ errno = .eagain) ∧ sawFinal then
            if sawSkipped then
              .markFailed (str ("partially reliable SCTP message was delivered; " ++
                "apply the documented impairment before retrying"))
            else .markNetworkComplete
          else
            receiveError host "timed out waiting for partially reliable SCTP traffic" errno
      | .notification => .receive (.prReceive fd expected sawSkipped sawFinal)
      | .data payload _ _ _ _ _ =>
          -- the payload alone decides, and the droppable message is looked for first
          if some payload = expected.head?.map materializePayload then
            .receive (.prReceive fd expected true sawFinal)
          else if some payload = expected.getLast?.map materializePayload then
            .receive (.prReceive fd expected sawSkipped true)
          else .markFailed (str "unexpected SCTP payload for PR-SCTP scenario")
  | .receiveMultiTarget fds expected i, outcome =>
      match outcome with
      | .error errno =>
          receiveError host "timed out waiting for one-to-many SCTP client traffic" errno
      | .notification => .receive (.receiveMultiTarget fds expected i)
      | .data payload stream ppid _ _ _ =>
          match mismatch featureId (expected.getD i ⟨[], 0, 0, 0, false, [], 0, 0⟩)
              payload stream ppid with
          | some message => .markFailed message
          | none => receiveMultiTargetLoop fds expected (i + 1)
  | .awaitTrigger fd triggerPayload serverMessages, outcome =>
      match outcome with
      | .error errno => receiveError host "timed out waiting for trigger message" errno
      | .notification => .receive (.awaitTrigger fd triggerPayload serverMessages)
      | .data payload _ _ assocId _ _ =>
          -- `trigger_payload != buffer` reads the buffer up to its first NUL byte
          if triggerPayload ≠ [] ∧ triggerPayload ≠ payload.takeWhile (· ≠ 0) then
            .markFailed (str "unexpected trigger payload")
          else sendLoop fd assocId serverMessages
  | .sendMessages fd assocId messages, _ => .send (.sendMessages fd assocId messages)

/-- What a worker does after `sctp_sendv` returned. -/
def WorkerState.onSend : WorkerState → SendOutcome → WorkerStep
  | .sendMessages _ _ _, some errno => .markFailed (host.strerror errno)
  | .sendMessages fd assocId messages, none => sendLoop fd assocId messages.tail
  | state, _ => .receive state

/-- The outcome of a call of a worker. -/
inductive WorkerInput where
  | received (outcome : ReceiveOutcome)
  | sent (outcome : SendOutcome)
deriving DecidableEq

/-- What a worker does after the call it was about to make returned. -/
def WorkerStep.advance : WorkerStep → WorkerInput → WorkerStep
  | .receive state, .received outcome => state.onReceive host featureId outcome
  | .send state, .sent outcome => state.onSend host outcome
  | next, _ => next

/-- What a worker does after a sequence of outcomes. -/
def WorkerStep.play (next : WorkerStep) (inputs : List WorkerInput) : WorkerStep :=
  inputs.foldl (WorkerStep.advance host featureId) next

/-- Outcomes can be fed in two parts. -/
theorem WorkerStep.play_append (next : WorkerStep) (inputs inputs' : List WorkerInput) :
    next.play host featureId (inputs ++ inputs') =
      (next.play host featureId inputs).play host featureId inputs' := by
  simp [WorkerStep.play]

/-! ## The descriptors of a worker -/

/-- The descriptors a worker may still make a call on. -/
def WorkerStep.fds : WorkerStep → List Nat
  | .receive state => state.fds
  | .send state => state.fds
  | .markFailed _ => []
  | .markNetworkComplete => []

/-- The loop variable of the multi-target worker is in range. -/
def WorkerState.Sound : WorkerState → Prop
  | .receiveMultiTarget fds expected i => i < expected.length ∧ fds.length = expected.length
  | _ => True

/-- The state of the loop that the worker is in is sound. -/
def WorkerStep.Sound : WorkerStep → Prop
  | .receive state => state.Sound
  | .send state => state.Sound
  | .markFailed _ => True
  | .markNetworkComplete => True

/-- A worker makes its calls on the descriptors it was started with. -/
theorem WorkerState.fd_mem_fds {state : WorkerState} (h : state.Sound) : state.fd ∈ state.fds := by
  cases state with
  | receiveMultiTarget fds expected i =>
      have hi : i < fds.length := by
        rw [h.2]
        exact h.1
      simp [WorkerState.fd, WorkerState.fds, hi]
  | _ => exact List.mem_singleton_self _

/-- A worker that receives uses no other descriptor. -/
theorem receiveLoop_fds (fd : Nat) (expected : List MessageSpec)
    (expectedPeerAddrCount matched : Nat) (checkedPeerAddrs : Bool) :
    (receiveLoop fd expected expectedPeerAddrCount matched checkedPeerAddrs).fds ⊆ [fd] ∧
      (receiveLoop fd expected expectedPeerAddrCount matched checkedPeerAddrs).Sound := by
  unfold receiveLoop
  split <;> simp [WorkerStep.fds, WorkerStep.Sound, WorkerState.fds, WorkerState.Sound]

/-- A worker for several targets uses no other descriptors. -/
theorem receiveMultiTargetLoop_fds (fds : List Nat) (expected : List MessageSpec) (i : Nat)
    (hlength : fds.length = expected.length) :
    (receiveMultiTargetLoop fds expected i).fds ⊆ fds ∧
      (receiveMultiTargetLoop fds expected i).Sound := by
  unfold receiveMultiTargetLoop
  split
  · rename_i hi
    exact ⟨fun _ hfd => hfd, hi, hlength⟩
  · exact ⟨List.nil_subset _, trivial⟩

/-- A worker that sends uses no other descriptor. -/
theorem sendLoop_fds (fd : Nat) (assocId : UInt32) (messages : List MessageSpec) :
    (sendLoop fd assocId messages).fds ⊆ [fd] ∧ (sendLoop fd assocId messages).Sound := by
  cases messages <;>
    simp [sendLoop, WorkerStep.fds, WorkerStep.Sound, WorkerState.fds, WorkerState.Sound]

/-- A worker that starts uses only the descriptors that it was given. -/
theorem Worker.start_fds (worker : Worker) :
    worker.start.fds ⊆ worker.fds ∧ worker.start.Sound := by
  cases worker with
  | receive fd expected count => exact receiveLoop_fds _ _ _ _ _
  | prReceive fd expected =>
      simp only [Worker.start]
      split <;> simp [WorkerStep.fds, WorkerStep.Sound, WorkerState.fds, WorkerState.Sound,
        Worker.fds]
  | receiveMultiTarget fds expected =>
      simp only [Worker.start]
      split
      · simp [WorkerStep.fds, WorkerStep.Sound]
      · rename_i hlength
        exact receiveMultiTargetLoop_fds fds expected 0 (by simpa using hlength)
  | sendAfterTrigger fd trigger messages =>
      simp [Worker.start, WorkerStep.fds, WorkerStep.Sound, WorkerState.fds, WorkerState.Sound,
        Worker.fds]

/-- After a receive a worker goes on with the same descriptors. -/
theorem WorkerState.onReceive_fds {state : WorkerState} (outcome : ReceiveOutcome)
    (h : state.Sound) :
    (state.onReceive host featureId outcome).fds ⊆ state.fds ∧
      (state.onReceive host featureId outcome).Sound := by
  cases state with
  | receive fd expected count matched checked =>
      cases outcome with
      | data payload stream ppid assocId eor peerAddrs =>
          simp only [WorkerState.onReceive]
          repeat' split
          · simp [WorkerStep.fds, WorkerStep.Sound]
          · simp [WorkerStep.fds, WorkerStep.Sound]
          · exact receiveLoop_fds _ _ _ _ _
          · exact receiveLoop_fds _ _ _ _ _
      | _ => simp [WorkerState.onReceive, receiveError, WorkerStep.fds, WorkerStep.Sound,
          WorkerState.Sound, WorkerState.fds]
  | prReceive fd expected sawSkipped sawFinal =>
      cases outcome with
      | notification => exact ⟨fun _ hfd => hfd, trivial⟩
      | error errno =>
          simp only [WorkerState.onReceive]
          repeat' split
          all_goals simp [receiveError, WorkerStep.fds, WorkerStep.Sound]
      | data payload stream ppid assocId eor peerAddrs =>
          simp only [WorkerState.onReceive]
          repeat' split
          all_goals simp [WorkerStep.fds, WorkerStep.Sound, WorkerState.Sound, WorkerState.fds]
  | receiveMultiTarget fds expected i =>
      cases outcome with
      | notification => exact ⟨fun _ hfd => hfd, h⟩
      | error errno => simp [WorkerState.onReceive, receiveError, WorkerStep.fds, WorkerStep.Sound]
      | data payload stream ppid assocId eor peerAddrs =>
          simp only [WorkerState.onReceive]
          split
          · simp [WorkerStep.fds, WorkerStep.Sound]
          · exact receiveMultiTargetLoop_fds fds expected (i + 1) h.2
  | awaitTrigger fd trigger messages =>
      cases outcome with
      | notification => exact ⟨fun _ hfd => hfd, trivial⟩
      | error errno => simp [WorkerState.onReceive, receiveError, WorkerStep.fds, WorkerStep.Sound]
      | data payload stream ppid assocId eor peerAddrs =>
          simp only [WorkerState.onReceive]
          split
          · simp [WorkerStep.fds, WorkerStep.Sound]
          · exact sendLoop_fds fd assocId messages
  | sendMessages fd assocId messages => exact ⟨fun _ hfd => hfd, trivial⟩

/-- After a send a worker goes on with the same descriptors. -/
theorem WorkerState.onSend_fds {state : WorkerState} (outcome : SendOutcome) (h : state.Sound) :
    (state.onSend host outcome).fds ⊆ state.fds ∧ (state.onSend host outcome).Sound := by
  cases state with
  | sendMessages fd assocId messages =>
      cases outcome with
      | none => exact sendLoop_fds fd assocId messages.tail
      | some errno => simp [WorkerState.onSend, WorkerStep.fds, WorkerStep.Sound]
  | _ => exact ⟨fun _ hfd => hfd, h⟩

/-- A worker never makes a call on a descriptor it was not started with. -/
theorem WorkerStep.play_fds {next : WorkerStep} (inputs : List WorkerInput) (h : next.Sound) :
    (next.play host featureId inputs).fds ⊆ next.fds ∧
      (next.play host featureId inputs).Sound := by
  induction inputs generalizing next with
  | nil => exact ⟨fun _ hfd => hfd, h⟩
  | cons input inputs ih =>
      have hone : (next.advance host featureId input).fds ⊆ next.fds ∧
          (next.advance host featureId input).Sound := by
        cases next with
        | receive state =>
            cases input with
            | received outcome => exact WorkerState.onReceive_fds host featureId outcome h
            | sent outcome => exact ⟨fun _ hfd => hfd, h⟩
        | send state =>
            cases input with
            | received outcome => exact ⟨fun _ hfd => hfd, h⟩
            | sent outcome => exact WorkerState.onSend_fds host outcome h
        | markFailed message => exact ⟨fun _ hfd => hfd, h⟩
        | markNetworkComplete => exact ⟨fun _ hfd => hfd, h⟩
      rcases ih hone.2 with ⟨hfds, hsound⟩
      exact ⟨fun _ hfd => hone.1 (hfds hfd), hsound⟩

end

end SctpConformance
