import SctpConformance.Helpers.Reports

/-!
# The descriptor of the C helper

Which calls a process makes of the SCTP stack, and on which descriptor.

Main results:

- Definition `Finished`: what a whole program asks of the stack.
- Theorem `socket_closed_once`: a process opens at most one socket, makes all its calls on it,
  and closes it exactly once and last, unless it waits for ever.
-/

namespace SctpConformance.FreebsdHelper

open Library

/-! ## Calls -/

/-- The action is a call of the stack. -/
def Action.isCall : Action → Bool
  | .print _ => false
  | _ => true

/-- The action is a call on this descriptor that leaves it open, or no call at all. -/
def Action.Uses (fd : Nat) : Action → Prop
  | .socket => False
  | .close _ => False
  | .setsockopt fd' _ | .bind fd' _ | .getsockname fd' | .bindx fd' _ | .listen fd'
  | .getladdrs fd' _ | .getpaddrs fd' _ | .recvv fd' | .connectx fd' _ | .sendv fd' _ _ => fd' = fd
  | .print _ => True

/-- The calls of a process, in their order. -/
def Ran.calls (ran : Ran) : List Action :=
  ran.actions.filter Action.isCall

/-- How a function ends, and what it does, are related like this. -/
abbrev Asks {α : Type} (x : Program α) (Q : Except Stop α → List Action → Prop) : Prop :=
  x.Adds Process.actions Q

/-- A function makes no other calls than these. -/
abbrev Within {α : Type} (p : Action → Prop) (x : Program α) : Prop :=
  x.Only Process.actions p

section Within

variable {α β : Type} {p : Action → Prop}

/-- An action that is noted keeps to what is allowed. -/
theorem within_note {action : Action} (h : p action) (answer : Except Errno α) :
    Within p (note action answer) :=
  Raising.Only.modify (fun _ => rfl) (List.forall_mem_singleton.mpr h)

/-- So does a call. -/
theorem within_call {action : Action} (h : p action) (answer : Except Errno α) :
    Within p (call action answer) :=
  (within_note h answer).bind fun _ => Raising.Only.pure answer

/-- So does a call that must succeed. -/
theorem within_need {action : Action} (h : p action) (answer : Except Errno α) :
    Within p (need action answer) :=
  (within_call h answer).bind fun answer => by
    cases answer with
    | ok value => exact Raising.Only.pure value
    | error errno => exact Raising.Only.throw _

/-- A missing value makes no call. -/
theorem within_orFail (value : Option α) : Within p (orFail value) := by
  cases value with
  | some value => exact Raising.Only.pure value
  | none => exact Raising.Only.throw _

/-- So does an event that is printed. -/
theorem within_print (hprint : ∀ event, p (.print event)) (event : HelperEvent) :
    Within p (print event) :=
  Raising.Only.modify (fun _ => rfl) (List.forall_mem_singleton.mpr (hprint event))

/-- The text of an error makes no call. -/
theorem within_setFatalError (message : CppString) : Within p (setFatalError message) :=
  Raising.Only.modify (fun _ => (List.append_nil _).symm) (List.forall_mem_nil p)

/-- A part under a condition keeps to what the part keeps to. -/
theorem within_onlyIf {condition : Prop} [Decidable condition] {x : Program Unit}
    (h : Within p x) : Within p (onlyIf condition x) := by
  unfold onlyIf
  split
  · exact h
  · exact Raising.Only.pure ()

variable (stack : Stack)

/-- The socket options are calls on the descriptor. -/
theorem within_options {fd : Nat} (hset : ∀ option, p (.setsockopt fd option)) (opts : Options) :
    Within p (applyCommonSocketOptions stack fd opts) := by
  have hneed (option : SocketOption) (answer : Except Errno Unit) :
      Within p (need (.setsockopt fd option) answer) :=
    within_need (hset option) answer
  have hevents (raw : Option CppString) : Within p (subscribeEvents stack fd raw) := by
    rcases raw with _ | _ | ⟨ch, raw⟩
    · exact Raising.Only.pure ()
    · exact Raising.Only.pure ()
    · exact (within_orFail _).bind fun subscribe => hneed _ _
  exact (within_onlyIf (hneed _ _)).bind fun _ => (within_onlyIf (hneed _ _)).bind fun _ =>
    (hevents _).bind fun _ => hneed _ _

/-- The addresses are one call. -/
theorem within_loadAddrs {action : Action} (h : p action)
    (answer : Except Errno (List Sockaddr)) : Within p (loadAddrs action answer) :=
  (within_call h answer).bind fun answer => by
    rcases answer with errno | _ | ⟨addr, addrs⟩ <;> exact Raising.Only.pure _

/-- Printing them makes no call of its own. -/
theorem within_printAddrsOf (hprint : ∀ event, p (.print event)) (event : String)
    {load : Program (Option (List CppString))} (h : Within p load) :
    Within p (printAddrsOf event load) :=
  h.bind fun addrs => by
    cases addrs with
    | some addrs => exact within_print hprint _
    | none => exact Raising.Only.pure ()

/-- Closing the descriptor is one call. -/
theorem within_close {fd : Nat} (h : p (.close fd)) : Within p (close stack fd) :=
  (within_call h _).bind fun _ => Raising.Only.pure ()

/-- So it is on the way out of a part that has failed. -/
theorem within_orClose {fd : Nat} {x : Program α} (hclose : p (.close fd)) (h : Within p x) :
    Within p (orClose stack fd x) :=
  Raising.Only.catch h fun stop => by
    cases stop with
    | failed => exact (within_close stack hclose).bind fun _ => Raising.Only.throw _
    | waiting => exact Raising.Only.throw _

end Within

/-! ## One descriptor -/

section Uses

variable (stack : Stack) (strerror : Errno → CppString) (fd : Nat) (opts : Options)

/-- The setup of a server uses its descriptor only. -/
theorem uses_bindAndListen (bindCount : Nat) (bindAddrs : Addrs) :
    Within (Action.Uses fd) (bindAndListen stack fd bindCount bindAddrs) := by
  have hothers : Within (Action.Uses fd) (bindOthers stack fd bindCount bindAddrs) :=
    (within_need (by exact rfl) _).bind fun actual => within_need (by exact rfl) _
  have hready : Within (Action.Uses fd) (readyAddrs stack fd bindCount bindAddrs) :=
    (within_loadAddrs (by exact rfl) stack.getladdrs).bind fun loaded => by
      cases loaded with
      | some localAddrs => exact Raising.Only.pure localAddrs
      | none => exact (within_need (by exact rfl) _).bind fun actual => within_orFail _
  exact (within_need (by exact rfl) _).bind fun _ => (within_onlyIf hothers).bind fun _ =>
    (within_need (by exact rfl) _).bind fun _ => hready

/-- So does the report of its addresses. -/
theorem uses_printAddrsOf (event : String) {action : Action} (h : action.Uses fd)
    (answer : Except Errno (List Sockaddr)) :
    Within (Action.Uses fd) (printAddrsOf event (loadAddrs action answer)) :=
  within_printAddrsOf (fun _ => trivial) event (within_loadAddrs h answer)

/-- So does the report of a message. -/
theorem uses_reportMessage (recvCount : Nat) (data : CppString) (stream : UInt16)
    (ppid assocId : UInt32) :
    Within (Action.Uses fd) (reportMessage stack opts fd recvCount data stream ppid assocId) :=
  (within_print (fun _ => trivial) _).bind fun _ =>
    within_onlyIf (uses_printAddrsOf fd "peer_addrs" (by exact rfl) stack.getpaddrs)

/-- So does the loop that receives. -/
theorem uses_receiveMessages (answers : List (Except Errno Delivery)) (recvCount : Nat) :
    Within (Action.Uses fd) (receiveMessages stack opts fd answers recvCount) := by
  induction answers generalizing recvCount with
  | nil =>
      unfold receiveMessages
      split
      · exact Raising.Only.throw _
      · exact Raising.Only.pure _
  | cons answer answers ih =>
      unfold receiveMessages
      split
      · refine (within_need (by exact rfl) answer).bind fun delivery => ?_
        cases delivery with
        | notification type flags =>
            exact (within_print (fun _ => trivial) _).bind fun _ => ih recvCount
        | message data stream ppid assocId =>
            exact (uses_reportMessage stack fd opts _ data stream ppid assocId).bind fun _ =>
              ih (recvCount + 1)
      · exact Raising.Only.pure _

/-- The report of an expected failure uses no descriptor at all. -/
theorem uses_reportExpected (stage : String) :
    Within (Action.Uses fd) (reportExpected strerror stage) := by
  intro process
  exact ⟨[.print (.expectedFailure (str stage) (strerror process.errno))], rfl,
    List.forall_mem_singleton.mpr trivial⟩

/-- The loop that sends uses its descriptor only. -/
theorem uses_sendMessages (assocId : UInt32) (messages : List MessageSpec) (i : Nat) :
    Within (Action.Uses fd) (sendMessages stack strerror opts fd assocId messages i) := by
  induction messages generalizing i with
  | nil => exact Raising.Only.pure _
  | cons message messages ih =>
      unfold sendMessages
      refine (within_call (by exact rfl) _).bind fun answer => ?_
      cases answer with
      | ok value => exact (within_print (fun _ => trivial) _).bind fun _ => ih (i + 1)
      | error errno =>
          dsimp only
          split
          · exact (uses_reportExpected strerror fd _).bind fun _ => Raising.Only.pure _
          · exact Raising.Only.throw _

/-- So does a client that has its connection. -/
theorem uses_runConnected (assocId : UInt32) :
    Within (Action.Uses fd) (runConnected stack strerror opts fd assocId) := by
  have hfatal (message : CppString) : Within (Action.Uses fd)
      (setFatalError message >>= fun _ => (throw Stop.failed : Program Unit)) :=
    (within_setFatalError message).bind fun _ => Raising.Only.throw _
  have hsend (messages : List MessageSpec) :
      Within (Action.Uses fd) (sendAndFinish stack strerror opts fd assocId messages) :=
    (uses_sendMessages stack strerror fd opts assocId messages 0).bind fun sending => by
      cases sending with
      | expectedFailure => exact Raising.Only.pure ()
      | done =>
          dsimp only
          split
          · exact hfatal _
          · exact within_print (fun _ => trivial) _
  unfold runConnected
  split
  · exact hfatal _
  · have hlocal : Within (Action.Uses fd) (printAddrsOf "local_addrs" (loadLaddrs stack fd assocId)) :=
      uses_printAddrsOf fd "local_addrs" (by exact rfl) stack.getladdrs
    have hpeer : Within (Action.Uses fd) (printAddrsOf "peer_addrs" (loadPaddrs stack fd assocId)) :=
      uses_printAddrsOf fd "peer_addrs" (by exact rfl) stack.getpaddrs
    exact (within_onlyIf hlocal).bind fun _ => (within_onlyIf hpeer).bind fun _ =>
      (within_orFail _).bind hsend

/-- So does a client that connects. -/
theorem uses_connectAndRun (addrs : List (Option SockaddrIn)) :
    Within (Action.Uses fd) (connectAndRun stack strerror opts fd addrs) := by
  refine (within_call (by exact rfl) _).bind fun answer => ?_
  cases answer with
  | ok assocId => exact uses_runConnected stack strerror fd opts assocId
  | error errno =>
      dsimp only
      split
      · exact uses_reportExpected strerror fd _
      · exact Raising.Only.throw _

end Uses

/-! ## Opening and closing -/

/-- A function that has been given the descriptor: if it fails it has closed it. -/
inductive Held {α : Type} (fd : Nat) : Except Stop α → List Action → Prop
  | done {uses : List Action} (a : α) (h : ∀ action ∈ uses, action.Uses fd) : Held fd (.ok a) uses
  | closed {uses : List Action} (h : ∀ action ∈ uses, action.Uses fd) :
      Held fd (.error .failed) (uses ++ [.close fd])
  | waiting {uses : List Action} (h : ∀ action ∈ uses, action.Uses fd) :
      Held fd (.error .waiting) uses

/-- A function that has to close the descriptor. -/
inductive Ends (fd : Nat) : Except Stop Unit → List Action → Prop
  | closed {uses : List Action} {outcome : Except Stop Unit} (h : ∀ action ∈ uses, action.Uses fd)
      (houtcome : outcome ≠ .error .waiting) : Ends fd outcome (uses ++ [.close fd])
  | waiting {uses : List Action} (h : ∀ action ∈ uses, action.Uses fd) :
      Ends fd (.error .waiting) uses

/-- A whole program. -/
inductive Finished (stack : Stack) : Except Stop Unit → List Action → Prop
  | nothing : Finished stack (.error .failed) []
  | refused {errno : Errno} (h : stack.socket = .error errno) :
      Finished stack (.error .failed) [.socket]
  | opened {fd : Nat} {outcome : Except Stop Unit} {actions : List Action}
      (h : stack.socket = .ok fd) (hends : Ends fd outcome actions) :
      Finished stack outcome (.socket :: actions)

section Closing

variable {stack : Stack} {fd : Nat} {α : Type}

/-- What uses the descriptor may stand before the end. -/
theorem Ends.after {outcome : Except Stop Unit} {uses actions : List Action}
    (h : Ends fd outcome actions) (huses : ∀ action ∈ uses, action.Uses fd) :
    Ends fd outcome (uses ++ actions) := by
  cases h with
  | closed h houtcome =>
      rw [← List.append_assoc]
      exact .closed (List.forall_mem_append.mpr ⟨huses, h⟩) houtcome
  | waiting h => exact .waiting (List.forall_mem_append.mpr ⟨huses, h⟩)

/-- Closing is the only call that it makes. -/
theorem asks_close (stack : Stack) (fd : Nat) :
    Asks (close stack fd) fun outcome actions => outcome = .ok () ∧ actions = [.close fd] :=
  fun _ => ⟨[.close fd], rfl, rfl, rfl⟩

/-- The descriptor is held while an event is printed. -/
theorem held_print (event : HelperEvent) : Asks (print event) (Held fd) :=
  fun _ => ⟨[.print event], rfl, .done () (List.forall_mem_singleton.mpr trivial)⟩

/-- A failure closes the descriptor. -/
theorem held_orClose {x : Program α} (h : Within (Action.Uses fd) x) :
    Asks (orClose stack fd x) (Held fd) := by
  refine Raising.Adds.catch h (fun a actions hactions => .done a hactions) ?_
  intro stop actions hactions
  cases stop with
  | waiting =>
      refine Raising.Adds.throw ?_
      rw [List.append_nil]
      exact .waiting hactions
  | failed =>
      refine Raising.Adds.bind (asks_close stack fd) ?_ (fun _ _ h => by cases h.1)
      rintro _ _ ⟨-, rfl⟩
      refine Raising.Adds.throw ?_
      rw [List.append_nil]
      exact .closed hactions

/-- It is held through the first part and closed in the second. -/
theorem ends_bind {x : Program α} {f : α → Program Unit} (hx : Asks x (Held fd))
    (hf : ∀ a, Asks (f a) (Ends fd)) : Asks (x >>= f) (Ends fd) := by
  refine Raising.Adds.bind hx ?_ ?_
  · rintro a actions ⟨-, huses⟩
    exact (hf a).mono fun outcome actions' h => h.after huses
  · intro stop actions h
    cases h with
    | closed h => exact .closed h (by simp)
    | waiting h => exact .waiting h

/-- It is closed by the last call. -/
theorem ends_close (stack : Stack) (fd : Nat) : Asks (close stack fd) (Ends fd) := by
  refine (asks_close stack fd).mono ?_
  rintro _ _ ⟨rfl, rfl⟩
  have hclosed : Ends fd (.ok ()) ([] ++ [.close fd]) := .closed (List.forall_mem_nil _) (by simp)
  exact hclosed

end Closing

/-! ## The programs -/

section Programs

variable (stack : Stack) (strerror : Errno → CppString) (opts : Options)

/-- A program that needs a value before it opens the socket. -/
theorem finished_orFail {α : Type} (value : Option α) {f : α → Program Unit}
    (hf : ∀ a, Asks (f a) (Finished stack)) : Asks (orFail value >>= f) (Finished stack) := by
  cases value with
  | some a =>
      refine Raising.Adds.bind (P := fun outcome actions => outcome = .ok a ∧ actions = []) ?_ ?_ ?_
      · exact Raising.Adds.pure ⟨rfl, rfl⟩
      · rintro _ _ ⟨⟨⟩, rfl⟩
        exact hf a
      · rintro _ _ ⟨⟨⟩, -⟩
  | none =>
      refine Raising.Adds.bind (P := fun outcome actions => outcome = .error .failed ∧ actions = [])
        ?_ ?_ ?_
      · exact Raising.Adds.throw ⟨rfl, rfl⟩
      · rintro _ _ ⟨⟨⟩, -⟩
      · rintro _ _ ⟨⟨⟩, rfl⟩
        exact .nothing

/-- A program asks for a socket, and the rest closes it. -/
theorem finished_socket {f : Nat → Program Unit} (hf : ∀ fd, Asks (f fd) (Ends fd)) :
    Asks (need .socket stack.socket >>= f) (Finished stack) := by
  intro process
  cases hsocket : stack.socket with
  | error errno => exact ⟨[.socket], rfl, .refused hsocket⟩
  | ok fd =>
      obtain ⟨actions, hactions, hends⟩ :=
        hf fd { process with actions := process.actions ++ [.socket] }
      refine ⟨.socket :: actions, ?_, .opened hsocket ?_⟩
      · rw [List.append_cons]
        exact hactions
      · exact hends

/-- A server does so. -/
theorem finished_runServer : Asks (runServer stack opts) (Finished stack) := by
  unfold runServer startServer
  simp only [bind_assoc, pure_bind]
  refine finished_orFail stack _ fun raw => finished_orFail stack _ fun given =>
    finished_socket stack fun fd => ?_
  refine ends_bind (held_orClose (within_options stack (by exact fun _ => rfl) opts)) fun _ => ?_
  refine ends_bind (held_orClose (uses_bindAndListen stack fd _ _)) fun localAddrs => ?_
  refine ends_bind (held_print _) fun _ => ?_
  refine ends_bind (held_orClose (uses_receiveMessages stack fd opts _ 0)) fun recvCount => ?_
  exact ends_bind (held_print _) fun _ => ends_close stack fd

/-- So does a client. -/
theorem finished_runClient : Asks (runClient stack strerror opts) (Finished stack) := by
  unfold runClient startClient
  simp only [bind_assoc, pure_bind]
  refine finished_orFail stack _ fun raw => finished_orFail stack _ fun given =>
    finished_socket stack fun fd => ?_
  refine ends_bind (held_orClose (within_options stack (by exact fun _ => rfl) opts)) fun _ => ?_
  exact ends_bind (held_orClose (uses_connectAndRun stack strerror fd opts _)) fun _ =>
    ends_close stack fd

/-- The end of the process makes no call. -/
theorem calls_finish (outcome : Except Stop Unit) (process : Process) :
    (finish strerror (outcome, process)).calls = process.actions.filter Action.isCall := by
  unfold Ran.calls
  rcases outcome with (_ | _) | _
  · exact (List.filter_append _ _).trans (List.append_nil _)
  · rfl
  · rfl

/-- The calls among such actions use the descriptor, too. -/
theorem uses_calls {fd : Nat} {uses : List Action}
    (h : ∀ action ∈ uses, action.Uses fd) :
    ∀ action ∈ uses.filter Action.isCall, action.Uses fd :=
  fun action haction => h action (List.mem_of_mem_filter haction)

/-- What a process asks of the stack that runs such a program. -/
theorem Finished.calls {x : Program Unit} (h : Asks x (Finished stack)) :
    let ran := finish strerror (x.run.run {})
    ran.calls = [] ∧ ran.exitCode ≠ none ∨
      (∃ errno, stack.socket = .error errno) ∧ ran.calls = [.socket] ∧ ran.exitCode ≠ none ∨
      ∃ fd uses, stack.socket = .ok fd ∧ (∀ action ∈ uses, action.Uses fd) ∧
        ran.calls = .socket :: (uses ++ if ran.exitCode = none then [] else [.close fd]) := by
  obtain ⟨actions, hactions, hfinished⟩ := h {}
  rcases hrun : x.run.run ({} : Process) with ⟨outcome, process⟩
  rw [hrun] at hactions hfinished
  have hcalls : (finish strerror (outcome, process)).calls = actions.filter Action.isCall := by
    rw [calls_finish]
    exact congrArg (List.filter Action.isCall) hactions
  intro ran
  cases hfinished with
  | nothing => exact .inl ⟨hcalls, by simp [ran, finish]⟩
  | refused hsocket => exact .inr (.inl ⟨⟨_, hsocket⟩, hcalls, by simp [ran, finish]⟩)
  | opened hsocket hends =>
      refine .inr (.inr ?_)
      cases hends with
      | closed huses houtcome =>
          refine ⟨_, _, hsocket, uses_calls huses, ?_⟩
          have hexit : ran.exitCode ≠ none := by
            rcases outcome with (_ | _) | _
            · simp [ran, finish]
            · exact absurd rfl houtcome
            · simp [ran, finish]
          rw [if_neg hexit]
          refine hcalls.trans ?_
          rw [List.filter_cons_of_pos rfl, List.filter_append]
          rfl
      | waiting huses =>
          refine ⟨_, _, hsocket, uses_calls huses, ?_⟩
          have hexit : ran.exitCode = none := rfl
          rw [if_pos hexit, List.append_nil]
          exact hcalls

/-- A process asks the stack for at most one socket.  If it gets one, every further call is on
its descriptor, and the last one closes it, once, however the process ends; only a process that
waits for ever does not close it.  If the stack refuses, the process ends without another call. -/
theorem socket_closed_once (args : List CppString) :
    let ran := main stack strerror args
    ran.calls = [] ∧ ran.exitCode ≠ none ∨
      (∃ errno, stack.socket = .error errno) ∧ ran.calls = [.socket] ∧ ran.exitCode ≠ none ∨
      ∃ fd uses, stack.socket = .ok fd ∧ (∀ action ∈ uses, action.Uses fd) ∧
        ran.calls = .socket :: (uses ++ if ran.exitCode = none then [] else [.close fd]) := by
  have husage : usage.calls = [] ∧ usage.exitCode ≠ none := ⟨rfl, by simp [usage]⟩
  unfold main
  cases parseOptions args with
  | none => exact .inl husage
  | some opts =>
      dsimp only
      split
      · exact Finished.calls stack strerror (finished_runServer stack opts)
      · split
        · exact Finished.calls stack strerror (finished_runClient stack strerror opts)
        · exact .inl husage

end Programs

end SctpConformance.FreebsdHelper
