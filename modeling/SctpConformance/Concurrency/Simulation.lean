import SctpConformance.Concurrency.Activation
import SctpConformance.Concurrency.Serial

/-!
# The sequential server is a schedule of the concurrent one

Every list of timed events has a run of the concurrent server in which each handler runs to
its end before anything else happens.  The run answers the same requests with the same
responses, and ends with the same shared state and the same workers.

In a list of events the outcome of every call is free; the concurrent server lets a send on
a closed descriptor fail, as the system does.

Main results:

- Theorem `alone_advance`: a worker that runs alone up to its next call.
- Theorem `Stands.step`: one event.
- Theorem `sequential_run_realised`: the run of a list of timed events.
-/

namespace SctpConformance

open Library

variable {c : Catalog} {host : Host} {σ τ : Shared c} {x : Target c} {now : TimePoint}
variable {s : Sequential c} {next : WorkerStep}

/-! ## Workers -/

/-- Sends are made by the worker that has messages to send, and receives by the others. -/
def WorkerStep.Apt : WorkerStep → Prop
  | .receive (.sendMessages ..) => False
  | .receive _ => True
  | .send (.sendMessages ..) => True
  | .send _ => False
  | .markFailed _ => True
  | .markNetworkComplete => True

/-- The section in which a worker stands while it waits for its call to return. -/
def WorkerStep.call (x : Target c) : WorkerStep → Section c
  | .receive state => .receiving x state
  | next => next.toSection x

/-- The loop goes on with receives. -/
theorem apt_receiveLoop (fd : Nat) (expected : List MessageSpec) (count matched : Nat)
    (checked : Bool) : (receiveLoop fd expected count matched checked).Apt := by
  unfold receiveLoop
  split <;> exact trivial

/-- So does the loop over several sockets. -/
theorem apt_receiveMultiTargetLoop (fds : List Nat) (expected : List MessageSpec) (i : Nat) :
    (receiveMultiTargetLoop fds expected i).Apt := by
  unfold receiveMultiTargetLoop
  split <;> exact trivial

/-- The loop that sends goes on with sends. -/
theorem apt_sendLoop (fd : Nat) (assocId : UInt32) (messages : List MessageSpec) :
    (sendLoop fd assocId messages).Apt := by
  cases messages <;> exact trivial

/-- Every worker starts with a call that suits it. -/
theorem apt_start (worker : Worker) : worker.start.Apt := by
  cases worker with
  | receive fd expected count => exact apt_receiveLoop fd expected count 0 false
  | prReceive fd expected =>
      simp only [Worker.start]
      split <;> exact trivial
  | receiveMultiTarget fds expected =>
      simp only [Worker.start]
      split
      · exact trivial
      · exact apt_receiveMultiTargetLoop fds expected 0
  | sendAfterTrigger fd trigger messages => exact trivial

/-- After a receive the next call suits the worker. -/
theorem apt_onReceive (host : Host) (featureId : CppString) {state : WorkerState}
    (h : (WorkerStep.receive state).Apt) (outcome : ReceiveOutcome) :
    (state.onReceive host featureId outcome).Apt := by
  cases state with
  | receive fd expected count matched checked =>
      cases outcome with
      | error errno => exact trivial
      | notification => exact trivial
      | data payload stream ppid assocId endOfRecord peerAddrs =>
          simp only [WorkerState.onReceive]
          split
          · exact trivial
          · split
            · split
              · exact trivial
              · exact apt_receiveLoop ..
            · exact apt_receiveLoop ..
  | prReceive fd expected sawSkipped sawFinal =>
      cases outcome with
      | error errno =>
          simp only [WorkerState.onReceive]
          split
          · split <;> exact trivial
          · exact trivial
      | notification => exact trivial
      | data payload stream ppid assocId endOfRecord peerAddrs =>
          simp only [WorkerState.onReceive]
          split
          · exact trivial
          · split <;> exact trivial
  | receiveMultiTarget fds expected i =>
      cases outcome with
      | error errno => exact trivial
      | notification => exact trivial
      | data payload stream ppid assocId endOfRecord peerAddrs =>
          simp only [WorkerState.onReceive]
          split
          · exact trivial
          · exact apt_receiveMultiTargetLoop ..
  | awaitTrigger fd trigger messages =>
      cases outcome with
      | error errno => exact trivial
      | notification => exact trivial
      | data payload stream ppid assocId endOfRecord peerAddrs =>
          simp only [WorkerState.onReceive]
          split
          · exact trivial
          · exact apt_sendLoop ..
  | sendMessages fd assocId messages => exact h.elim

/-- So does the next call after a send. -/
theorem apt_onSend (host : Host) {state : WorkerState} (h : (WorkerStep.send state).Apt)
    (outcome : SendOutcome) : (state.onSend host outcome).Apt := by
  cases state with
  | sendMessages fd assocId messages =>
      cases outcome with
      | some errno => exact trivial
      | none => exact apt_sendLoop ..
  | _ => exact h.elim

/-- Whatever a worker gets, its next call suits it. -/
theorem WorkerStep.Apt.advance (h : next.Apt) (host : Host) (featureId : CppString)
    (input : WorkerInput) : (next.advance host featureId input).Apt := by
  cases next with
  | receive state =>
      cases input with
      | received outcome => exact apt_onReceive host featureId h outcome
      | sent outcome => exact h
  | send state =>
      cases input with
      | received outcome => exact h
      | sent outcome => exact apt_onSend host h outcome
  | markFailed message => exact h
  | markNetworkComplete => exact h

/-- A receive on a closed descriptor is the end of a worker. -/
theorem onReceive_ebadf (host : Host) (featureId : CppString) {state : WorkerState}
    (h : (WorkerStep.receive state).Apt) :
    ∃ message, state.onReceive host featureId (.error .ebadf) = .markFailed message := by
  cases state with
  | sendMessages fd assocId messages => exact h.elim
  | prReceive fd expected sawSkipped sawFinal => simp [WorkerState.onReceive, receiveError]
  | _ => exact ⟨_, rfl⟩

/-- So is a send. -/
theorem onSend_ebadf (host : Host) {state : WorkerState} (h : (WorkerStep.send state).Apt) :
    ∃ message, state.onSend host (some .ebadf) = .markFailed message := by
  cases state with
  | sendMessages fd assocId messages => exact ⟨_, rfl⟩
  | _ => exact h.elim

namespace Alone

/-- A feature fails and is cleaned up. -/
theorem markFailed (now : TimePoint) (x : Target c) (message : CppString) :
    Alone host σ [.markFailed x message] [] (σ.markFailed now x message) [] [] := by
  unfold Shared.markFailed
  cases hfail : (σ.execution x).fail message now with
  | none =>
      refine Solo.section_done (.at now) ?_
      simp [server, exec, Input.at, hfail]
  | some e =>
      refine Solo.section_next (.at now) (σ.setExecution x e)
        (SctpConformance.finish x) ?_ rfl (finish x)
      simp [server, exec, Input.at, hfail]

/-- A worker has seen all, and the feature is cleaned up if it has passed. -/
theorem markNetworkComplete (now : TimePoint) (x : Target c) :
    Alone host σ [.markNetworkComplete x] [] (σ.markNetworkComplete now x) [] [] := by
  unfold Shared.markNetworkComplete
  rcases hobserve : (σ.execution x).observe (c.definition x.feature) now with _ | ⟨e, finished⟩
  · refine Solo.section_done (.at now) ?_
    simp [server, exec, Input.at, hobserve]
  · refine Solo.section_next (.at now) (σ.setExecution x e)
      (if finished then SctpConformance.finish x else [.takeActiveFds x]) ?_ rfl ?_
    · simp [server, exec, Input.at, hobserve]
    · cases finished with
      | true => exact finish x
      | false => exact takeActiveFds x

end Alone

/-- What a worker that has gone on alone still has to run: its call, unless it has ended. -/
def WorkerStep.rest (x : Target c) (next : WorkerStep) : List (Section c) :=
  (next.waiting.map (WorkerStep.call x)).toList

/-- A worker whose next step is no call, or a call on an open descriptor. -/
theorem alone_settled {σ : Shared c} {workers : Target c → Option WorkerStep}
    (hcall : next.closedCall host (c.id x.feature) σ = next) :
    Alone host σ [next.call x] []
      (Sequential.advance host now { shared := σ, workers := workers } x next).shared
      (next.rest x) [] := by
  unfold Sequential.advance
  dsimp only
  rw [hcall]
  cases next with
  | receive state => exact .stop σ _
  | send state => exact .stop σ _
  | markFailed message => exact Alone.markFailed now x message
  | markNetworkComplete => exact Alone.markNetworkComplete now x

/-- A worker runs alone up to its next call. -/
theorem alone_advance (hapt : next.Apt) (host : Host) (now : TimePoint) (s : Sequential c)
    (x : Target c) :
    Alone host s.shared [next.toSection x] [] (s.advance host now x next).shared
      ((next.closedCall host (c.id x.feature) s.shared).rest x) [] := by
  -- a call on a closed descriptor makes it `markFailed`
  have hclosed : ∀ message, next.closedCall host (c.id x.feature) s.shared = .markFailed message →
      (server host).exec s.shared (next.toSection x) (.at now) =
        { shared := s.shared, next := [.markFailed x message] } →
      Alone host s.shared [next.toSection x] [] (s.advance host now x next).shared
        ((next.closedCall host (c.id x.feature) s.shared).rest x) [] := by
    intro message hcall hexec
    have hend : Alone host s.shared [.markFailed x message] []
        (s.shared.markFailed now x message) [] [] := Alone.markFailed now x message
    unfold Sequential.advance
    rw [hcall]
    refine Solo.section_next (.at now) _ _ hexec ?_ hend
    cases next <;> rfl
  cases next with
  | receive state =>
      cases hlookup : s.shared.descriptors.lookup state.fd with
      | none =>
          rcases onReceive_ebadf host (c.id x.feature) hapt with ⟨message, hmessage⟩
          refine hclosed message ?_ ?_
          · simp [WorkerStep.closedCall, hlookup, hmessage]
          · simp [server, exec, WorkerStep.toSection, hlookup, hmessage]
      | some descriptor =>
          have hcall : (WorkerStep.receive state).closedCall host (c.id x.feature) s.shared =
              .receive state := by
            simp [WorkerStep.closedCall, hlookup]
          rw [hcall]
          refine Solo.section_next (.at now) (s.shared)
            [.receiving x state] ?_ rfl (alone_settled hcall)
          simp [server, exec, WorkerStep.toSection, hlookup]
  | send state =>
      cases hlookup : s.shared.descriptors.lookup state.fd with
      | none =>
          rcases onSend_ebadf host hapt with ⟨message, hmessage⟩
          refine hclosed message ?_ ?_
          · simp [WorkerStep.closedCall, hlookup, hmessage]
          · simp [server, exec, WorkerStep.toSection, hlookup, hmessage]
      | some descriptor =>
          have hcall : (WorkerStep.send state).closedCall host (c.id x.feature) s.shared =
              .send state := by
            simp [WorkerStep.closedCall, hlookup]
          rw [hcall]
          exact alone_settled hcall
  | markFailed message =>
      have hcall : (WorkerStep.markFailed message).closedCall host (c.id x.feature) s.shared =
          .markFailed message := rfl
      exact alone_settled hcall
  | markNetworkComplete =>
      have hcall : WorkerStep.markNetworkComplete.closedCall host (c.id x.feature) s.shared =
          .markNetworkComplete := rfl
      exact alone_settled hcall

/-- A send on a closed descriptor fails as the system lets it fail. -/
def WorkerStep.Honest (σ : Shared c) (next : WorkerStep) (input : WorkerInput) : Prop :=
  ∀ state outcome, next = .send state → input = .sent outcome →
    σ.descriptors.lookup state.fd = none → outcome = some .ebadf

/-- The call of a worker returns, and the worker runs alone up to its next call. -/
theorem alone_worker (hapt : next.Apt) (host : Host) (now : TimePoint) (s : Sequential c)
    (x : Target c) {input : WorkerInput} (hhonest : next.Honest s.shared input) :
    Alone host s.shared [next.call x] []
      (s.advance host now x (next.advance host (c.id x.feature) input)).shared
      (((next.advance host (c.id x.feature) input).closedCall host (c.id x.feature)
        s.shared).rest x) [] := by
  cases next with
  | receive state =>
      cases input with
      | received outcome =>
          refine Solo.section_next { received := outcome } s.shared
            [(state.onReceive host (c.id x.feature) outcome).toSection x] rfl rfl ?_
          exact alone_advance (apt_onReceive host _ hapt outcome) host now s x
      | sent outcome =>
          cases hlookup : s.shared.descriptors.lookup state.fd with
          | none =>
              -- the call that is under way may fail as a new one would
              rcases onReceive_ebadf host (c.id x.feature) hapt with ⟨message, hmessage⟩
              have hcall : (WorkerStep.receive state).closedCall host (c.id x.feature) s.shared =
                  .markFailed message := by
                simp [WorkerStep.closedCall, hlookup, hmessage]
              unfold Sequential.advance WorkerStep.advance
              dsimp only
              rw [hcall]
              refine Solo.section_next { received := .error .ebadf } s.shared
                [.markFailed x message] ?_ rfl (Alone.markFailed now x message)
              simp [server, exec, WorkerStep.call, hmessage, WorkerStep.toSection]
          | some descriptor =>
              have hcall : (WorkerStep.receive state).closedCall host (c.id x.feature) s.shared =
                  .receive state := by
                simp [WorkerStep.closedCall, hlookup]
              unfold WorkerStep.advance
              rw [hcall]
              exact alone_settled hcall
  | send state =>
      cases input with
      | received outcome => exact alone_advance hapt host now s x
      | sent outcome =>
          have hsent : Alone host s.shared [(WorkerStep.send state).call x] []
              s.shared [(state.onSend host outcome).toSection x] [] := by
            cases hlookup : s.shared.descriptors.lookup state.fd with
            | none =>
                cases hhonest state outcome rfl rfl hlookup
                refine Solo.section_next {} s.shared _ ?_ rfl (.stop _ _)
                simp [server, exec, WorkerStep.call, WorkerStep.toSection, hlookup]
            | some descriptor =>
                refine Solo.section_next { sent := outcome } s.shared _ ?_ rfl (.stop _ _)
                simp [server, exec, WorkerStep.call, WorkerStep.toSection, hlookup]
          exact hsent.trans (alone_advance (apt_onSend host hapt outcome) host now s x)
  | markFailed message =>
      have hcall : (WorkerStep.markFailed message).closedCall host (c.id x.feature) s.shared =
          .markFailed message := rfl
      exact alone_settled hcall
  | markNetworkComplete =>
      have hcall : WorkerStep.markNetworkComplete.closedCall host (c.id x.feature) s.shared =
          .markNetworkComplete := rfl
      exact alone_settled hcall

/-! ## Events -/

namespace Sequential

/-- The calls that workers wait for. -/
def waiting (s : Sequential c) (x : Target c) : Option (Section c) :=
  (s.workers x).map (WorkerStep.call x)

/-- Only this worker waits for something else. -/
theorem waiting_advance (s : Sequential c) (now : TimePoint) (x : Target c) (next : WorkerStep) :
    (s.advance host now x next).waiting = Function.update s.waiting x
      ((next.closedCall host (c.id x.feature) s.shared).waiting.map (WorkerStep.call x)) := by
  funext y
  unfold waiting
  rw [workers_advance]
  by_cases hy : y = x
  · subst hy
    simp
  · simp [hy]

/-- The responses to the requests of a list of events. -/
def responses (host : Host) : Sequential c → List (Timed c) → List HttpResponse
  | _, [] => []
  | s, timed :: events =>
      (match timed.event with
      | .request request calls => [(s.handle host timed.now request calls).2]
      | .worker _ _ => []) ++ responses host (s.step host timed) events

/-- Sends on closed descriptors fail. -/
def Honest (host : Host) : Sequential c → List (Timed c) → Prop
  | _, [] => True
  | s, timed :: events =>
      (∀ x input next, timed.event = .worker x input → s.workers x = some next →
        next.Honest s.shared input) ∧ Honest host (s.step host timed) events

/-- What the workers do next is known to be apt. -/
def Apt (s : Sequential c) : Prop :=
  ∀ x next, s.workers x = some next → next.Apt

end Sequential

/-- A feature whose worker is launched had none before. -/
theorem Orderly.launched (h : Orderly s) {request : Request c} {calls : List SocketCalls}
    (hlaunched : (handleRequest host now (s.shared.openDescriptor .other) request calls).launched =
      some (x, next)) : s.workers x = none ∧ next.Apt := by
  cases (handleRequest_launched hlaunched).1
  unfold handleRequest at hlaunched
  dsimp only at hlaunched
  by_cases hadmitted : Admitted host (((s.shared.openDescriptor .other).maybeTimeout now
      x).maybeTimeout now x) x calls
  · rcases startFeature_admitted host _ x now calls hadmitted with ⟨τ, sockets, -, hstart⟩
    rw [hstart] at hlaunched
    rcases Option.map_eq_some_iff.mp hlaunched with ⟨worker, -, heq⟩
    cases heq
    refine ⟨?_, apt_start worker⟩
    rw [maybeTimeout_maybeTimeout] at hadmitted
    have hpending := ((admitted_iff h.tidy calls).mp hadmitted).1
    cases hworker : s.workers x with
    | none => rfl
    | some other => exact absurd hpending (h.started x other hworker)
  · rw [(startFeature_not_admitted host _ x now calls hadmitted).1] at hlaunched
    contradiction

namespace Sequential.Apt

/-- A worker that goes on keeps the calls apt. -/
theorem advance (h : s.Apt) (hapt : next.Apt) (host : Host) (now : TimePoint) (x : Target c) :
    (s.advance host now x next).Apt := by
  intro y waiting hy
  rw [workers_advance] at hy
  by_cases hyx : y = x
  · subst hyx
    rw [Function.update_self] at hy
    -- what a call on a closed descriptor leads to is apt as well
    have hclosed : (next.closedCall host (c.id y.feature) s.shared).Apt := by
      cases next with
      | receive state =>
          simp only [WorkerStep.closedCall]
          split
          · exact apt_onReceive host _ hapt _
          · exact hapt
      | send state =>
          simp only [WorkerStep.closedCall]
          split
          · exact apt_onSend host hapt _
          · exact hapt
      | markFailed message => exact hapt
      | markNetworkComplete => exact hapt
    cases hcall : next.closedCall host (c.id y.feature) s.shared <;> rw [hcall] at hy hclosed <;>
      cases hy <;> exact hclosed
  · rw [Function.update_of_ne hyx] at hy
    exact h y waiting hy

/-- So does every event. -/
theorem step (h : s.Apt) (horderly : Orderly s) (host : Host) (timed : Timed c) :
    (s.step host timed).Apt := by
  unfold Sequential.step
  cases timed.event with
  | request request calls =>
      dsimp only
      unfold Sequential.handle
      dsimp only
      cases hlaunched : (handleRequest host timed.now (s.shared.openDescriptor .other) request
          calls).launched with
      | none => exact h
      | some launched =>
          rcases launched with ⟨x, next⟩
          have hkept : Sequential.Apt { s with
              shared := (handleRequest host timed.now (s.shared.openDescriptor .other) request
                calls).shared.closeDescriptor s.shared.descriptors.lowestFree } := h
          exact hkept.advance (horderly.launched hlaunched).2 host timed.now x
  | worker x input =>
      dsimp only
      cases hnext : s.workers x with
      | none => exact h
      | some next => exact h.advance ((h x next hnext).advance host _ input) host timed.now x

end Sequential.Apt

/-! ## Runs -/

/-- What clients get in a run of the server, in the order in which it is sent. -/
def answers (run : List (ServerTransition c)) : List HttpResponse :=
  run.filterMap fun t => t.head?.bind Section.answer

/-- One event is a run of the concurrent server. -/
theorem Stands.step {p : ServerState c} {place : Target c → Nat}
    (h : p.Stands s.shared s.waiting place) (horderly : Orderly s) (hapt : s.Apt)
    {timed : Timed c} (hhonest : ∀ x input next, timed.event = .worker x input →
      s.workers x = some next → next.Honest s.shared input) :
    ∃ (run : List (ServerTransition c)) (p' : ServerState c) (place' : Target c → Nat),
      ServerRun host p run p' ∧ answers run = s.responses host [timed] ∧
        p'.Stands (s.step host timed).shared (s.step host timed).waiting place' := by
  unfold Sequential.responses Sequential.responses Sequential.step
  cases hevent : timed.event with
  | request request calls =>
      dsimp only
      have hsolo := alone_handleRequest host timed.now (s.shared.openDescriptor .other) request calls
        s.shared.descriptors.lowestFree
      unfold Sequential.handle
      dsimp only
      cases hlaunched : (handleRequest host timed.now (s.shared.openDescriptor .other) request
          calls).launched with
      | none =>
          rw [hlaunched] at hsolo
          rcases h.arrive request hsolo with
            ⟨run, p', hrun, hseen, hstands⟩
          exact ⟨run, p', place, hrun, hseen, hstands⟩
      | some launched =>
          rcases launched with ⟨x, next⟩
          rw [hlaunched] at hsolo
          rcases horderly.launched hlaunched with ⟨hidle, hnext⟩
          have hwaiting : s.waiting x = none := by simp [Sequential.waiting, hidle]
          rcases h.arrive_launch request hwaiting hsolo with
            ⟨run, p', hrun, hseen, hstands⟩
          -- the worker takes its first step after the handler has ended
          have hworker := alone_advance hnext host timed.now { s with
            shared := (handleRequest host timed.now (s.shared.openDescriptor .other) request
              calls).shared.closeDescriptor s.shared.descriptors.lowestFree } x
          rcases hstands.goOn (Function.update_self ..) hworker with
            ⟨run', p'', hrun', hseen', hstands'⟩
          refine ⟨run ++ run', p'', Function.update place x (p.count + 1), hrun.append hrun', ?_, ?_⟩
          · unfold answers
            rw [List.filterMap_append, hseen, hseen']
          · dsimp only
            rw [Sequential.waiting_advance]
            rw [Function.update_idem] at hstands'
            exact hstands'
  | worker x input =>
      dsimp only
      cases hnext : s.workers x with
      | none => exact ⟨[], p, place, .nil p, rfl, h⟩
      | some next =>
          have hwaiting : s.waiting x = some (next.call x) := by simp [Sequential.waiting, hnext]
          rcases h.goOn hwaiting (alone_worker (hapt x next hnext) host timed.now s x
              (hhonest x input next hevent hnext)) with ⟨run, p', hrun, hseen, hstands⟩
          refine ⟨run, p', place, hrun, hseen, ?_⟩
          dsimp only
          rw [Sequential.waiting_advance]
          exact hstands

/-- A list of events is a run, from any state in which the workers stand. -/
theorem Stands.run {p : ServerState c} {place : Target c → Nat}
    (h : p.Stands s.shared s.waiting place) (horderly : Orderly s) (hapt : s.Apt)
    {events : List (Timed c)} (hhonest : s.Honest host events) :
    ∃ (run : List (ServerTransition c)) (last : ServerState c) (place' : Target c → Nat),
      ServerRun host p run last ∧ answers run = s.responses host events ∧
        last.Stands (s.run host events).shared (s.run host events).waiting place' := by
  induction events generalizing s p place with
  | nil => exact ⟨[], p, place, .nil p, rfl, h⟩
  | cons timed events ih =>
      rcases Stands.step h horderly hapt hhonest.1 with ⟨run, p', place', hrun, hseen, hstands⟩
      rcases ih hstands (horderly.step host timed) (hapt.step horderly host timed) hhonest.2 with
        ⟨run', last, place'', hrun', hseen', hlast⟩
      refine ⟨run ++ run', last, place'', hrun.append hrun', ?_, hlast⟩
      have hfirst : s.responses host (timed :: events) =
          s.responses host [timed] ++ (s.step host timed).responses host events := by
        simp [Sequential.responses]
      rw [hfirst, ← hseen, ← hseen', answers, answers, answers, List.filterMap_append]

/-- Every list of timed events has a run of the concurrent server that gives the same
responses, and leaves the same state and the same workers. -/
theorem sequential_run_realised (host : Host) (hinitial : s.Initial) {events : List (Timed c)}
    (hhonest : s.Honest host events) {p : ServerState c} (hp : Initial p)
    (hshared : p.shared = s.shared) :
    ∃ (run : List (ServerTransition c)) (last : ServerState c) (place : Target c → Nat),
      ServerRun host p run last ∧ answers run = s.responses host events ∧
        last.Stands (s.run host events).shared (s.run host events).waiting place := by
  have hidle : ∀ x, s.waiting x = none := by
    intro x
    simp [Sequential.waiting, hinitial.idle x]
  have hstands : p.Stands s.shared s.waiting (fun _ => 0) := by
    refine ⟨hshared, ?_, ?_, ?_⟩
    · intro x t hx
      rw [hidle x] at hx
      contradiction
    · intro i hi
      exact absurd (hp.quiet i) hi
    · intro x y hx
      exact absurd (hidle x) hx
  have hapt : s.Apt := by
    intro x next hnext
    rw [hinitial.idle x] at hnext
    contradiction
  exact Stands.run hstands (orderly_of_initial hinitial) hapt hhonest

/-- multi_message_boundary is started, passes, and is polled. -/
def passedRun : List (Timed sampleCatalog) :=
  [⟨0, .request (.feature multiMessage .start) []⟩,
    ⟨seconds 1, .worker multiMessage (.received .notification)⟩,
    ⟨seconds 2, .worker multiMessage (.received (.data (str "alpha") 1 100 7 true []))⟩,
    ⟨seconds 3, .worker multiMessage (.received (.data (str "beta") 1 101 7 true []))⟩,
    ⟨seconds 4, .request (.feature multiMessage .get) []⟩]

theorem passedRun_realised :
    ((sampleServer.run sampleHost passedRun).shared.execution multiMessage).state = .passed ∧
      ∃ (run : List (ServerTransition sampleCatalog)) (last : ServerState sampleCatalog)
        (place : Target sampleCatalog → Nat),
        ServerRun sampleHost sampleStart run last ∧
          answers run = sampleServer.responses sampleHost passedRun ∧
          last.Stands (sampleServer.run sampleHost passedRun).shared
            (sampleServer.run sampleHost passedRun).waiting place := by
  refine ⟨by decide, ?_⟩
  refine sequential_run_realised sampleHost sampleServer_initial ?_ sampleStart_initial rfl
  -- no message is sent
  refine ⟨?_, ?_, ?_, ?_, ?_, trivial⟩ <;> intro x input next hevent _ state outcome _ hsent <;>
    cases hevent <;> cases hsent

end SctpConformance
