import SctpConformance.Library.Solo
import SctpConformance.Sequential.Runs

/-!
# Handlers that run alone

A handler whose sections run one after the other, with no other thread in between, does
what the plain function of the same name says: it answers the same, leaves the same shared
state, and launches the same worker.

Main results:

- Theorems `Alone.createSockets_ok` and `Alone.createSockets_error`: the sockets of a start.
- Theorem `alone_handleRequest`: the handler of any request.
-/

namespace SctpConformance

open Library

variable {c : Catalog} {host : Host} {σ τ : Shared c} {x : Target c} {now : TimePoint}

/-! ## Stretches of one thread -/

/-- What a section sends to its client: a response, or an event of the summary stream. -/
def Section.answer : Section c → Option HttpResponse
  | .respond _ response => some response
  | .writeEvent _ _ event => some { body := event }
  | _ => none

/-- A thread of the server that runs alone, seen by its client. -/
abbrev Alone (host : Host) (σ : Shared c) (program : List (Section c))
    (answers : List HttpResponse) (τ : Shared c) (rest : List (Section c))
    (launched : List (List (Section c))) : Prop :=
  Solo (server host) Section.answer σ program answers τ rest launched

/-- Every reading of the clock gives the same time, and no write to a stream succeeds. -/
def Input.at (now : TimePoint) : Input where
  now := now
  finished := now
  written := false

/-- What a handler has launched, as programs of new threads. -/
def launchedPrograms : Option (Target c × WorkerStep) → List (List (Section c))
  | none => []
  | some (x, next) => [[next.toSection x]]

/-! ## The parts of a start -/

namespace Shared

variable (σ : Shared c)

/-- The contract of a feature is stored. -/
def setContract (x : Target c) (contract : CppString) : Shared c :=
  σ.setExecution x { σ.execution x with contractJson := contract }

/-- The message of a feature is adjusted. -/
def adjustMessage (x : Target c) : Shared c :=
  σ.setExecution x ((σ.execution x).adjustMessage (c.definition x.feature))

/-- `StartFeature` from the entry in the session on. -/
def enter (x : Target c) (sockets : List ListeningSocket) : Shared c :=
  ((σ.setActiveId x.session (c.id x.feature)).setContract x (buildContract
    (c.definition x.feature) ((c.definition x.feature).connectAddrs sockets))).adjustMessage x

end Shared

/-- An activation is made of three steps. -/
theorem activateScenario_eq (now : TimePoint) (σ : Shared c) (x : Target c)
    (sockets : List ListeningSocket) :
    activateScenario now σ x sockets =
      (let σ := σ.setExecution x ((σ.execution x).activate (c.definition x.feature) now)
      if (c.definition x.feature).scenarioKind = .agentOnly then σ
      else σ.setExecution x { σ.execution x with
        activeFds := sockets.map ListeningSocket.fd }).enter x sockets :=
  rfl

namespace Alone

/-- One section for each socket. -/
theorem closeFds (fds : List Nat) :
    Alone host σ (fds.map (.closeFd x)) [] (σ.closeFds fds) [] [] := by
  induction fds generalizing σ with
  | nil => exact .stop σ []
  | cons fd fds ih => exact (Solo.section_done (.at 0) rfl).seq ih

/-- The sockets are taken and closed. -/
theorem takeActiveFds (x : Target c) :
    Alone host σ [.takeActiveFds x] [] (σ.closeActiveFds x) [] [] := by
  refine Solo.section_next (.at 0) _ _ rfl rfl ?_
  exact closeFds (σ.execution x).activeFds

/-- A single section. -/
theorem clearActiveFeature (x : Target c) :
    Alone host σ [.clearActiveFeature x] [] (σ.clearActiveFeature x) [] [] :=
  Solo.section_done (.at 0) rfl

/-- The end of a feature, with all its sockets. -/
theorem finish (x : Target c) : Alone host σ (finish x) [] (σ.finish x) [] [] :=
  (takeActiveFds x).seq (clearActiveFeature x)

/-- The deadline is applied, and the feature cleaned up if it has passed. -/
theorem maybeTimeout (now : TimePoint) (x : Target c) :
    Alone host σ [.maybeTimeout x] [] (σ.maybeTimeout now x) [] [] := by
  unfold Shared.maybeTimeout
  cases htimeout : (σ.execution x).timeOut now now with
  | none =>
      refine Solo.section_done (.at now) ?_
      simp [server, exec, Input.at, htimeout]
  | some e =>
      refine Solo.section_next (.at now) (σ.setExecution x e) (SctpConformance.finish x)
        ?_ rfl ?_
      · simp [server, exec, Input.at, htimeout]
      · exact finish x

/-- `HandleRequest` and the handler it calls both look for a timeout. -/
theorem maybeTimeout_before (now : TimePoint) {program : List (Section c)} {answers : List HttpResponse}
    {launched : List (List (Section c))}
    (h : Alone host (σ.maybeTimeout now x) program answers τ [] launched) :
    Alone host σ (.maybeTimeout x :: program) answers τ [] launched :=
  (maybeTimeout now x).seq h

/-- The response is sent, and the connection closed. -/
theorem respond (client : Nat) (response : HttpResponse) :
    Alone host σ [.respond client response] [response] (σ.closeDescriptor client) [] [] :=
  Solo.section_done (.at 0) rfl

/-- The connection is closed without a response. -/
theorem hangUp (client : Nat) :
    Alone host σ [.hangUp client] [] (σ.closeDescriptor client) [] [] :=
  Solo.section_done (.at 0) rfl

/-- The feature is read and sent. -/
theorem readFeature (x : Target c) (client : Nat) :
    Alone host σ [.readFeature ⟨x, client⟩] [featureResponse σ x] (σ.closeDescriptor client)
      [] [] := by
  refine Solo.section_next (.at 0) _ _ rfl rfl ?_
  exact respond client (featureResponse σ x)

/-! ## Starting a feature -/

/-- A start gives up. -/
theorem rollback (client : Nat) (fds : List Nat) (error : CppString) :
    Alone host σ (rollback ⟨x, client⟩ fds error) [errorResponse 409 error]
      ((σ.closeFds fds).closeDescriptor client) [] [] :=
  (closeFds fds).seq (respond client (errorResponse 409 error))

/-- The time, and the outcomes of the system calls of one `create_listening_socket`. -/
def ofCalls (calls : SocketCalls) : Input where
  socket := calls.socket
  setup := calls.setup

/-- A socket that cannot be made is answered with its error. -/
theorem createListeningSocket_error {client : Nat} {calls : SocketCalls}
    {sockets : List ListeningSocket} {error : CppString}
    (h : createListeningSocket host σ x calls = (τ, .error error)) :
    Alone host σ [.openSocket ⟨x, client⟩ sockets] [errorResponse 409 error]
      ((τ.closeFds (sockets.map ListeningSocket.fd)).closeDescriptor client) [] [] := by
  unfold createListeningSocket at h
  dsimp only at h
  cases haddress : addressCountError host.options (c.definition x.feature).bindAddressCount with
  | some message =>
      rw [haddress] at h
      cases h
      refine Solo.section_next (ofCalls calls) σ
        (SctpConformance.rollback ⟨x, client⟩ (sockets.map ListeningSocket.fd) error)
        ?_ rfl ?_
      · simp [server, exec, haddress]
      · exact rollback client _ error
  | none =>
      rw [haddress] at h
      dsimp only at h
      cases hsocket : calls.socket with
      | some errno =>
          rw [hsocket] at h
          cases h
          refine Solo.section_next (ofCalls calls) σ
            (SctpConformance.rollback ⟨x, client⟩ (sockets.map ListeningSocket.fd)
              (host.strerror errno)) ?_ rfl ?_
          · simp [server, exec, haddress, ofCalls, hsocket]
          · exact rollback client _ _
      | none =>
          rw [hsocket] at h
          dsimp only at h
          cases hsetup : setupListeningSocket host (c.definition x.feature).bindAddressCount
              σ.descriptors.lowestFree calls.setup with
          | ok socketInfo =>
              rw [hsetup] at h
              cases h
          | error message =>
              rw [hsetup] at h
              cases h
              refine Solo.section_next (ofCalls calls) (σ.openListening x)
                [.setupSocket ⟨x, client⟩ sockets σ.descriptors.lowestFree] ?_ rfl ?_
              · simp [server, exec, haddress, ofCalls, hsocket]
              · refine Solo.section_next (ofCalls calls) (σ.openListening x)
                  (SctpConformance.rollback ⟨x, client⟩
                    (σ.descriptors.lowestFree :: sockets.map ListeningSocket.fd) error) ?_ rfl ?_
                · simp [server, exec, ofCalls, hsetup]
                · exact rollback client _ error

/-- A socket that can be made is added to those of the start. -/
theorem createListeningSocket_ok (client : Nat) (sockets : List ListeningSocket)
    {calls : SocketCalls} {socketInfo : ListeningSocket}
    (h : createListeningSocket host σ x calls = (τ, .ok socketInfo)) :
    Alone host σ [.openSocket ⟨x, client⟩ sockets] [] τ
      (if (sockets ++ [socketInfo]).length < (c.definition x.feature).targetCount then
        [.openSocket ⟨x, client⟩ (sockets ++ [socketInfo])]
      else [.activate ⟨x, client⟩ (sockets ++ [socketInfo])]) [] := by
  unfold createListeningSocket at h
  dsimp only at h
  cases haddress : addressCountError host.options (c.definition x.feature).bindAddressCount with
  | some message =>
      rw [haddress] at h
      cases h
  | none =>
      rw [haddress] at h
      dsimp only at h
      cases hsocket : calls.socket with
      | some errno =>
          rw [hsocket] at h
          cases h
      | none =>
          rw [hsocket] at h
          dsimp only at h
          cases hsetup : setupListeningSocket host (c.definition x.feature).bindAddressCount
              σ.descriptors.lowestFree calls.setup with
          | error message =>
              rw [hsetup] at h
              cases h
          | ok opened =>
              rw [hsetup] at h
              cases h
              refine Solo.section_next (ofCalls calls) (σ.openListening x)
                [.setupSocket ⟨x, client⟩ sockets σ.descriptors.lowestFree] ?_ rfl ?_
              · simp [server, exec, haddress, ofCalls, hsocket]
              · refine Solo.section_next (ofCalls calls) (σ.openListening x)
                  (if (sockets ++ [socketInfo]).length <
                      (c.definition x.feature).targetCount then
                    [.openSocket ⟨x, client⟩ (sockets ++ [socketInfo])]
                  else [.activate ⟨x, client⟩ (sockets ++ [socketInfo])]) ?_ rfl ?_
                · simp [server, exec, ofCalls, hsetup]
                · exact .stop _ _

/-- The loop of a start over its sockets, when one of them cannot be opened. -/
theorem createSockets_error {client count : Nat} {calls : List SocketCalls}
    {sockets : List ListeningSocket} {error : CppString}
    (h : createSockets host σ x (count + 1) calls sockets = (τ, .error error))
    (hcount : sockets.length + (count + 1) = (c.definition x.feature).targetCount) :
    Alone host σ [.openSocket ⟨x, client⟩ sockets] [errorResponse 409 error]
      (τ.closeDescriptor client) [] [] := by
  induction count generalizing σ calls sockets with
  | zero =>
      rw [createSockets] at h
      rcases hone : createListeningSocket host σ x (calls.headD {}) with ⟨σ', message | socketInfo⟩
      · rw [hone] at h
        cases h
        exact createListeningSocket_error hone
      · rw [hone] at h
        cases h
  | succ count ih =>
      rw [createSockets] at h
      rcases hone : createListeningSocket host σ x (calls.headD {}) with ⟨σ', message | socketInfo⟩
      · rw [hone] at h
        cases h
        exact createListeningSocket_error hone
      · rw [hone] at h
        have hopened := createListeningSocket_ok client sockets hone
        rw [if_pos (by simp; omega)] at hopened
        exact hopened.trans (ih h (by simp; omega))

/-- The loop of a start over its sockets, when all of them are opened. -/
theorem createSockets_ok {client count : Nat} {calls : List SocketCalls}
    {sockets opened : List ListeningSocket}
    (h : createSockets host σ x (count + 1) calls sockets = (τ, .ok opened))
    (hcount : sockets.length + (count + 1) = (c.definition x.feature).targetCount) :
    Alone host σ [.openSocket ⟨x, client⟩ sockets] [] τ [.activate ⟨x, client⟩ opened] [] := by
  induction count generalizing σ calls sockets with
  | zero =>
      rw [createSockets] at h
      rcases hone : createListeningSocket host σ x (calls.headD {}) with ⟨σ', message | socketInfo⟩
      · rw [hone] at h
        cases h
      · rw [hone] at h
        cases h
        have hopened := createListeningSocket_ok client sockets hone
        rwa [if_neg (by simp; omega)] at hopened
  | succ count ih =>
      rw [createSockets] at h
      rcases hone : createListeningSocket host σ x (calls.headD {}) with ⟨σ', message | socketInfo⟩
      · rw [hone] at h
        cases h
      · rw [hone] at h
        have hopened := createListeningSocket_ok client sockets hone
        rw [if_pos (by simp; omega)] at hopened
        exact hopened.trans (ih h (by simp; omega))

/-- The last sections of a start: what the contract and the message become. -/
theorem publish (client : Nat) (contract : CppString) :
    Alone host σ [.setContract ⟨x, client⟩ contract]
      [featureResponse ((σ.setContract x contract).adjustMessage x) x]
      (((σ.setContract x contract).adjustMessage x).closeDescriptor client) [] [] := by
  refine Solo.section_next (.at 0) (σ.setContract x contract)
    [.adjustMessage ⟨x, client⟩] rfl rfl ?_
  refine Solo.section_next (.at 0) ((σ.setContract x contract).adjustMessage x)
    [.readFeature ⟨x, client⟩] rfl rfl ?_
  exact readFeature x client

/-- A start whose record lists its sockets. -/
theorem enter (client : Nat) (sockets : List ListeningSocket) :
    Alone host σ [.setActiveFeature ⟨x, client⟩ sockets]
      [featureResponse (σ.enter x sockets) x] ((σ.enter x sockets).closeDescriptor client) []
      (launchedPrograms (((c.definition x.feature).worker sockets).map fun worker =>
        (x, worker.start))) := by
  refine Solo.section_next (.at 0) (σ.setActiveId x.session (c.id x.feature))
    [.launchWorker ⟨x, client⟩ sockets] rfl rfl ?_
  -- the worker is launched here, and runs when the handler has ended
  have hlaunch : Alone host (σ.setActiveId x.session (c.id x.feature))
      [.launchWorker ⟨x, client⟩ sockets] [featureResponse (σ.enter x sockets) x]
      ((σ.enter x sockets).closeDescriptor client) []
      ((((c.definition x.feature).worker sockets).map fun worker =>
        [worker.start.toSection x]).toList ++ []) :=
    Solo.section_launch (.at 0) _ _ rfl rfl (publish client _)
  cases hworker : (c.definition x.feature).worker sockets <;> rw [hworker] at hlaunch <;>
    exact hlaunch

/-- A start whose sockets are open. -/
theorem activateScenario (now : TimePoint) (client : Nat) {sockets : List ListeningSocket}
    (hsockets : (c.definition x.feature).scenarioKind = .agentOnly → sockets = []) :
    Alone host σ [.activate ⟨x, client⟩ sockets]
      [featureResponse (activateScenario now σ x sockets) x]
      ((activateScenario now σ x sockets).closeDescriptor client) []
      (launchedPrograms (((c.definition x.feature).worker sockets).map fun worker =>
        (x, worker.start))) := by
  rw [activateScenario_eq]
  by_cases hkind : (c.definition x.feature).scenarioKind = .agentOnly
  · cases hsockets hkind
    rw [if_pos hkind]
    refine Solo.section_next (.at now) _ ([.setActiveFeature ⟨x, client⟩ []]) ?_ rfl
      (enter client [])
    simp [server, exec, hkind, Input.at]
  · rw [if_neg hkind]
    refine Solo.section_next (.at now)
      (σ.setExecution x ((σ.execution x).activate (c.definition x.feature) now))
      [.setActiveFds ⟨x, client⟩ sockets] ?_ rfl ?_
    · simp only [server, exec, hkind, Input.at, if_false]
    · exact Solo.section_next (.at now) _ [.setActiveFeature ⟨x, client⟩ sockets] rfl rfl
        (enter client sockets)

/-! ## Handlers -/

/-- A start runs as one handler does without interruptions. -/
theorem startFeature (now : TimePoint) (client : Nat) (calls : List SocketCalls) :
    Alone host σ [.maybeTimeout x, .startGuard ⟨x, client⟩]
      [(startFeature host now σ x calls).response]
      ((startFeature host now σ x calls).shared.closeDescriptor client) []
      (launchedPrograms (startFeature host now σ x calls).launched) := by
  refine maybeTimeout_before now ?_
  unfold SctpConformance.startFeature
  dsimp only
  generalize σ.maybeTimeout now x = σ
  by_cases hactive : σ.activeId x.session ≠ []
  · rw [if_pos hactive]
    refine Solo.section_next (.at now) σ [.respond client _] ?_ rfl
      (respond client _)
    simp only [server, exec, if_pos hactive]
  · rw [if_neg hactive]
    refine Solo.section_next (.at now) σ [.startPending ⟨x, client⟩] ?_ rfl ?_
    · simp only [server, exec, if_neg hactive]
    by_cases hpending : (σ.execution x).state ≠ .pending
    · rw [if_pos hpending]
      refine Solo.section_next (.at now) σ [.respond client _] ?_ rfl
        (respond client _)
      simp only [server, exec, if_pos hpending]
    · rw [if_neg hpending]
      by_cases hkind : (c.definition x.feature).scenarioKind = .agentOnly
      · have htargets : (c.definition x.feature).targetCount = 0 := by
          simp [FeatureDefinition.targetCount, hkind]
        rw [if_neg (by simp [hkind]), htargets, createSockets]
        refine Solo.section_next (.at now) σ ([.activate ⟨x, client⟩ []]) ?_ rfl
          (activateScenario now client fun _ => rfl)
        simp only [server, exec, if_neg hpending, if_pos hkind]
      · by_cases htargets : (c.definition x.feature).targetCount = 0
        · rw [if_pos ⟨hkind, htargets⟩]
          refine Solo.section_next (.at now) σ [.respond client _] ?_ rfl
            (respond client _)
          simp only [server, exec, if_neg hpending, if_neg hkind, if_pos htargets]
        · rw [if_neg (by simp [htargets])]
          rcases Nat.exists_eq_succ_of_ne_zero htargets with ⟨count, hcount⟩
          refine Solo.section_next (.at now) σ ([.openSocket ⟨x, client⟩ []])
            ?_ rfl ?_
          · simp only [server, exec, if_neg hpending, if_neg hkind, if_neg htargets]
          rcases hsockets : createSockets host σ x (c.definition x.feature).targetCount calls []
            with ⟨τ, error | sockets⟩
          · rw [hcount] at hsockets
            exact createSockets_error hsockets (by simp [hcount])
          · rw [hcount] at hsockets
            exact (createSockets_ok hsockets (by simp [hcount])).trans
              (activateScenario now client fun h => absurd h hkind)

/-- So does a completion. -/
theorem completeFeature (now : TimePoint) (client : Nat) (body : CppString) :
    Alone host σ [.maybeTimeout x, .complete ⟨x, client⟩ body]
      [(completeFeature now σ x body).response]
      ((completeFeature now σ x body).shared.closeDescriptor client) []
      (launchedPrograms (completeFeature now σ x body).launched) := by
  refine maybeTimeout_before now ?_
  unfold SctpConformance.completeFeature
  dsimp only
  generalize σ.maybeTimeout now x = σ
  cases hparse : parseCompleteReport body with
  | error error =>
      refine Solo.section_next (.at now) σ [.respond client _] ?_ rfl
        (respond client _)
      simp only [server, exec, hparse]
  | ok report =>
      dsimp only
      rcases hreport : (σ.execution x).complete (c.definition x.feature) report now with
        ⟨status, message⟩ | ⟨e, finished⟩
      · refine Solo.section_next (.at now) σ [.respond client _] ?_ rfl
          (respond client _)
        simp only [server, exec, hparse, Input.at, hreport]
      · refine Solo.section_next (.at now) (σ.setExecution x e)
          ((if finished then SctpConformance.finish x else []) ++
            [.readFeature ⟨x, client⟩]) ?_ rfl ?_
        · simp only [server, exec, hparse, Input.at, hreport]
        · cases finished with
          | true => exact (finish x).seq (readFeature x client)
          | false => exact readFeature x client

/-- So does a withdrawal. -/
theorem unsupportedFeature (now : TimePoint) (client : Nat) (body : CppString) :
    Alone host σ [.maybeTimeout x, .unsupported ⟨x, client⟩ body]
      [(unsupportedFeature now σ x body).response]
      ((unsupportedFeature now σ x body).shared.closeDescriptor client) []
      (launchedPrograms (unsupportedFeature now σ x body).launched) := by
  refine maybeTimeout_before now ?_
  unfold SctpConformance.unsupportedFeature
  dsimp only
  generalize σ.maybeTimeout now x = σ
  cases hparse : parseUnsupportedReport body with
  | error error =>
      refine Solo.section_next (.at now) σ [.respond client _] ?_ rfl
        (respond client _)
      simp only [server, exec, hparse]
  | ok report =>
      dsimp only
      rcases hreport : (σ.execution x).markUnsupported report now with ⟨status, message⟩ | e
      · refine Solo.section_next (.at now) σ [.respond client _] ?_ rfl
          (respond client _)
        simp only [server, exec, hparse, Input.at, hreport]
      · refine Solo.section_next (.at now) (σ.setExecution x e)
          (SctpConformance.finish x ++ [.readFeature ⟨x, client⟩]) ?_ rfl
          ((finish x).seq (readFeature x client))
        simp only [server, exec, hparse, Input.at, hreport]

/-- The loop of a summary, with the entries already made. -/
theorem summaryEntries (now : TimePoint) (session client : Nat) (stream : Bool) (left : List c.Ref)
    (entries : List (Entry c)) :
    Alone host σ [.summary session client stream left entries] []
      (summaryEntries now session σ left entries).1
      [.summary session client stream [] (summaryEntries now session σ left entries).2] [] := by
  induction left generalizing σ entries with
  | nil => exact .stop σ _
  | cons r left ih =>
      refine Solo.section_next (.at now) σ [.maybeTimeout ⟨session, r⟩,
        .summaryEntry session client stream r left entries] rfl rfl ?_
      refine (maybeTimeout now ⟨session, r⟩).seq ?_
      exact Solo.section_next (.at now) _ [.summary session client stream left _] rfl rfl
        (ih _)

/-- A summary runs as one handler does without interruptions. -/
theorem summary (now : TimePoint) (session client : Nat) (stream : Bool) :
    Alone host σ [.summary session client stream (List.finRange c.features.length) []]
      [(handleRequest host now σ (.summary session) []).response]
      ((handleRequest host now σ (.summary session) []).shared.closeDescriptor client) [] [] := by
  refine (summaryEntries now session client stream _ []).trans ?_
  unfold handleRequest
  dsimp only
  generalize SctpConformance.summaryEntries now session σ (List.finRange c.features.length) [] =
    result
  cases stream with
  | false =>
      exact Solo.section_next (.at now) _ [.respond client _] rfl rfl (respond client _)
  | true =>
      refine Solo.section_next (.at now) _ [.writeEvent session client _] rfl rfl ?_
      -- the event is written, and then the stream is closed
      exact Solo.run (.at now) (hangUp client)

end Alone

/-- A handler that runs alone answers and leaves what the plain function says. -/
theorem alone_handleRequest (host : Host) (now : TimePoint) (σ : Shared c) (request : Request c)
    (calls : List SocketCalls) (client : Nat) :
    Alone host σ (handlerProgram client request)
      [(handleRequest host now σ request calls).response]
      ((handleRequest host now σ request calls).shared.closeDescriptor client) []
      (launchedPrograms (handleRequest host now σ request calls).launched) := by
  cases request with
  | feature x request =>
      cases request with
      | get => exact Alone.maybeTimeout_before now (Alone.readFeature x client)
      | start => exact Alone.maybeTimeout_before now (Alone.startFeature now client calls)
      | complete body =>
          exact Alone.maybeTimeout_before now (Alone.completeFeature now client body)
      | unsupported body =>
          exact Alone.maybeTimeout_before now (Alone.unsupportedFeature now client body)
      | unknown => exact Alone.maybeTimeout_before now (Alone.respond client _)
  | session session =>
      exact Solo.section_next (.at now) _ [.respond client _] rfl rfl
        (Alone.respond client _)
  | summary session => exact Alone.summary now session client false
  | summaryStream session => exact Alone.summary now session client true
  | other response => exact Alone.respond client response

end SctpConformance
