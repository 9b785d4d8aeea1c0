import SctpConformance.Library.Locks
import SctpConformance.Server.Concurrent

/-!
# The order of the mutexes

What each function of `main.cpp` does to the mutexes: `sessions_mutex_`, one for
each session and one for each feature execution.  A `lock_guard` is a block; what
a function does under it stands inside.  Which branches are taken is left open,
and so is how often a loop turns; of a thread that never ends, every finite part
is covered.

Main results:

- Definition `ServerThread.locks`: the mutexes of every kind of thread.
- Theorem `ServerThread.locks_ordered`: they are taken in the order session
  table, session, execution.
- Theorem `mutexes_never_deadlock`: no threads of the server deadlock.
-/

namespace SctpConformance

open Library

variable {c : Catalog}

/-- The mutexes of the registry, of the sessions and of their executions. -/
inductive Mutex (c : Catalog) where
  | sessions
  | session (session : Nat)
  | execution (x : Target c)
deriving DecidableEq

/-- From the registry to the executions. -/
def Mutex.rank : Mutex c → Nat
  | .sessions => 0
  | .session _ => 1
  | .execution _ => 2

/-! ## The functions -/

namespace Mutexes

open LockCode

/-- A `lock_guard` with nothing under it that takes another mutex. -/
def lockGuard (m : Mutex c) : LockCode (Mutex c) :=
  guard m skip

/-- The session is locked. -/
def clearActiveFeature (session : Nat) : LockCode (Mutex c) :=
  lockGuard (.session session)

/-- The execution is locked. -/
def setActiveFds (x : Target c) : LockCode (Mutex c) :=
  lockGuard (.execution x)

/-- The execution is locked. -/
def takeActiveFds (x : Target c) : LockCode (Mutex c) :=
  lockGuard (.execution x)

/-- The sockets are closed when the lock has been given back. -/
def closeActiveFds (x : Target c) : LockCode (Mutex c) :=
  takeActiveFds x

/-- The execution is locked first, and again for its sockets. -/
def markFailed (x : Target c) : LockCode (Mutex c) :=
  seq (lockGuard (.execution x))
    (optional (seqAll [closeActiveFds x, clearActiveFeature x.session]))

/-- The execution is locked first, and again for its sockets if the feature has passed. -/
def markNetworkComplete (x : Target c) : LockCode (Mutex c) :=
  seq (lockGuard (.execution x))
    (optional (seqAll [closeActiveFds x, optional (clearActiveFeature x.session)]))

/-- The execution is locked first, and again for its sockets if the deadline has passed. -/
def maybeTimeout (x : Target c) : LockCode (Mutex c) :=
  seq (lockGuard (.execution x))
    (optional (seqAll [closeActiveFds x, clearActiveFeature x.session]))

/-- The registry is locked. -/
def findSession : LockCode (Mutex c) :=
  lockGuard .sessions

/-- The execution is locked. -/
def featureJson (x : Target c) : LockCode (Mutex c) :=
  lockGuard (.execution x)

/-- The session stays locked while its executions are read. -/
def sessionJson (session : Nat) : LockCode (Mutex c) :=
  guard (.session session)
    (seqAll ((List.finRange c.features.length).map fun r => featureJson ⟨session, r⟩))

/-- `FeatureJsonLocked` takes no mutex. -/
def summaryJson (session : Nat) : LockCode (Mutex c) :=
  seqAll ((List.finRange c.features.length).map fun r =>
    seq (maybeTimeout ⟨session, r⟩) (lockGuard (.execution ⟨session, r⟩)))

/-- The loop over the given sessions, in the order of the table. -/
def sessionIndexHtml (sessions : List Nat) : LockCode (Mutex c) :=
  guard .sessions (seqAll (sessions.map fun session => lockGuard (.session session)))

/-- The registry is locked no longer when the session is read. -/
def createSession (session : Nat) : LockCode (Mutex c) :=
  optional (seqAll [lockGuard .sessions, sessionJson session])

/-- The execution is locked. -/
def activateExecution (x : Target c) : LockCode (Mutex c) :=
  lockGuard (.execution x)

/-- The tests and the activation take separate locks. -/
def startFeature (x : Target c) : LockCode (Mutex c) :=
  seqAll [maybeTimeout x, lockGuard (.session x.session),
    optional (seqAll [lockGuard (.execution x),
      optional (seqAll [activateExecution x,
        if (c.definition x.feature).scenarioKind = .agentOnly then skip else setActiveFds x,
        lockGuard (.session x.session),
        -- the contract, the message and the response
        lockGuard (.execution x), lockGuard (.execution x), featureJson x])])]

/-- The report is judged under the lock of the execution. -/
def completeFeature (x : Target c) : LockCode (Mutex c) :=
  seqAll [maybeTimeout x,
    optional (seqAll [lockGuard (.execution x),
      optional (seqAll [optional (seqAll [closeActiveFds x, clearActiveFeature x.session]),
        featureJson x])])]

/-- So is the withdrawal. -/
def unsupportedFeature (x : Target c) : LockCode (Mutex c) :=
  seqAll [maybeTimeout x,
    optional (seqAll [lockGuard (.execution x),
      optional (seqAll [closeActiveFds x, clearActiveFeature x.session, featureJson x])])]

/-- The part of `HandleRequest` on a feature. -/
def featureRequest (x : Target c) : FeatureRequest → LockCode (Mutex c)
  | .get => featureJson x
  | .start => startFeature x
  | .complete _ => completeFeature x
  | .unsupported _ => unsupportedFeature x
  | .unknown => skip

/-- `HandleSummaryStream`: the loop ends when a write fails. -/
def handleSummaryStream (session : Nat) : LockCode (Mutex c) :=
  optional (loop (summaryJson session))

/-- Each of the four workers ends in a verdict. -/
def runWorker (x : Target c) : LockCode (Mutex c) :=
  choice (markFailed x) (markNetworkComplete x)

end Mutexes

/-! ## Threads -/

/-- A thread of the server: the handler of a request, by its route, or a worker. -/
inductive ServerThread (c : Catalog) where
  | index (sessions : List Nat)
  | dashboard
  | healthz
  | features
  | createSession (session : Nat)
  | unknownSession
  | session (session : Nat)
  | summary (session : Nat)
  | unknownFeature
  | feature (x : Target c) (request : FeatureRequest)
  | unknownRoute
  | summaryStream (session : Nat)
  | worker (x : Target c)

open LockCode in
/-- The mutexes that a thread takes. -/
def ServerThread.locks : ServerThread c → LockCode (Mutex c)
  | .index ns => Mutexes.sessionIndexHtml ns
  | .dashboard => Mutexes.findSession
  | .healthz => skip
  | .features => skip
  | .createSession n => Mutexes.createSession n
  | .unknownSession => Mutexes.findSession
  | .session n => seq Mutexes.findSession (Mutexes.sessionJson n)
  | .summary n => seq Mutexes.findSession (Mutexes.summaryJson n)
  | .unknownFeature => Mutexes.findSession
  | .feature x request =>
      seqAll [Mutexes.findSession, Mutexes.maybeTimeout x, Mutexes.featureRequest x request]
  | .unknownRoute => optional Mutexes.findSession
  | .summaryStream n => seq Mutexes.findSession (Mutexes.handleSummaryStream n)
  | .worker x => Mutexes.runWorker x

/-! ## The order -/

section

variable (r : Nat) (x : Target c) (session : Nat)

/-- A lock may be taken by one who holds locks of lower rank. -/
@[simp]
theorem ordered_lockGuard (m : Mutex c) :
    (Mutexes.lockGuard m).Ordered Mutex.rank r ↔ r ≤ m.rank := by
  simp [Mutexes.lockGuard]

/-- The deadline is applied with locks of increasing rank. -/
theorem ordered_maybeTimeout : (Mutexes.maybeTimeout x).Ordered Mutex.rank 1 := by
  simp [Mutexes.maybeTimeout, Mutexes.closeActiveFds, Mutexes.takeActiveFds,
    Mutexes.clearActiveFeature, Mutex.rank]

/-- So is a session read. -/
theorem ordered_sessionJson : (Mutexes.sessionJson (c := c) session).Ordered Mutex.rank 1 := by
  simp [Mutexes.sessionJson, Mutexes.featureJson, Mutex.rank]

/-- So is a summary made. -/
theorem ordered_summaryJson : (Mutexes.summaryJson (c := c) session).Ordered Mutex.rank 1 := by
  simp [Mutexes.summaryJson, ordered_maybeTimeout, Mutex.rank]

/-- A start takes its locks in order. -/
theorem ordered_startFeature : (Mutexes.startFeature x).Ordered Mutex.rank 1 := by
  have hfds : (if (c.definition x.feature).scenarioKind = .agentOnly then LockCode.skip
      else Mutexes.setActiveFds x).Ordered Mutex.rank 1 := by
    split
    · trivial
    · simp [Mutexes.setActiveFds, Mutex.rank]
  simp [Mutexes.startFeature, ordered_maybeTimeout, Mutexes.activateExecution,
    Mutexes.featureJson, Mutex.rank, hfds]

/-- So does every request about a feature. -/
theorem ordered_featureRequest (request : FeatureRequest) :
    (Mutexes.featureRequest x request).Ordered Mutex.rank 1 := by
  cases request with
  | get => simp [Mutexes.featureRequest, Mutexes.featureJson, Mutex.rank]
  | start => exact ordered_startFeature x
  | complete body =>
      simp [Mutexes.featureRequest, Mutexes.completeFeature, ordered_maybeTimeout,
        Mutexes.closeActiveFds, Mutexes.takeActiveFds, Mutexes.clearActiveFeature,
        Mutexes.featureJson, Mutex.rank]
  | unsupported body =>
      simp [Mutexes.featureRequest, Mutexes.unsupportedFeature, ordered_maybeTimeout,
        Mutexes.closeActiveFds, Mutexes.takeActiveFds, Mutexes.clearActiveFeature,
        Mutexes.featureJson, Mutex.rank]
  | unknown => simp [Mutexes.featureRequest]

/-- So does every worker. -/
theorem ordered_runWorker : (Mutexes.runWorker x).Ordered Mutex.rank 1 := by
  simp [Mutexes.runWorker, Mutexes.markFailed, Mutexes.markNetworkComplete,
    Mutexes.closeActiveFds, Mutexes.takeActiveFds, Mutexes.clearActiveFeature, Mutex.rank]

end

/-- Every thread takes the mutexes in order. -/
theorem ServerThread.locks_ordered (thread : ServerThread c) :
    thread.locks.Ordered Mutex.rank 0 := by
  have hfind : (Mutexes.findSession (c := c)).Ordered Mutex.rank 0 := by
    simp [Mutexes.findSession, Mutex.rank]
  have hlow : ∀ {code : LockCode (Mutex c)}, code.Ordered Mutex.rank 1 →
      code.Ordered Mutex.rank 0 := fun h => h.mono (Nat.zero_le 1)
  cases thread with
  | index sessions => simp [locks, Mutexes.sessionIndexHtml, Mutex.rank]
  | dashboard => exact hfind
  | healthz => trivial
  | features => trivial
  | createSession session =>
      have hview := hlow (ordered_sessionJson (c := c) session)
      simpa [locks, Mutexes.createSession, Mutex.rank] using hview
  | unknownSession => exact hfind
  | session session => exact ⟨hfind, hlow (ordered_sessionJson session)⟩
  | summary session => exact ⟨hfind, hlow (ordered_summaryJson session)⟩
  | unknownFeature => exact hfind
  | feature x request =>
      exact ⟨hfind, hlow (ordered_maybeTimeout x), hlow (ordered_featureRequest x request),
        trivial⟩
  | unknownRoute => exact ⟨trivial, hfind⟩
  | summaryStream session => exact ⟨hfind, trivial, hlow (ordered_summaryJson session)⟩
  | worker x => exact hlow (ordered_runWorker x)

/-! ## No deadlock -/

/-- Every thread takes and releases mutexes as a thread of the server does. -/
def ServesThreads (start : LockState (Mutex c)) : Prop :=
  ∀ i, ∃ thread : ServerThread c, thread.locks.Trace (start.todo i)

/-- In every reachable state, the mutexes that a thread holds rank below the one
it asks for, no thread asks for a mutex that it holds, and no threads wait for
each other in a circle. -/
theorem mutexes_never_deadlock {start last : LockState (Mutex c)}
    {run : List (Transition (LockState (Mutex c)) Nat)} (hidle : start.Idle)
    (hthreads : ServesThreads start) (hrun : Run LockState.step start run last) :
    (∀ i m m', last.Wants i m → last.Holds i m' → m'.rank < m.rank) ∧
      (∀ i m, last.Wants i m → ¬last.Holds i m) ∧
      ∀ i, ¬Relation.TransGen last.WaitsFor i i := by
  have htodo : ∀ i, Follows Mutex.rank [] (start.todo i) := by
    intro i
    rcases hthreads i with ⟨thread, htrace⟩
    exact thread.locks_ordered.follows htrace
  refine ⟨?_, ?_, ?_⟩
  · intro i m m' hwants hholds
    exact lt_of_wants hidle htodo hrun hwants hholds
  · intro i m hwants hholds
    exact absurd (lt_of_wants hidle htodo hrun hwants hholds) (lt_irrefl _)
  · exact not_waitsFor_circle hidle htodo hrun

/-- Two requests for an unknown session, and no other thread. -/
def twoLookups : LockState (Mutex sampleCatalog) where
  holder _ := none
  todo i := if i < 2 then [.acquire .sessions, .release .sessions] else []

theorem twoLookups_servesThreads : ServesThreads twoLookups := by
  intro i
  by_cases hi : i < 2
  · have htodo : twoLookups.todo i = [.acquire .sessions, .release .sessions] := if_pos hi
    rw [htodo]
    exact ⟨.unknownSession, LockCode.Trace.guard LockCode.Trace.skip⟩
  · have htodo : twoLookups.todo i = [] := if_neg hi
    rw [htodo]
    exact ⟨.healthz, LockCode.Trace.skip⟩

/-- The second request waits for the first, and for nobody who waits for it. -/
theorem mutexes_never_deadlock_twoLookups :
    ∃ last, Run LockState.step twoLookups (record LockState.step twoLookups [0]) last ∧
      last.WaitsFor 1 0 ∧ ¬Relation.TransGen last.WaitsFor 1 1 := by
  have hrun : Run LockState.step twoLookups (record LockState.step twoLookups [0]) _ :=
    run_record rfl
  refine ⟨_, hrun, ⟨.sessions, ⟨[.release .sessions], rfl⟩, rfl⟩, ?_⟩
  exact (mutexes_never_deadlock (fun _ => rfl) twoLookups_servesThreads hrun).2.2 1

end SctpConformance
