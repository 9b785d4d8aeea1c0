import SctpConformance.Server.Sequential
import SctpConformance.Concurrency.Effects

/-!
# What the sequential functions do

The effect of every helper and handler on the parts of the shared state.  What
decides the verdict of a feature is its progress: its state, the two completion
flags and the deadline.  On it each function acts as one pure function, and it
leaves the progress of all other features alone.

Main results:

- Definitions `Progress.poll`, `Progress.observe` and so on: what the functions
  do to the progress of a feature.
- Theorems `progress_maybeTimeout`, `progress_markFailed` and so on: that they
  do exactly this.
- Theorem `createSockets_spec`: what opening the sockets of a start does to the
  descriptor table.
-/

namespace SctpConformance

open Library

variable {c : Catalog} {host : Host}

/-! ## Progress -/

/-- The part of the record of a feature that decides its verdict. -/
structure Progress where
  state : FeatureState
  networkComplete : Bool
  agentComplete : Bool
  deadlineAt : TimePoint
deriving DecidableEq

/-- The part of an execution that decides about its verdict. -/
def FeatureExecution.progress (e : FeatureExecution) : Progress where
  state := e.state
  networkComplete := e.networkComplete
  agentComplete := e.agentComplete
  deadlineAt := e.deadlineAt

/-- The progress of an execution. -/
def Shared.progress (σ : Shared c) (x : Target c) : Progress :=
  (σ.execution x).progress

namespace Progress

variable (v : Progress) (feature : FeatureDefinition)

/-- An active feature that has reached its deadline is timed out. -/
def poll (now : TimePoint) : Progress :=
  if v.state = .active ∧ v.deadlineAt ≤ now then { v with state := .timedOut } else v

/-- The worker has found a mismatch. -/
def fail : Progress :=
  if v.state = .active then { v with state := .failed } else v

/-- The worker has seen all that it waits for. -/
def observe : Progress :=
  if v.state = .active then
    if feature.completionMode = .serverObserved ∨ v.agentComplete then
      { v with networkComplete := true, state := .passed }
    else { v with networkComplete := true }
  else v

/-- Whether a report meets what the feature asks of it. -/
def Accepts (feature : FeatureDefinition) (report : CompleteReport) : Prop :=
  feature.completionMode ≠ .serverObserved ∧
    (feature.distinctAssocIds.bind fun contract => assocIdsError contract report.assocIds) = none

instance (feature : FeatureDefinition) (report : CompleteReport) :
    Decidable (Accepts feature report) :=
  inferInstanceAs (Decidable (_ ∧ _))

/-- The agent reports completion. -/
def complete (report : CompleteReport) : Progress :=
  if v.state = .active ∧ Accepts feature report then
    if feature.completionMode = .agentReported ∨ v.networkComplete then
      { v with agentComplete := true, state := .passed }
    else { v with agentComplete := true }
  else v

/-- The agent gives the feature up. -/
def unsupport : Progress :=
  if v.state = .pending ∨ v.state = .active then { v with state := .unsupported } else v

/-- The feature starts, with its deadline. -/
def activate (now : TimePoint) : Progress :=
  { v with state := .active, deadlineAt := now + seconds feature.timeoutSeconds }

end Progress

/-! ## Closing and clearing -/

namespace Shared

variable {σ : Shared c}

/-- Closing sockets changes no session. -/
@[simp]
theorem sessions_closeFds (fds : List Nat) : (σ.closeFds fds).sessions = σ.sessions := by
  induction fds generalizing σ with
  | nil => rfl
  | cons fd fds ih =>
      rw [closeFds, List.foldl_cons, ← closeFds, ih]
      rfl

/-- It changes no execution. -/
@[simp]
theorem execution_closeFds (fds : List Nat) (x : Target c) :
    (σ.closeFds fds).execution x = σ.execution x := by
  induction fds generalizing σ with
  | nil => rfl
  | cons fd fds ih =>
      rw [closeFds, List.foldl_cons, ← closeFds, ih]
      rfl

/-- It changes no active feature. -/
@[simp]
theorem activeId_closeFds (fds : List Nat) (session : Nat) :
    (σ.closeFds fds).activeId session = σ.activeId session := by
  induction fds generalizing σ with
  | nil => rfl
  | cons fd fds ih =>
      rw [closeFds, List.foldl_cons, ← closeFds, ih]
      rfl

/-- The sockets are gone, and the other ones stay. -/
theorem lookup_closeFds (fds : List Nat) (n : Nat) :
    (σ.closeFds fds).descriptors.lookup n =
      if n ∈ fds then none else σ.descriptors.lookup n := by
  induction fds generalizing σ with
  | nil => simp [closeFds]
  | cons fd fds ih =>
      rw [closeFds, List.foldl_cons, ← closeFds, ih, closeDescriptor, Slots.lookup_release]
      by_cases hn : n = fd
      · simp [hn]
      · simp [hn]

/-- The feature has no sockets any more. -/
@[simp]
theorem execution_closeActiveFds (x y : Target c) :
    (σ.closeActiveFds x).execution y =
      if y = x then { σ.execution x with activeFds := [] } else σ.execution y := by
  simp [closeActiveFds]

/-- The active feature stays. -/
@[simp]
theorem activeId_closeActiveFds (x : Target c) (session : Nat) :
    (σ.closeActiveFds x).activeId session = σ.activeId session := by
  simp [closeActiveFds]

/-- Its own sockets are closed, and no others. -/
theorem lookup_closeActiveFds (x : Target c) (n : Nat) :
    (σ.closeActiveFds x).descriptors.lookup n =
      if n ∈ (σ.execution x).activeFds then none else σ.descriptors.lookup n := by
  simp [closeActiveFds, lookup_closeFds]

/-- The name of the active feature is no part of an execution. -/
@[simp]
theorem execution_clearActiveFeature (x y : Target c) :
    (σ.clearActiveFeature x).execution y = σ.execution y := by
  unfold clearActiveFeature
  split <;> simp

/-- The name of the active feature is no descriptor. -/
@[simp]
theorem descriptors_clearActiveFeature (x : Target c) :
    (σ.clearActiveFeature x).descriptors = σ.descriptors := by
  unfold clearActiveFeature
  split <;> simp

/-- A session has no active feature any more if it was this one. -/
theorem activeId_clearActiveFeature (x : Target c) (session : Nat) :
    (σ.clearActiveFeature x).activeId session =
      if session = x.session ∧ σ.activeId session = c.id x.feature then []
      else σ.activeId session := by
  unfold clearActiveFeature
  by_cases hsession : session = x.session
  · subst hsession
    by_cases hid : σ.activeId x.session = c.id x.feature <;> simp [hid]
  · by_cases hid : σ.activeId x.session = c.id x.feature <;> simp [hsession, hid]

/-- At its end a feature loses its sockets and keeps its verdict. -/
@[simp]
theorem execution_finish (x y : Target c) :
    (σ.finish x).execution y =
      if y = x then { σ.execution x with activeFds := [] } else σ.execution y := by
  simp [finish]

/-- Its own sockets are closed, and no others. -/
theorem lookup_finish (x : Target c) (n : Nat) :
    (σ.finish x).descriptors.lookup n =
      if n ∈ (σ.execution x).activeFds then none else σ.descriptors.lookup n := by
  simp [finish, lookup_closeActiveFds]

/-- Another feature of the session may be active. -/
theorem activeId_finish (x : Target c) (session : Nat) :
    (σ.finish x).activeId session =
      if session = x.session ∧ σ.activeId session = c.id x.feature then []
      else σ.activeId session := by
  simp [finish, activeId_clearActiveFeature]

/-- The sessions after the end of a terminal transition. -/
theorem sessions_finish (x : Target c) :
    (σ.finish x).sessions = Function.update σ.sessions x.session
      { σ.sessions x.session with
        features := Function.update (σ.sessions x.session).features x.feature
          { σ.execution x with activeFds := [] }
        activeFeatureId :=
          if σ.activeId x.session = c.id x.feature then [] else σ.activeId x.session } := by
  unfold finish clearActiveFeature
  rw [activeId_closeActiveFds]
  split
  · simp [closeActiveFds, setActiveId, setExecution]
  · simp [closeActiveFds, setExecution, activeId]

end Shared

/-! ## The helpers -/

section

variable (σ : Shared c) (now : TimePoint) (x y : Target c)

/-- The end of a feature leaves its progress as it is. -/
@[simp]
theorem progress_finish : (σ.finish x).progress y = σ.progress y := by
  by_cases hy : y = x <;> simp [Shared.progress, hy, FeatureExecution.progress]

/-- So does closing its sockets. -/
@[simp]
theorem progress_closeActiveFds : (σ.closeActiveFds x).progress y = σ.progress y := by
  by_cases hy : y = x <;> simp [Shared.progress, hy, FeatureExecution.progress]

/-- A new execution brings its own progress. -/
@[simp]
theorem progress_setExecution (e : FeatureExecution) :
    (σ.setExecution x e).progress y = if y = x then e.progress else σ.progress y := by
  by_cases hy : y = x <;> simp [Shared.progress, hy]

/-- The name of the active feature is no part of the progress. -/
@[simp]
theorem progress_setActiveId (session : Nat) (id : CppString) :
    (σ.setActiveId session id).progress y = σ.progress y := by
  simp [Shared.progress]

/-- Neither is a new descriptor. -/
@[simp]
theorem progress_openDescriptor (d : Descriptor c) :
    (σ.openDescriptor d).progress y = σ.progress y :=
  rfl

/-- Nor is one that is closed. -/
@[simp]
theorem progress_closeDescriptor (fd : Nat) : (σ.closeDescriptor fd).progress y = σ.progress y :=
  rfl

/-- Only this feature may time out. -/
theorem progress_maybeTimeout :
    (σ.maybeTimeout now x).progress y =
      if y = x then (σ.progress x).poll now else σ.progress y := by
  unfold Shared.maybeTimeout FeatureExecution.timeOut
  by_cases hactive : (σ.execution x).state = .active
  · by_cases hlate : now < (σ.execution x).deadlineAt
    · have hearly : ¬(σ.execution x).deadlineAt ≤ now := not_le.mpr hlate
      by_cases hy : y = x
      · subst hy
        simp [Shared.progress, FeatureExecution.progress, Progress.poll, hactive, hlate, hearly]
      · simp [hy, hactive, hlate]
    · have hreached : (σ.execution x).deadlineAt ≤ now := not_lt.mp hlate
      by_cases hy : y = x
      · subst hy
        simp [Shared.progress, FeatureExecution.progress, Progress.poll, hactive, hlate, hreached]
      · simp [hy, hactive, hlate]
  · by_cases hy : y = x
    · subst hy
      simp [Shared.progress, FeatureExecution.progress, Progress.poll, hactive]
    · simp [hy, hactive]

/-- Only this feature may fail. -/
theorem progress_markFailed (message : CppString) :
    (σ.markFailed now x message).progress y =
      if y = x then (σ.progress x).fail else σ.progress y := by
  unfold Shared.markFailed FeatureExecution.fail
  by_cases hactive : (σ.execution x).state = .active
  · by_cases hy : y = x
    · subst hy
      simp [Shared.progress, FeatureExecution.progress, Progress.fail, hactive]
    · simp [hy, hactive]
  · by_cases hy : y = x
    · subst hy
      simp [Shared.progress, FeatureExecution.progress, Progress.fail, hactive]
    · simp [hy, hactive]

/-- Only this feature may be completed by its worker. -/
theorem progress_markNetworkComplete :
    (σ.markNetworkComplete now x).progress y =
      if y = x then (σ.progress x).observe (c.definition x.feature) else σ.progress y := by
  unfold Shared.markNetworkComplete FeatureExecution.observe
  by_cases hactive : (σ.execution x).state = .active
  · by_cases hdone : (c.definition x.feature).completionMode = .serverObserved ∨
        (σ.execution x).agentComplete = true
    · by_cases hy : y = x
      · subst hy
        simp [Shared.progress, FeatureExecution.progress, Progress.observe, hactive, hdone]
      · simp [hy, hactive, hdone]
    · by_cases hy : y = x
      · subst hy
        simp [Shared.progress, FeatureExecution.progress, Progress.observe, hactive, hdone]
      · simp [hy, hactive, hdone]
  · by_cases hy : y = x
    · subst hy
      simp [Shared.progress, FeatureExecution.progress, Progress.observe, hactive]
    · simp [hy, hactive]

end

/-! ## Opening sockets -/

/-- A socket without its descriptor number. -/
def ListeningSocket.anonymous (socketInfo : ListeningSocket) : ListeningSocket :=
  { socketInfo with fd := 0 }

/-- The descriptor number decides nothing about a socket but itself. -/
theorem setupListeningSocket_anonymous (host : Host) (bindCount fd fd' : Nat)
    (calls : SetupCalls) :
    (setupListeningSocket host bindCount fd calls).map ListeningSocket.anonymous =
      (setupListeningSocket host bindCount fd' calls).map ListeningSocket.anonymous := by
  unfold setupListeningSocket
  dsimp only
  repeat' split
  all_goals rfl

section

variable {σ σ' τ : Shared c} {x : Target c}

/-- A socket that has been created has the lowest free number. -/
theorem createListeningSocket_ok {calls : SocketCalls} {socketInfo : ListeningSocket}
    (h : createListeningSocket host σ x calls = (τ, .ok socketInfo)) :
    τ = σ.openListening x ∧ socketInfo.fd = σ.descriptors.lowestFree := by
  unfold createListeningSocket at h
  dsimp only at h
  split at h
  · cases h
  · split at h
    · cases h
    · split at h
      · cases h
      · rename_i hsetup
        cases h
        exact ⟨rfl, setupListeningSocket_fd hsetup⟩

/-- A socket that cannot be set up leaves no descriptor behind. -/
theorem createListeningSocket_error {calls : SocketCalls} {error : CppString}
    (h : createListeningSocket host σ x calls = (τ, .error error)) :
    τ.sessions = σ.sessions ∧ ∀ n, τ.descriptors.lookup n = σ.descriptors.lookup n := by
  unfold createListeningSocket at h
  dsimp only at h
  split at h
  · cases h
    exact ⟨rfl, fun _ => rfl⟩
  · split at h
    · cases h
      exact ⟨rfl, fun _ => rfl⟩
    · split at h
      · cases h
        refine ⟨rfl, ?_⟩
        intro n
        by_cases hn : n = σ.descriptors.lowestFree
        · simp [Shared.closeDescriptor, Slots.lookup_release, hn]
        · simp [Shared.closeDescriptor, Shared.openListening, Slots.lookup_release,
            Slots.lookup_acquire, hn]
      · cases h

/-- But for the number of the socket, the state makes no difference. -/
theorem createListeningSocket_anonymous (host : Host) (σ σ' : Shared c) (x : Target c)
    (calls : SocketCalls) :
    (createListeningSocket host σ x calls).2.map ListeningSocket.anonymous =
      (createListeningSocket host σ' x calls).2.map ListeningSocket.anonymous := by
  have hsetup := setupListeningSocket_anonymous host
    (c.definition x.feature).bindAddressCount σ.descriptors.lowestFree
    σ'.descriptors.lowestFree calls.setup
  unfold createListeningSocket
  dsimp only
  split
  · rfl
  · split
    · rfl
    · split <;> split <;> simp_all [Except.map]

/-- Sockets that are open and listen for one execution. -/
def ListeningFor (σ : Shared c) (x : Target c) (fds : List Nat) : Prop :=
  ∀ fd ∈ fds, ∃ serial, σ.descriptors.lookup fd = some (.listening serial x)

/-- What opening the sockets of a start does to the descriptor table: it adds
the sockets, or closes again those it has added and the ones it was given. -/
theorem createSockets_spec {count : Nat} {calls : List SocketCalls}
    {sockets : List ListeningSocket} {result : Except CppString (List ListeningSocket)}
    (hlisten : ListeningFor σ x (sockets.map ListeningSocket.fd))
    (h : createSockets host σ x count calls sockets = (τ, result)) :
    τ.sessions = σ.sessions ∧
      match result with
      | .error _ => ∀ n d, σ.descriptors.lookup n = some d →
          n ∉ sockets.map ListeningSocket.fd → τ.descriptors.lookup n = some d
      | .ok opened => ListeningFor τ x (opened.map ListeningSocket.fd) ∧
          ∀ n d, σ.descriptors.lookup n = some d → τ.descriptors.lookup n = some d := by
  induction count generalizing σ calls sockets with
  | zero =>
      cases h
      exact ⟨rfl, hlisten, fun _ _ hd => hd⟩
  | succ count ih =>
      unfold createSockets at h
      rcases hone : createListeningSocket host σ x (calls.headD {}) with ⟨σ', error | socketInfo⟩
      · rw [hone] at h
        cases h
        rcases createListeningSocket_error hone with ⟨hsessions, hlookup⟩
        refine ⟨by simp [hsessions], ?_⟩
        intro n d hd hn
        rw [Shared.lookup_closeFds, if_neg hn, hlookup, hd]
      · rw [hone] at h
        rcases createListeningSocket_ok hone with ⟨rfl, hfd⟩
        have hkept : ∀ n d, σ.descriptors.lookup n = some d →
            (σ.openListening x).descriptors.lookup n = some d := by
          intro n d hd
          rw [Shared.openListening, Slots.lookup_acquire, if_neg (Slots.ne_lowestFree hd), hd]
        have hlisten' : ListeningFor (σ.openListening x) x
            ((sockets ++ [socketInfo]).map ListeningSocket.fd) := by
          intro fd hmem
          simp only [List.map_append, List.map_cons, List.map_nil, List.mem_append,
            List.mem_singleton] at hmem
          rcases hmem with hmem | rfl
          · rcases hlisten fd hmem with ⟨serial, hserial⟩
            exact ⟨serial, hkept fd _ hserial⟩
          · refine ⟨σ.opened, ?_⟩
            rw [hfd, Shared.openListening, Slots.lookup_acquire, if_pos rfl]
        rcases ih hlisten' h with ⟨hsessions, hresult⟩
        refine ⟨hsessions, ?_⟩
        cases result with
        | ok opened =>
            exact ⟨hresult.1, fun n d hd => hresult.2 n d (hkept n d hd)⟩
        | error error =>
            intro n d hd hn
            refine hresult n d (hkept n d hd) ?_
            have hnew : n ≠ socketInfo.fd := by
              rw [hfd]
              exact Slots.ne_lowestFree hd
            simpa [hnew] using hn

/-- A start that cannot open all its sockets leaves no descriptor behind. -/
theorem createSockets_error {count : Nat} {calls : List SocketCalls}
    {sockets : List ListeningSocket} {error : CppString}
    (h : createSockets host σ x count calls sockets = (τ, .error error)) :
    τ.sessions = σ.sessions ∧ ∀ n, τ.descriptors.lookup n =
      if n ∈ sockets.map ListeningSocket.fd then none else σ.descriptors.lookup n := by
  induction count generalizing σ calls sockets with
  | zero => cases h
  | succ count ih =>
      unfold createSockets at h
      rcases hone : createListeningSocket host σ x (calls.headD {}) with ⟨σ', error' | socketInfo⟩
      · rw [hone] at h
        cases h
        rcases createListeningSocket_error hone with ⟨hsessions, hlookup⟩
        refine ⟨by simp [hsessions], ?_⟩
        intro n
        rw [Shared.lookup_closeFds, hlookup]
      · rw [hone] at h
        rcases createListeningSocket_ok hone with ⟨rfl, hfd⟩
        rcases ih h with ⟨hsessions, hlookup⟩
        refine ⟨hsessions, ?_⟩
        intro n
        rw [hlookup, Shared.openListening, Slots.lookup_acquire]
        by_cases hnew : n = σ.descriptors.lowestFree
        · -- the socket that has just been opened is closed again
          simp [hnew, hfd]
        · simp [hnew, hfd]

/-- As many sockets come out as were missing. -/
theorem createSockets_length {count : Nat} {calls : List SocketCalls}
    {sockets opened : List ListeningSocket}
    (h : (createSockets host σ x count calls sockets).2 = .ok opened) :
    opened.length = sockets.length + count := by
  induction count generalizing σ calls sockets with
  | zero =>
      cases h
      rfl
  | succ count ih =>
      unfold createSockets at h
      rcases hone : createListeningSocket host σ x (calls.headD {}) with ⟨σ', error | socketInfo⟩
      · rw [hone] at h
        contradiction
      · rw [hone] at h
        have hlength := ih h
        rw [List.length_append, List.length_singleton] at hlength
        omega

/-- Which sockets come out does not depend on the state, but for their numbers. -/
theorem createSockets_anonymous (host : Host) (σ σ' : Shared c) (x : Target c) (count : Nat)
    (calls : List SocketCalls) {sockets sockets' : List ListeningSocket}
    (h : sockets.map ListeningSocket.anonymous = sockets'.map ListeningSocket.anonymous) :
    (createSockets host σ x count calls sockets).2.map (List.map ListeningSocket.anonymous) =
      (createSockets host σ' x count calls sockets').2.map
        (List.map ListeningSocket.anonymous) := by
  induction count generalizing σ σ' calls sockets sockets' with
  | zero => simp [createSockets, Except.map, h]
  | succ count ih =>
      have hone := createListeningSocket_anonymous host σ σ' x (calls.headD {})
      unfold createSockets
      rcases hleft : createListeningSocket host σ x (calls.headD {}) with
        ⟨τ, error | socketInfo⟩ <;>
      rcases hright : createListeningSocket host σ' x (calls.headD {}) with
        ⟨τ', error' | socketInfo'⟩ <;>
      simp only [hleft, hright, Except.map, reduceCtorEq, Except.error.injEq,
        Except.ok.injEq] at hone
      · simp [hone, Except.map]
      · exact ih _ _ calls.tail (by simp [h, hone])

end

end SctpConformance
