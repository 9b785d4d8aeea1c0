import SctpConformance.Sequential.Runs

/-!
# Expired features

`StartFeature` applies the deadline of the feature that it is asked to start.
A pending feature has none; the deadline that matters is that of the feature
that is active, and no start looks at it.  So an active feature blocks its
session until a request or a worker ends it, however long ago it expired.

Main results:

- Theorem `startFeature_refused`: a start is refused while a feature is named by
  the session.
- Theorem `createSockets_error_ne`: no error of a start has the text of this
  refusal.
- Theorem `startUnblocked_iff`: exactly the sessions without an expired active
  feature are not blocked by one.
-/

namespace SctpConformance

open Library

variable {c : Catalog} {host : Host} {σ τ : Shared c} {s : Sequential c} {x : Target c}
  {now : TimePoint}

/-! ## The refusal -/

/-- The text of the refusal. -/
def alreadyActive : CppString :=
  str "another feature is already active in this session"

/-- The answer to a start in a session that names an active feature. -/
def activeRefusal : HttpResponse :=
  errorResponse 409 alreadyActive

/-- A session with an active feature starts no other one. -/
theorem startFeature_refused (hactive : (σ.maybeTimeout now x).activeId x.session ≠ [])
    (calls : List SocketCalls) :
    (startFeature host now σ x calls).response = activeRefusal := by
  simp [startFeature, hactive, activeRefusal, alreadyActive]

/-- A response with another text is another response. -/
theorem errorResponse_ne_activeRefusal {status : Nat} {error : CppString}
    (h : error ≠ alreadyActive) : errorResponse status error ≠ activeRefusal := by
  intro hsame
  have hbody := congrArg HttpResponse.body hsame
  exact h (jsonError_injective hbody)

/-- Texts that differ in their first two bytes differ. -/
theorem ne_of_take_two {text text' : CppString} (h : text.take 2 ≠ text'.take 2) :
    text ≠ text' := by
  rintro rfl
  exact h rfl

/-- The complaint about addresses reads differently. -/
theorem addressCountError_ne {options : ServerOptions} {bindCount : Nat} {error : CppString}
    (h : addressCountError options bindCount = some error) : error ≠ alreadyActive := by
  have hfeature : str "feature requires " = 102 :: 101 :: str "ature requires " := by decide
  unfold addressCountError at h
  apply ne_of_take_two
  split at h
  · cases h
    simp [hfeature, alreadyActive]
    decide
  · split at h
    · cases h
      simp [hfeature, alreadyActive]
      decide
    · cases h

/-- So does the one about an address that cannot be bound. -/
theorem missingBindMessage_ne (address : CppString) :
    missingBindMessage address ≠ alreadyActive := by
  have haddress : str "address " = 97 :: 100 :: str "dress " := by decide
  have hloopback : str "address 127.0.0.2 is not configured on the FreeBSD host; " =
      97 :: 100 :: str "dress 127.0.0.2 is not configured on the FreeBSD host; " := by decide
  unfold missingBindMessage
  apply ne_of_take_two
  split
  · simp [hloopback, alreadyActive]
    decide
  · simp [haddress, alreadyActive]
    decide

/-- No error number is described by the text of the refusal. -/
def StrerrorApart (host : Host) : Prop :=
  ∀ errno, host.strerror errno ≠ alreadyActive

/-- The errors of the set-up read differently. -/
theorem setupListeningSocket_error_ne (hstrerror : StrerrorApart host) {bindCount fd : Nat}
    {calls : SetupCalls} {error : CppString}
    (h : setupListeningSocket host bindCount fd calls = .error error) :
    error ≠ alreadyActive := by
  have hbind : ∀ errno address, bindError host errno address ≠ alreadyActive := by
    intro errno address
    unfold bindError
    split
    · exact missingBindMessage_ne address
    · exact hstrerror errno
  have hinvalid : ∀ address, str "invalid IPv4 bind address " ++ address ≠ alreadyActive := by
    intro address
    have htext : str "invalid IPv4 bind address " =
        105 :: 110 :: str "valid IPv4 bind address " := by decide
    apply ne_of_take_two
    simp [htext, alreadyActive]
    decide
  unfold setupListeningSocket at h
  dsimp only at h
  repeat' split at h
  all_goals first | contradiction | cases h
  · exact hstrerror _
  · exact hinvalid _
  · exact hbind _ _
  · exact hstrerror _
  · exact hbind _ _
  · exact hstrerror _
  · exact hstrerror _

/-- So do all errors of the sockets. -/
theorem createSockets_error_ne (hstrerror : StrerrorApart host) {count : Nat}
    {calls : List SocketCalls} {sockets : List ListeningSocket} {error : CppString}
    (h : createSockets host σ x count calls sockets = (τ, .error error)) :
    error ≠ alreadyActive := by
  induction count generalizing σ calls sockets with
  | zero => cases h
  | succ count ih =>
      unfold createSockets at h
      rcases hone : createListeningSocket host σ x (calls.headD {}) with ⟨σ', error' | socketInfo⟩
      · rw [hone] at h
        cases h
        unfold createListeningSocket at hone
        dsimp only at hone
        split at hone
        · rename_i haddress
          cases hone
          exact addressCountError_ne haddress
        · split at hone
          · cases hone
            exact hstrerror _
          · split at hone
            · rename_i hsetup
              cases hone
              exact setupListeningSocket_error_ne hstrerror hsetup
            · cases hone
      · rw [hone] at h
        exact ih h

/-- In a session that names no feature a start gets another answer. -/
theorem startFeature_not_refused (hstrerror : StrerrorApart host)
    (hfree : (σ.maybeTimeout now x).activeId x.session = []) (calls : List SocketCalls) :
    (startFeature host now σ x calls).response ≠ activeRefusal := by
  unfold startFeature
  simp only [hfree, ne_eq, not_true_eq_false, if_false]
  split
  · apply errorResponse_ne_activeRefusal
    decide
  · split
    · apply errorResponse_ne_activeRefusal
      decide
    · split
      · rename_i hcreated
        exact errorResponse_ne_activeRefusal (createSockets_error_ne hstrerror hcreated)
      · intro hsame
        have hstatus : (200 : Nat) = 409 := congrArg HttpResponse.status hsame
        omega

/-! ## Blocked sessions -/

/-- The answer to a start of `x`. -/
def Sequential.startResponse (host : Host) (s : Sequential c) (now : TimePoint) (x : Target c)
    (calls : List SocketCalls) : HttpResponse :=
  (s.handle host now (.feature x .start) calls).2

/-- If all active features of its session have expired, a start of `x` is not
refused because of one. -/
def StartUnblocked (host : Host) (s : Sequential c) (now : TimePoint) (x : Target c)
    (calls : List SocketCalls) : Prop :=
  (∀ y : Target c, y.session = x.session → (s.shared.execution y).state = .active →
      (s.shared.execution y).deadlineAt ≤ now) →
    s.startResponse host now x calls ≠ activeRefusal

/-- A start of a pending feature is refused if the session names a feature, and
only then. -/
theorem startResponse_eq_iff (hstrerror : StrerrorApart host)
    (hpending : (s.shared.execution x).state = .pending) (calls : List SocketCalls) :
    s.startResponse host now x calls = activeRefusal ↔ s.shared.activeId x.session ≠ [] := by
  have hidle : ((s.shared.openDescriptor .other).execution x).state ≠ .active := by
    simp [hpending]
  have hresponse : s.startResponse host now x calls =
      (startFeature host now (s.shared.openDescriptor .other) x calls).response := by
    unfold Sequential.startResponse Sequential.handle
    dsimp only
    split <;> simp [handleRequest, maybeTimeout_of_not_active hidle]
  have hpolled : ((s.shared.openDescriptor .other).maybeTimeout now x).activeId x.session =
      s.shared.activeId x.session := by
    rw [maybeTimeout_of_not_active hidle, Shared.activeId_openDescriptor]
  rw [hresponse]
  constructor
  · intro hrefused hfree
    exact startFeature_not_refused hstrerror (hpolled.trans hfree) calls hrefused
  · intro hnamed
    apply startFeature_refused
    rwa [hpolled]

/-- A session is blocked by an expired feature exactly if it has one: no start
takes an expired feature out of the way. -/
theorem startUnblocked_iff (hstrerror : StrerrorApart host) (hinitial : s.Initial)
    (events : List (Timed c))
    (hpending : ((s.run host events).shared.execution x).state = .pending)
    (calls : List SocketCalls) :
    StartUnblocked host (s.run host events) now x calls ↔
      ¬∃ y : Target c, y.session = x.session ∧
        ((s.run host events).shared.execution y).state = .active ∧
        ((s.run host events).shared.execution y).deadlineAt ≤ now := by
  have htidy := (Sequential.run_orderly (orderly_of_initial hinitial) host events).tidy
  constructor
  · rintro hunblocked ⟨y, hsession, hactive, hexpired⟩
    refine hunblocked ?_ ((startResponse_eq_iff hstrerror hpending calls).mpr ?_)
    · intro z hz hactive'
      have hsame : z = y := htidy.active_unique (hz.trans hsession.symm) hactive hactive'
      rwa [hsame]
    · rw [← hsession, (htidy.named y).mpr hactive]
      exact Catalog.id_ne_nil y.feature
  · intro hnone hexpired hrefused
    refine (startResponse_eq_iff hstrerror hpending calls).mp hrefused ?_
    apply htidy.activeId_eq_nil
    intro r hactive
    exact hnone ⟨⟨x.session, r⟩, rfl, hactive, hexpired ⟨x.session, r⟩ rfl hactive⟩

theorem sampleHost_strerrorApart : StrerrorApart sampleHost := by
  intro errno
  have htext : str "Unknown error" ≠ alreadyActive := by decide
  exact htext

/-- socket_create is started and completed in time. -/
def completedInTime : List (Timed sampleCatalog) :=
  [⟨seconds 0, .request (.feature socketCreate .start) []⟩,
    ⟨seconds 5, .request (.feature socketCreate (.complete (str "\x7b\x7d"))) []⟩]

theorem startUnblocked_completedInTime :
    StartUnblocked sampleHost (sampleServer.run sampleHost completedInTime) (seconds 25)
      negativeConnect [] := by
  refine (startUnblocked_iff sampleHost_strerrorApart sampleServer_initial completedInTime
    (by decide) []).mpr ?_
  rintro ⟨⟨session, r⟩, hsession, hactive, -⟩
  cases hsession
  have hnone : ∀ r, ((sampleServer.run sampleHost completedInTime).shared.execution
      ⟨0, r⟩).state ≠ .active := by decide
  exact hnone r hactive

/-- socket_create is started and never heard of again. -/
def abandoned : List (Timed sampleCatalog) :=
  [⟨seconds 0, .request (.feature socketCreate .start) []⟩]

theorem startUnblocked_abandoned :
    ¬∀ (c : Catalog) (host : Host) (s : Sequential c) (events : List (Timed c)) (x : Target c)
      (now : TimePoint) (calls : List SocketCalls), StrerrorApart host → s.Initial →
      ((s.run host events).shared.execution x).state = .pending →
      StartUnblocked host (s.run host events) now x calls := by
  intro hclaim
  have hunblocked := hclaim sampleCatalog sampleHost sampleServer abandoned negativeConnect
    (seconds 25) [] sampleHost_strerrorApart sampleServer_initial (by decide)
  have hexpired : ∀ r, ((sampleServer.run sampleHost abandoned).shared.execution
      ⟨0, r⟩).deadlineAt ≤ seconds 25 := by decide
  refine hunblocked ?_ (by decide)
  rintro ⟨session, r⟩ hsession -
  cases hsession
  exact hexpired r

end SctpConformance
