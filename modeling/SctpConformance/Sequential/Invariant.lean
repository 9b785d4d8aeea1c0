import SctpConformance.Sequential.Effects

/-!
# The invariant of the server handling one thing at a time

Between two events the shared state is tidy: `active_feature_id` names the
active feature of a session if there is one, every listed descriptor is a
listening socket of the execution that lists it, and a pending feature has the
record it was made with.  A worker of an active feature makes its calls on
descriptors that the feature still lists.

Main results:

- Definition `Tidy`: the invariant of the shared state.
- Theorems `Tidy.maybeTimeout`, `Tidy.markFailed` and `Tidy.markNetworkComplete`:
  the helpers of the handlers and the workers keep it.
- Theorem `Tidy.activateScenario`: so does the activation of a feature.
-/

namespace SctpConformance

open Library

variable {c : Catalog} {host : Host} {σ τ υ : Shared c} {x : Target c} {now : TimePoint}

/-! ## Tidy states -/

/-- A session names its active feature, listed sockets listen for the feature that lists them,
and a pending feature is as it was made. -/
structure Tidy (σ : Shared c) : Prop where
  ids : ∀ session, σ.activeId session = [] ∨ ∃ r, σ.activeId session = c.id r
  named : ∀ x : Target c,
    σ.activeId x.session = c.id x.feature ↔ (σ.execution x).state = .active
  listed : ∀ x, ListeningFor σ x (σ.execution x).activeFds
  pristine : ∀ x, (σ.execution x).state = .pending → σ.execution x = {}

/-- The state `τ` is tidy, and as far as `σ` goes nothing but features has moved
on: connections stay open, and a feature that is active has kept its sockets or
has just been started. -/
structure Kept (σ τ : Shared c) : Prop where
  tidy : Tidy τ
  others : ∀ n, σ.descriptors.lookup n = some .other → τ.descriptors.lookup n = some .other
  pending : ∀ y, (τ.execution y).state = .pending → (σ.execution y).state = .pending
  active : ∀ y, (τ.execution y).state = .active →
    (σ.execution y).state = .pending ∨
      (σ.execution y).state = .active ∧ (τ.execution y).activeFds = (σ.execution y).activeFds

/-- Nothing need happen. -/
theorem Tidy.kept (h : Tidy σ) : Kept σ σ where
  tidy := h
  others := fun _ hn => hn
  pending := fun _ hy => hy
  active := fun _ hy => Or.inr ⟨hy, rfl⟩

/-- What is kept twice is kept. -/
theorem Kept.trans (h : Kept σ τ) (h' : Kept τ υ) : Kept σ υ where
  tidy := h'.tidy
  others := fun n hn => h'.others n (h.others n hn)
  pending := fun y hy => h.pending y (h'.pending y hy)
  active := by
    intro y hy
    rcases h'.active y hy with hpending | ⟨hactive, hfds⟩
    · exact Or.inl (h.pending y hpending)
    · rcases h.active y hactive with hpending | ⟨hactive', hfds'⟩
      · exact Or.inl hpending
      · exact Or.inr ⟨hactive', hfds.trans hfds'⟩

namespace Tidy

/-- A session without an active feature has an empty `active_feature_id`. -/
theorem activeId_eq_nil (h : Tidy σ) {session : Nat}
    (hnone : ∀ r, (σ.execution ⟨session, r⟩).state ≠ .active) : σ.activeId session = [] := by
  rcases h.ids session with hnil | ⟨r, hr⟩
  · exact hnil
  · exact absurd ((h.named ⟨session, r⟩).mp hr) (hnone r)

/-- Two active features of a session are the same one. -/
theorem active_unique (h : Tidy σ) {y : Target c} (hsession : y.session = x.session)
    (hx : (σ.execution x).state = .active) (hy : (σ.execution y).state = .active) : y = x := by
  have hidx := (h.named x).mpr hx
  have hidy := (h.named y).mpr hy
  rw [hsession, hidx] at hidy
  have hfeature := Catalog.id_injective hidy
  rcases x with ⟨session, feature⟩
  rcases y with ⟨session', feature'⟩
  simp_all

/-- A descriptor is listed by one execution. -/
theorem not_mem_of_ne (h : Tidy σ) {y : Target c} (hne : y ≠ x) {fd : Nat}
    (hy : fd ∈ (σ.execution y).activeFds) : fd ∉ (σ.execution x).activeFds := by
  intro hx
  rcases h.listed y fd hy with ⟨serial, hserial⟩
  rcases h.listed x fd hx with ⟨serial', hserial'⟩
  rw [hserial] at hserial'
  cases hserial'
  exact hne rfl

/-- A record may change in what is neither its state nor its descriptors. -/
theorem setExecution (h : Tidy σ) {e : FeatureExecution}
    (hstate : e.state = (σ.execution x).state)
    (hfds : e.activeFds = (σ.execution x).activeFds) (hactive : e.state = .active) :
    Kept σ (σ.setExecution x e) := by
  have hstates : ∀ y, ((σ.setExecution x e).execution y).state = (σ.execution y).state := by
    intro y
    by_cases hy : y = x <;> simp [hy, hstate]
  have hlisted : ∀ y,
      ((σ.setExecution x e).execution y).activeFds = (σ.execution y).activeFds := by
    intro y
    by_cases hy : y = x <;> simp [hy, hfds]
  refine ⟨⟨?_, ?_, ?_, ?_⟩, fun n hn => hn, ?_, ?_⟩
  · intro session
    simpa using h.ids session
  · intro y
    rw [hstates]
    simpa using h.named y
  · intro y fd hfd
    rw [hlisted] at hfd
    exact h.listed y fd hfd
  · intro y hy
    have hne : y ≠ x := by
      rintro rfl
      simp [hactive] at hy
    rw [hstates] at hy
    simpa [hne] using h.pristine y hy
  · intro y hy
    rwa [hstates] at hy
  · intro y hy
    rw [hstates] at hy
    exact Or.inr ⟨hy, hlisted y⟩

/-- `close_active_fds` leaves a tidy state. -/
theorem closeActiveFds (h : Tidy σ) (x : Target c) : Tidy (σ.closeActiveFds x) := by
  refine ⟨?_, ?_, ?_, ?_⟩
  · intro session
    simpa using h.ids session
  · intro y
    by_cases hy : y = x
    · simpa [hy] using h.named x
    · simpa [hy] using h.named y
  · intro y fd hfd
    by_cases hy : y = x
    · simp [hy] at hfd
    · simp only [Shared.execution_closeActiveFds, if_neg hy] at hfd
      rcases h.listed y fd hfd with ⟨serial, hserial⟩
      refine ⟨serial, ?_⟩
      rw [Shared.lookup_closeActiveFds, if_neg (h.not_mem_of_ne hy hfd), hserial]
  · intro y hy
    by_cases hyx : y = x
    · subst hyx
      simp only [Shared.execution_closeActiveFds, if_true] at hy ⊢
      rw [h.pristine y hy]
    · simp only [Shared.execution_closeActiveFds, if_neg hyx] at hy ⊢
      exact h.pristine y hy

/-- A terminal transition leaves a tidy state. -/
theorem finish (h : Tidy σ) {e : FeatureExecution} (hterminal : e.state.Terminal)
    (hfds : e.activeFds = (σ.execution x).activeFds) :
    Kept σ ((σ.setExecution x e).finish x) := by
  have hself : ((σ.setExecution x e).finish x).execution x = { e with activeFds := [] } := by
    simp
  have hother : ∀ y, y ≠ x →
      ((σ.setExecution x e).finish x).execution y = σ.execution y := by
    intro y hy
    simp [hy]
  have hid : ∀ session, ((σ.setExecution x e).finish x).activeId session =
      if session = x.session ∧ σ.activeId session = c.id x.feature then []
      else σ.activeId session := by
    intro session
    simp [Shared.activeId_finish]
  have hlookup : ∀ n, ((σ.setExecution x e).finish x).descriptors.lookup n =
      if n ∈ (σ.execution x).activeFds then none else σ.descriptors.lookup n := by
    intro n
    simp [Shared.lookup_finish, hfds]
  refine ⟨⟨?_, ?_, ?_, ?_⟩, ?_, ?_, ?_⟩
  · intro session
    rw [hid]
    split
    · exact Or.inl rfl
    · exact h.ids session
  · intro y
    by_cases hy : y = x
    · subst hy
      rw [hself, hid]
      have hstate : e.state ≠ .active := hterminal.2
      by_cases hnamed : σ.activeId y.session = c.id y.feature
      · simp [hnamed, hstate, (Catalog.id_ne_nil y.feature).symm]
      · simp [hnamed, hstate]
    · rw [hother y hy, hid]
      split
      · rename_i hnamed
        have hinactive : (σ.execution y).state ≠ .active := by
          intro hactive
          have hx := (h.named x).mp (hnamed.1 ▸ hnamed.2)
          exact hy (h.active_unique hnamed.1 hx hactive)
        simp [hinactive, (Catalog.id_ne_nil y.feature).symm]
      · exact h.named y
  · intro y fd hfd
    by_cases hy : y = x
    · subst hy
      simp [hself] at hfd
    · rw [hother y hy] at hfd
      rcases h.listed y fd hfd with ⟨serial, hserial⟩
      exact ⟨serial, by rw [hlookup, if_neg (h.not_mem_of_ne hy hfd), hserial]⟩
  · intro y hpending
    have hy : y ≠ x := by
      rintro rfl
      rw [hself] at hpending
      exact hterminal.1 hpending
    rw [hother y hy] at hpending ⊢
    exact h.pristine y hpending
  · intro n hn
    have hunlisted : n ∉ (σ.execution x).activeFds := by
      intro hmem
      rcases h.listed x n hmem with ⟨serial, hserial⟩
      rw [hn] at hserial
      cases hserial
    rw [hlookup, if_neg hunlisted, hn]
  · intro y hpending
    have hy : y ≠ x := by
      rintro rfl
      rw [hself] at hpending
      exact absurd hpending hterminal.1
    rwa [hother y hy] at hpending
  · intro y hactive
    have hy : y ≠ x := by
      rintro rfl
      rw [hself] at hactive
      exact absurd hactive hterminal.2
    rw [hother y hy] at hactive ⊢
    exact Or.inr ⟨hactive, rfl⟩

end Tidy

/-! ## The helpers keep tidy states -/

/-- A feature that is not active does not time out. -/
theorem maybeTimeout_of_not_active (h : (σ.execution x).state ≠ .active) :
    σ.maybeTimeout now x = σ := by
  unfold Shared.maybeTimeout
  rw [FeatureExecution.timeOut_eq_none (Or.inl h)]

/-- A feature that times out gives back its sockets and its name. -/
theorem Tidy.maybeTimeout (h : Tidy σ) (now : TimePoint) (x : Target c) :
    Kept σ (σ.maybeTimeout now x) := by
  unfold Shared.maybeTimeout
  split
  · exact h.kept
  · rename_i e he
    rcases FeatureExecution.timeOut_eq_some_iff.mp he with ⟨-, -, rfl⟩
    exact h.finish ⟨by simp, by simp⟩ rfl

/-- A feature that fails gives back its sockets and its name. -/
theorem Tidy.markFailed (h : Tidy σ) (now : TimePoint) (x : Target c) (message : CppString) :
    Kept σ (σ.markFailed now x message) := by
  unfold Shared.markFailed
  split
  · exact h.kept
  · rename_i e he
    rcases FeatureExecution.fail_eq_some_iff.mp he with ⟨-, rfl⟩
    exact h.finish ⟨by simp, by simp⟩ rfl

/-- So does a feature that passes. -/
theorem Tidy.markNetworkComplete (h : Tidy σ) (now : TimePoint) (x : Target c) :
    Tidy (σ.markNetworkComplete now x) := by
  unfold Shared.markNetworkComplete
  split
  · exact h
  · rename_i e finished he
    rcases FeatureExecution.observe_eq_some he with ⟨hactive, -, -, hfds, -, hverdict⟩
    rcases hverdict with ⟨rfl, hstate, -⟩ | ⟨rfl, hstate, -⟩
    · exact (h.finish ⟨by simp [hstate], by simp [hstate]⟩ hfds).tidy
    · have hnoted := h.setExecution (hstate.trans hactive.symm) hfds hstate
      exact hnoted.tidy.closeActiveFds x

/-! ## Starts -/

/-- The messages of a contract are no part of its progress. -/
@[simp]
theorem progress_adjustMessage (e : FeatureExecution) (feature : FeatureDefinition) :
    (e.adjustMessage feature).progress = e.progress := by
  rcases FeatureExecution.adjustMessage_eq e feature with ⟨message, hmessage⟩
  rw [hmessage]
  rfl

/-- Nor do they change its sockets. -/
@[simp]
theorem activeFds_adjustMessage (e : FeatureExecution) (feature : FeatureDefinition) :
    (e.adjustMessage feature).activeFds = e.activeFds := by
  rcases FeatureExecution.adjustMessage_eq e feature with ⟨message, hmessage⟩
  rw [hmessage]

section

variable (σ now x) (sockets : List ListeningSocket) (y : Target c)

/-- Only this feature starts. -/
theorem progress_activateScenario :
    (activateScenario now σ x sockets).progress y =
      if y = x then (σ.progress x).activate (c.definition x.feature) now
      else σ.progress y := by
  by_cases hkind : (c.definition x.feature).scenarioKind = .agentOnly
  · by_cases hy : y = x
    · simp only [activateScenario, hkind, hy, if_true, progress_setExecution,
        Shared.execution_setExecution, Shared.execution_setActiveId, progress_adjustMessage]
      rfl
    · simp [activateScenario, hkind, hy]
  · by_cases hy : y = x
    · simp only [activateScenario, hkind, hy, if_true, if_false, progress_setExecution,
        Shared.execution_setExecution, Shared.execution_setActiveId, progress_adjustMessage]
      rfl
    · simp [activateScenario, hkind, hy]

/-- The other executions stay. -/
theorem execution_activateScenario_of_ne (hy : y ≠ x) :
    (activateScenario now σ x sockets).execution y = σ.execution y := by
  by_cases hkind : (c.definition x.feature).scenarioKind = .agentOnly <;>
    simp [activateScenario, hkind, hy]

/-- The sockets are listed, unless the agent does everything. -/
theorem activeFds_activateScenario :
    ((activateScenario now σ x sockets).execution x).activeFds =
      if (c.definition x.feature).scenarioKind = .agentOnly then (σ.execution x).activeFds
      else sockets.map ListeningSocket.fd := by
  by_cases hkind : (c.definition x.feature).scenarioKind = .agentOnly <;>
    simp [activateScenario, hkind]

/-- The session names the feature. -/
theorem activeId_activateScenario (session : Nat) :
    (activateScenario now σ x sockets).activeId session =
      if session = x.session then c.id x.feature else σ.activeId session := by
  by_cases hkind : (c.definition x.feature).scenarioKind = .agentOnly <;>
    simp [activateScenario, hkind]

/-- The descriptors have been opened before. -/
theorem descriptors_activateScenario :
    (activateScenario now σ x sockets).descriptors = σ.descriptors := by
  by_cases hkind : (c.definition x.feature).scenarioKind = .agentOnly <;>
    simp [activateScenario, hkind]

end

/-- The state of a feature, read off its progress. -/
theorem state_progress (σ : Shared c) (x : Target c) :
    (σ.progress x).state = (σ.execution x).state :=
  rfl

/-- Activating a pending feature of a session without an active one. -/
theorem Tidy.activateScenario (h : Tidy σ) (hnone : σ.activeId x.session = [])
    (hpending : (σ.execution x).state = .pending) {sockets : List ListeningSocket}
    (hlisten : ListeningFor σ x (sockets.map ListeningSocket.fd)) :
    Kept σ (activateScenario now σ x sockets) := by
  have hself : ((SctpConformance.activateScenario now σ x sockets).execution x).state =
      .active := by
    rw [← state_progress, progress_activateScenario, if_pos rfl]
    rfl
  have hother := execution_activateScenario_of_ne σ x now sockets
  have hid := activeId_activateScenario σ x now sockets
  have hdescriptors := descriptors_activateScenario σ x now sockets
  refine ⟨⟨?_, ?_, ?_, ?_⟩, ?_, ?_, ?_⟩
  · intro session
    rw [hid]
    split
    · exact Or.inr ⟨x.feature, rfl⟩
    · exact h.ids session
  · intro y
    by_cases hy : y = x
    · subst hy
      simp [hid, hself]
    · rw [hother y hy, hid]
      split
      · rename_i hsession
        have hidle : (σ.execution y).state ≠ .active := by
          intro hactive
          have hnamed := (h.named y).mpr hactive
          rw [hsession, hnone] at hnamed
          exact Catalog.id_ne_nil y.feature hnamed.symm
        have hdifferent : c.id x.feature ≠ c.id y.feature := by
          intro hsame
          apply hy
          rcases x with ⟨session, feature⟩
          rcases y with ⟨session', feature'⟩
          have hfeature := Catalog.id_injective hsame
          simp_all
        simp [hidle, hdifferent]
      · exact h.named y
  · intro y fd hfd
    rw [hdescriptors]
    by_cases hy : y = x
    · subst hy
      rw [activeFds_activateScenario] at hfd
      split at hfd
      · exact h.listed y fd hfd
      · exact hlisten fd hfd
    · rw [hother y hy] at hfd
      exact h.listed y fd hfd
  · intro y hy
    have hne : y ≠ x := by
      rintro rfl
      rw [hself] at hy
      contradiction
    rw [hother y hne] at hy ⊢
    exact h.pristine y hy
  · intro n hn
    rwa [hdescriptors]
  · intro y hy
    have hne : y ≠ x := by
      rintro rfl
      rw [hself] at hy
      contradiction
    rwa [hother y hne] at hy
  · intro y hy
    by_cases hyx : y = x
    · subst hyx
      exact Or.inl hpending
    · rw [hother y hyx] at hy ⊢
      exact Or.inr ⟨hy, rfl⟩

end SctpConformance
