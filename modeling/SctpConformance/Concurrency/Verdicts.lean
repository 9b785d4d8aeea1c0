import SctpConformance.Concurrency.Activation

/-!
# Verdicts and the active feature id

What the other operations can do to a feature between the sections of its start.
Every operation but the activation tests the state in the section that writes
it, so verdicts stay as long as no start activates a feature that has one.  The
write of `active_feature_id` tests nothing: it has to come before the clean-up of
whoever ends the feature, or the session goes on naming a feature that is over.

Main results:

- Theorem `step_state`: how a step can change the state of a feature.
- Theorem `keepsVerdicts_iff`: verdicts stay exactly as long as no start
  activates a feature that has one.
- Theorem `notWedged`: if every start announces its feature in time, a session
  at rest names only active features.
-/

namespace SctpConformance

open Library

variable {c : Catalog} {host : Host} {start last : ServerState c} {run : List (ServerTransition c)}

/-! ## Verdicts -/

/-- An activation finds a feature that has no verdict. -/
def ActivatesUnfinished (τ : ServerTransition c) : Prop :=
  ∀ s ∈ τ.head?, ∀ x ∈ s.activates, ¬(τ.source.shared.execution x).state.Terminal

instance : DecidablePred (ActivatesUnfinished (c := c)) := fun τ =>
  inferInstanceAs (Decidable (∀ s ∈ τ.head?, ∀ x ∈ s.activates,
    ¬(τ.source.shared.execution x).state.Terminal))

/-- A verdict that a feature has at some point of the run is its state after
every later step. -/
def KeepsVerdicts (host : Host) (start : ServerState c) (run : List (ServerTransition c)) : Prop :=
  ∀ front back middle, run = front ++ back → ServerRun host start front middle →
    ∀ x, (middle.shared.execution x).state.Terminal → ∀ τ ∈ back,
      (τ.target.shared.execution x).state = (middle.shared.execution x).state

/-- A step changes the state of a feature only by activating it or by ending it,
and whoever ends it has its clean-up to do. -/
theorem step_state {τ : ServerTransition c}
    (hstep : (server host).step τ.source τ.action = some τ.target) (x : Target c) :
    ((τ.target.shared.execution x).state = (τ.source.shared.execution x).state) ∨
    ((∃ s ∈ τ.head?, x ∈ s.activates) ∧ (τ.target.shared.execution x).state = .active) ∨
    (¬(τ.source.shared.execution x).state.Terminal ∧
      (τ.target.shared.execution x).state.Terminal ∧
      ∀ s ∈ finish x, τ.target.Pending s) := by
  rcases server_step_cases hstep with ⟨request, ha, htarget⟩ |
    ⟨i, input, s, rest, hi, ha, hhead, htarget⟩
  · exact Or.inl (by simp [htarget])
  · rw [htarget, Pool.shared_advance]
    rcases exec_state host τ.source.shared s input x with
      hsame | ⟨⟨k, sockets, rfl, rfl⟩, hactive⟩ | ⟨hlive, hterminal, tail, hnext⟩
    · exact Or.inl hsame
    · exact Or.inr (Or.inl ⟨⟨_, System.head?_of_run ha hhead, rfl⟩, hactive⟩)
    · refine Or.inr (Or.inr ⟨?_, hterminal, ?_⟩)
      · intro hended
        exact hlive.elim hended.1 hended.2
      · intro t ht
        refine Pool.pending_of_mem_next hi ?_ rest
        rw [hnext]
        exact List.mem_append_left _ ht

/-- Verdicts are final in a run exactly if no start activates a feature that has one. -/
theorem keepsVerdicts_iff (hrun : ServerRun host start run last) :
    KeepsVerdicts host start run ↔ ∀ τ ∈ run, ActivatesUnfinished τ := by
  constructor
  · intro hkeeps τ hτ s hs x hx hterminal
    rcases hrun.before hτ with ⟨front, back, hsplit, hfront⟩
    have hsame := hkeeps front (τ :: back) τ.source hsplit hfront x hterminal τ List.mem_cons_self
    have hactive : (τ.target.shared.execution x).state = .active := by
      rcases server_step_cases (hrun.enabled hτ) with ⟨request, ha, -⟩ |
        ⟨i, input, t, rest, hi, ha, hhead, htarget⟩
      · simp [Transition.head?, ha] at hs
      · rw [System.head?_of_run ha hhead] at hs
        cases hs
        rw [htarget, Pool.shared_advance]
        exact exec_activates hx
    rw [hactive] at hsame
    exact hterminal.2 hsame.symm
  · intro hunfinished front back middle hsplit hfront x hterminal τ hτ
    subst hsplit
    rcases hrun.split with ⟨middle', hfront', hback⟩
    have hmiddle := hfront'.unique hfront
    subst hmiddle
    have hkept : ∀ τ ∈ back,
        (τ.source.shared.execution x).state = (middle'.shared.execution x).state →
        (τ.target.shared.execution x).state = (middle'.shared.execution x).state := by
      intro τ hτ hsource
      rcases step_state (hback.enabled hτ) x with
        hsame | ⟨⟨s, hs, hx⟩, -⟩ | ⟨hlive, -, -⟩
      · rw [hsame, hsource]
      · have hlive := hunfinished τ (List.mem_append_right _ hτ) s hs x hx
        rw [hsource] at hlive
        exact absurd hterminal hlive
      · rw [hsource] at hlive
        exact absurd hterminal hlive
    exact Run.ever_after (P := fun p => (p.shared.execution x).state =
      (middle'.shared.execution x).state) hkept hback rfl hτ

/-- A start, and an unsupported report for the feature while it is active. -/
def startThenUnsupported : List (ServerAction sampleCatalog) :=
  startAlone ++ [.arrive (.feature socketCreate (.unsupported (str "\x7b\x7d")))] ++
    List.replicate 7 (.run 1 {})

theorem keepsVerdicts_startThenUnsupported :
    ∃ last, ServerRun sampleHost sampleStart
        (record (server sampleHost).step sampleStart startThenUnsupported) last ∧
      (last.shared.execution socketCreate).state = .unsupported ∧
      KeepsVerdicts sampleHost sampleStart
        (record (server sampleHost).step sampleStart startThenUnsupported) := by
  have hrun : ∃ last, ServerRun sampleHost sampleStart
      (record (server sampleHost).step sampleStart startThenUnsupported) last ∧
      (last.shared.execution socketCreate).state = .unsupported := exists_run (by decide)
  rcases hrun with ⟨last, hrun, hstate⟩
  exact ⟨last, hrun, hstate, (keepsVerdicts_iff hrun).mpr (by decide)⟩

/-- An unsupported report between the test of Pending and the activation. -/
def unsupportedBeforeActivation : List (ServerAction sampleCatalog) :=
  [.arrive (.feature socketCreate .start)] ++ List.replicate 4 (.run 0 {}) ++
    [.arrive (.feature socketCreate (.unsupported (str "\x7b\x7d")))] ++
    List.replicate 7 (.run 1 {})

theorem keepsVerdicts_unsupportedBeforeActivation :
    ¬∀ (c : Catalog) (host : Host) (start last : ServerState c) (run : List (ServerTransition c)),
      Initial start → ServerRun host start run last → KeepsVerdicts host start run := by
  intro hclaim
  have hrun : ∃ middle, ServerRun sampleHost sampleStart
      (record (server sampleHost).step sampleStart unsupportedBeforeActivation) middle ∧
      ((middle.shared.execution socketCreate).state = .unsupported ∧
        ((server sampleHost).step middle (.run 0 {})).any fun last =>
          decide ((last.shared.execution socketCreate).state = .active)) :=
    exists_run (by decide)
  rcases hrun with ⟨middle, hrun, hstate, hany⟩
  cases hlast : (server sampleHost).step middle (.run 0 {}) with
  | none => simp [hlast] at hany
  | some last =>
      have hactive : (last.shared.execution socketCreate).state = .active := by
        simpa [hlast] using hany
      have hkeeps := hclaim _ _ _ _ _ sampleStart_initial (hrun.snoc hlast)
      have hsame := hkeeps _ _ middle rfl hrun socketCreate (by simp [hstate, FeatureState.Terminal])
        ⟨middle, .run 0 {}, last⟩ (List.mem_singleton_self _)
      rw [hactive, hstate] at hsame
      contradiction

/-! ## The active feature id -/

/-- The execution that a section writes to `active_feature_id`. -/
def Section.names : Section c → Option (Target c)
  | .setActiveFeature h _ => some h.target
  | _ => none

/-- The sections of workers; no handler and no clean-up is in progress while
only these are left to run. -/
def Section.isWorker : Section c → Bool
  | .receive _ _ => true
  | .receiving _ _ => true
  | .send _ _ => true
  | .markFailed _ _ => true
  | .markNetworkComplete _ => true
  | _ => false

/-- No handler and no terminal transition is in progress. -/
def Quiescent (p : ServerState c) : Prop :=
  ∀ i < p.count, ∀ s ∈ p.threads i, s.isWorker = true

instance (p : ServerState c) : Decidable (Quiescent p) :=
  inferInstanceAs (Decidable (∀ i < p.count, ∀ s ∈ p.threads i, s.isWorker = true))

/-- A non-empty `active_feature_id` names an active feature of its session. -/
def NotWedged (σ : Shared c) : Prop :=
  ∀ session, σ.activeId session ≠ [] →
    ∃ r, σ.activeId session = c.id r ∧ (σ.execution ⟨session, r⟩).state = .active

/-- A start writes `active_feature_id` while its feature is active, or at least
before the clean-up that clears it again. -/
def AnnouncesInTime (τ : ServerTransition c) : Prop :=
  ∀ s ∈ τ.head?, ∀ x ∈ s.names,
    (τ.source.shared.execution x).state = .active ∨ τ.source.Pending (.clearActiveFeature x)

instance : DecidablePred (AnnouncesInTime (c := c)) := fun τ =>
  inferInstanceAs (Decidable (∀ s ∈ τ.head?, ∀ x ∈ s.names,
    (τ.source.shared.execution x).state = .active ∨ τ.source.Pending (.clearActiveFeature x)))

/-- The invariant behind `NotWedged`: a session names a feature only while the
feature is active or its clean-up is still to come. -/
structure NamesLive (p : ServerState c) : Prop where
  ids : ∀ session, p.shared.activeId session = [] ∨ ∃ r, p.shared.activeId session = c.id r
  live : ∀ x : Target c, p.shared.activeId x.session = c.id x.feature →
    (p.shared.execution x).state = .active ∨ p.Pending (.clearActiveFeature x)

/-- At the beginning no session names a feature. -/
theorem namesLive_of_initial (hstart : Initial start) : NamesLive start where
  ids session := Or.inl (hstart.fresh session).1
  live x hx := by
    have hempty : start.shared.activeId x.session = [] := (hstart.fresh x.session).1
    rw [hempty] at hx
    exact absurd hx.symm (c.id_ne_nil x.feature)

/-- A step changes the active feature id of a session by writing the id of the
feature that is started or by clearing the id of one that has ended. -/
theorem step_activeId {τ : ServerTransition c}
    (hstep : (server host).step τ.source τ.action = some τ.target) (session : Nat) :
    (τ.target.shared.activeId session = τ.source.shared.activeId session) ∨
    (∃ s ∈ τ.head?, ∃ x ∈ s.names, x.session = session ∧
      τ.target.shared.activeId session = c.id x.feature) ∨
    (τ.target.shared.activeId session = []) := by
  rcases server_step_cases hstep with ⟨request, ha, htarget⟩ |
    ⟨i, input, s, rest, hi, ha, hhead, htarget⟩
  · exact Or.inl (by simp [htarget])
  · rw [htarget, Pool.shared_advance]
    rcases exec_activeId host τ.source.shared s input session with
      hkept | ⟨k, sockets, rfl, hsession, hwritten⟩ | ⟨x, rfl, -, -, hcleared⟩
    · exact Or.inl hkept
    · have hs := System.head?_of_run ha hhead
      exact Or.inr (Or.inl ⟨_, hs, k.target, rfl, hsession, hwritten⟩)
    · exact Or.inr (Or.inr hcleared)

/-- A pending clean-up stays pending until the session no longer names the feature. -/
theorem step_clear {τ : ServerTransition c}
    (hstep : (server host).step τ.source τ.action = some τ.target) {x : Target c}
    (hpending : τ.source.Pending (.clearActiveFeature x)) :
    τ.target.Pending (.clearActiveFeature x) ∨
      τ.target.shared.activeId x.session ≠ c.id x.feature := by
  rcases server_step_cases hstep with ⟨request, ha, htarget⟩ |
    ⟨i, input, s, rest, hi, ha, hhead, htarget⟩
  · rw [htarget]
    exact Or.inl (Pool.Pending.launch hpending _)
  · rw [htarget, Pool.shared_advance]
    by_cases hs : .clearActiveFeature x = s
    · subst hs
      exact Or.inr (exec_clearActiveFeature host τ.source.shared input x)
    · exact Or.inl (Pool.Pending.advance hpending hi hhead hs)

/-- A step keeps the invariant if a start announces its feature in time. -/
theorem NamesLive.step {τ : ServerTransition c}
    (hstep : (server host).step τ.source τ.action = some τ.target) (hintime : AnnouncesInTime τ)
    (h : NamesLive τ.source) : NamesLive τ.target where
  ids session := by
    rcases step_activeId hstep session with hkept | ⟨s, -, x, -, -, hwritten⟩ | hcleared
    · rw [hkept]
      exact h.ids session
    · exact Or.inr ⟨x.feature, hwritten⟩
    · exact Or.inl hcleared
  live x hx := by
    have hlive : (τ.source.shared.execution x).state = .active ∨
        τ.source.Pending (.clearActiveFeature x) := by
      rcases step_activeId hstep x.session with hkept | ⟨s, hs, y, hy, hsession, hwritten⟩ | hcleared
      · exact h.live x (hkept ▸ hx)
      · have hxy : y = x := Target.eq_of_id hsession (hwritten.symm.trans hx)
        subst hxy
        exact hintime s hs y hy
      · rw [hcleared] at hx
        exact absurd hx.symm (c.id_ne_nil x.feature)
    rcases hlive with hactive | hpending
    · rcases step_state hstep x with hsame | ⟨-, hactivated⟩ | ⟨-, -, hpending⟩
      · exact Or.inl (hsame.trans hactive)
      · exact Or.inl hactivated
      · exact Or.inr (hpending _ (by simp [finish]))
    · exact Or.inr ((step_clear hstep hpending).resolve_right (not_not_intro hx))

/-- If every start announces its feature in time, a session at rest names only
active features. -/
theorem notWedged (hstart : Initial start) (hrun : ServerRun host start run last)
    (hintime : ∀ τ ∈ run, AnnouncesInTime τ) (hquiescent : Quiescent last) :
    NotWedged last.shared := by
  have hinvariant : NamesLive last := by
    refine Run.invariant ?_ hrun hintime (namesLive_of_initial hstart)
    intro τ hstep hτ h
    exact h.step hstep hτ
  intro session hne
  rcases hinvariant.ids session with hempty | ⟨r, hr⟩
  · exact absurd hempty hne
  · refine ⟨r, hr, ?_⟩
    rcases hinvariant.live ⟨session, r⟩ hr with hactive | ⟨i, hi⟩
    · exact hactive
    · have hworker := hquiescent i (Pool.lt_count_of_mem hi) _ hi
      simp [Section.isWorker] at hworker

theorem notWedged_startAlone :
    ∃ last, ServerRun sampleHost sampleStart
        (record (server sampleHost).step sampleStart startAlone) last ∧
      last.shared.activeId 0 = str "socket_create" ∧ NotWedged last.shared := by
  have hrun : ∃ last, ServerRun sampleHost sampleStart
      (record (server sampleHost).step sampleStart startAlone) last ∧
      (last.shared.activeId 0 = str "socket_create" ∧ Quiescent last) := exists_run (by decide)
  rcases hrun with ⟨last, hrun, hid, hquiescent⟩
  exact ⟨last, hrun, hid, notWedged sampleStart_initial hrun (by decide) hquiescent⟩

/-- An unsupported report between the activation and the write of `active_feature_id`. -/
def unsupportedBeforeAnnouncement : List (ServerAction sampleCatalog) :=
  [.arrive (.feature socketCreate .start)] ++ List.replicate 5 (.run 0 {}) ++
    [.arrive (.feature socketCreate (.unsupported (str "\x7b\x7d")))] ++
    List.replicate 7 (.run 1 {}) ++ List.replicate 6 (.run 0 {})

theorem notWedged_unsupportedBeforeAnnouncement :
    ¬∀ (c : Catalog) (host : Host) (start last : ServerState c) (run : List (ServerTransition c)),
      Initial start → ServerRun host start run last → Quiescent last → NotWedged last.shared := by
  intro hclaim
  have hrun : ∃ last, ServerRun sampleHost sampleStart
      (record (server sampleHost).step sampleStart unsupportedBeforeAnnouncement) last ∧
      (Quiescent last ∧ last.shared.activeId 0 ≠ [] ∧
        ∀ r, (last.shared.execution ⟨0, r⟩).state ≠ .active) := exists_run (by decide)
  rcases hrun with ⟨last, hrun, hquiescent, hne, hnone⟩
  rcases hclaim _ _ _ _ _ sampleStart_initial hrun hquiescent 0 hne with ⟨r, -, hactive⟩
  exact hnone r hactive

end SctpConformance
