import SctpConformance.Concurrency.Threads

/-!
# One active feature per session

`StartFeature` tests `active_feature_id` and the state of the feature in two
sections, activates the feature in a third and writes `active_feature_id` in a
last one, while other threads end features and clear the id in between.  The
guard is there to keep a second feature from becoming active; it does so as long
as the activation still finds what the guard has tested.

Main results:

- Theorem `SingleActive.step`: the invariant that an activation under fresh
  tests keeps.
- Theorem `atMostOneActive`: with such activations only, a session never has two
  active features.
-/

namespace SctpConformance

open Library

variable {c : Catalog} {host : Host} {start last : ServerState c} {run : List (ServerTransition c)}

/-! ## Activations and announcements -/

/-- The execution that a section activates. -/
def Section.activates : Section c → Option (Target c)
  | .activate h _ => some h.target
  | _ => none

/-- A section that activates an execution leaves it active. -/
theorem exec_activates {σ : Shared c} {s : Section c} {input : Input} {x : Target c}
    (hx : s.activates = some x) : ((exec host σ s input).shared.execution x).state = .active := by
  cases s with
  | activate h sockets =>
      simp only [Section.activates, Option.some.injEq] at hx
      subst hx
      simp [exec]
  | _ => simp [Section.activates] at hx

/-- Some start has activated the execution and not yet written `active_feature_id`. -/
def Announced (p : ServerState c) (x : Target c) : Prop :=
  ∃ i, ∃ s ∈ p.threads i, s.announces = some x

/-- No start of the session stands between activation and `active_feature_id`. -/
def NoneAnnounced (p : ServerState c) (session : Nat) : Prop :=
  ∀ i < p.count, ∀ s ∈ p.threads i, ∀ x ∈ s.announces, x.session ≠ session

instance (p : ServerState c) (session : Nat) : Decidable (NoneAnnounced p session) :=
  inferInstanceAs (Decidable (∀ i < p.count, ∀ s ∈ p.threads i, ∀ x ∈ s.announces,
    x.session ≠ session))

/-- An activation still finds what its start has tested: no active feature id,
no other start about to write one, and a pending feature. -/
def ActivatesFresh (τ : ServerTransition c) : Prop :=
  ∀ s ∈ τ.head?, ∀ x ∈ s.activates,
    τ.source.shared.activeId x.session = [] ∧
      (τ.source.shared.execution x).state = .pending ∧ NoneAnnounced τ.source x.session

instance : DecidablePred (ActivatesFresh (c := c)) := fun τ =>
  inferInstanceAs (Decidable (∀ s ∈ τ.head?, ∀ x ∈ s.activates,
    τ.source.shared.activeId x.session = [] ∧
      (τ.source.shared.execution x).state = .pending ∧ NoneAnnounced τ.source x.session))

/-! ## One active feature -/

/-- Every session has at most one active feature. -/
def AtMostOneActive (σ : Shared c) : Prop :=
  ∀ x y : Target c, x.session = y.session →
    (σ.execution x).state = .active → (σ.execution y).state = .active → x = y

/-- The invariant behind one active feature per session.  An active feature is
named by its session or about to be; while one is about to be named, no other is
active; and a feature whose clean-up is under way has its verdict. -/
structure SingleActive (p : ServerState c) : Prop where
  named : ∀ x, (p.shared.execution x).state = .active →
    p.shared.activeId x.session = c.id x.feature ∨ Announced p x
  exclusive : ∀ x y, Announced p x → x.session = y.session →
    (p.shared.execution y).state = .active → y = x
  ended : ∀ x, p.Pending (.clearActiveFeature x) → (p.shared.execution x).state.Terminal

/-- Two executions of one session with the same feature id are the same. -/
theorem Target.eq_of_id {x y : Target c} (hsession : x.session = y.session)
    (hid : c.id x.feature = c.id y.feature) : x = y := by
  rcases x with ⟨session, feature⟩
  rcases y with ⟨session', feature'⟩
  have hfeature : feature = feature' := Catalog.id_injective hid
  simp_all

/-- By the invariant no session has two active features. -/
theorem SingleActive.atMostOne {p : ServerState c} (h : SingleActive p) :
    AtMostOneActive p.shared := by
  intro x y hsession hx hy
  rcases h.named x hx with hnamed | hannounced
  · rcases h.named y hy with hnamed' | hannounced'
    · rw [hsession] at hnamed
      exact Target.eq_of_id hsession (hnamed.symm.trans hnamed')
    · exact h.exclusive y x hannounced' hsession.symm hx
  · exact (h.exclusive x y hannounced hsession hy).symm

/-- An announcement found after an arrival was there before. -/
theorem Announced.of_launch {p : ServerState c} {client : Nat} {request : Request c}
    {x : Target c} (h : Announced (p.launch (handlerProgram client request)) x) :
    Announced p x := by
  rcases h with ⟨j, t, ht, hx⟩
  rcases Pool.mem_launch ht with ⟨-, hprogram⟩ | ⟨-, hold⟩
  · exact absurd hx (announces_not_mem_handlerProgram hprogram)
  · exact ⟨j, t, hold, hx⟩

/-- An announcement outlives every step but the one that makes it true. -/
theorem Announced.advance {p : ServerState c} {i : Nat} {hi : i < p.count} {s : Section c}
    {rest : List (Section c)} {input : Input} {x : Target c} (h : Announced p x)
    (hhead : p.threads i = s :: rest) :
    Announced (p.advance i hi (exec host p.shared s input) rest) x ∨
      (exec host p.shared s input).shared.activeId x.session = c.id x.feature := by
  rcases h with ⟨j, t, ht, hx⟩
  by_cases hts : t = s
  · subst hts
    rcases announces_exec host p.shared input hx with ⟨u, hu, hux⟩ | hid
    · rcases Pool.pending_of_mem_next hi hu rest with ⟨k, hk⟩
      exact Or.inl ⟨k, u, hk, hux⟩
    · exact Or.inr hid
  · have hpending : p.Pending t := ⟨j, ht⟩
    rcases Pool.Pending.advance (e := exec host p.shared s input) hpending hi hhead hts with ⟨k, hk⟩
    exact Or.inl ⟨k, t, hk, hx⟩

/-- An announcement found after a step was there before, or its start has just
activated the feature. -/
theorem Announced.of_advance {p : ServerState c} {i : Nat} {hi : i < p.count} {s : Section c}
    {rest : List (Section c)} {input : Input} {x : Target c} (hhead : p.threads i = s :: rest)
    (h : Announced (p.advance i hi (exec host p.shared s input) rest) x) :
    Announced p x ∨ s.activates = some x := by
  have hs : s ∈ p.threads i := by
    rw [hhead]
    exact List.mem_cons_self
  rcases h with ⟨j, t, ht, hx⟩
  rcases Pool.mem_advance ht with ⟨-, hnext | hrest⟩ | ⟨-, hold⟩ | ⟨-, program, hlaunch, hmem⟩
  · rcases announces_mem_next hnext hx with ⟨h, sockets, rfl, rfl | rfl⟩
    · exact Or.inr rfl
    · exact Or.inl ⟨i, _, hs, rfl⟩
  · refine Or.inl ⟨i, t, ?_, hx⟩
    rw [hhead]
    exact List.mem_cons_of_mem s hrest
  · exact Or.inl ⟨j, t, hold, hx⟩
  · rcases exec_launch hlaunch with ⟨h, sockets, worker, -, -, rfl⟩
    rw [List.mem_singleton] at hmem
    subst hmem
    simp at hx

/-- An arrival keeps the invariant. -/
theorem SingleActive.launch {p : ServerState c} (h : SingleActive p) (d : Descriptor c)
    (client : Nat) (request : Request c) :
    SingleActive ((p.withShared (p.shared.openDescriptor d)).launch
      (handlerProgram client request)) where
  named x hx := by
    rcases h.named x hx with hid | ⟨j, t, ht, hannounces⟩
    · exact Or.inl hid
    · refine Or.inr ⟨j, t, ?_, hannounces⟩
      have hlt : j < (p.withShared (p.shared.openDescriptor d)).count := Pool.lt_count_of_mem ht
      rw [Pool.threads_launch_of_lt hlt]
      exact ht
  exclusive x y hx hsession hy := h.exclusive x y hx.of_launch hsession hy
  ended x hx := by
    rcases hx with ⟨j, hj⟩
    rcases Pool.mem_launch hj with ⟨-, hprogram⟩ | ⟨-, hold⟩
    · exact absurd hprogram clear_not_mem_handlerProgram
    · exact h.ended x ⟨j, hold⟩

/-- A section keeps the invariant if an activation finds what its start tested. -/
theorem SingleActive.advance {p : ServerState c} {i : Nat} {hi : i < p.count} {s : Section c}
    {rest : List (Section c)} {input : Input} (h : SingleActive p)
    (hhead : p.threads i = s :: rest)
    (hfresh : ∀ x ∈ s.activates, p.shared.activeId x.session = [] ∧
      (p.shared.execution x).state = .pending ∧ ∀ y, Announced p y → y.session ≠ x.session) :
    SingleActive (p.advance i hi (exec host p.shared s input) rest) where
  named x hx := by
    rw [Pool.shared_advance] at hx ⊢
    rcases exec_state host p.shared s input x with
      hsame | ⟨⟨k, sockets, rfl, rfl⟩, -⟩ | ⟨-, hterminal, -⟩
    · rw [hsame] at hx
      rcases h.named x hx with hid | hannounced
      · rcases exec_activeId host p.shared s input
          x.session with hkept | ⟨k, sockets, rfl, hsession, hwritten⟩ |
          ⟨y, rfl, hsession, hcleared, -⟩
        · rw [hkept]
          exact Or.inl hid
        · -- the feature named instead was announced, so it is the active one
          have hannounced : Announced p k.target := by
            refine ⟨i, .setActiveFeature k sockets, ?_, rfl⟩
            rw [hhead]
            exact List.mem_cons_self
          have hxk := h.exclusive k.target x hannounced hsession hx
          rw [hwritten, hxk]
          exact Or.inl rfl
        · -- only features with a verdict are cleared
          have hyx : y = x := Target.eq_of_id hsession (hcleared.symm.trans hid)
          subst hyx
          have hpending : p.Pending (.clearActiveFeature y) := by
            refine ⟨i, ?_⟩
            rw [hhead]
            exact List.mem_cons_self
          exact absurd hx (h.ended y hpending).2
      · exact (hannounced.advance hhead).symm
    · rcases announces_activate host p.shared input k sockets with
        ⟨t, ht, hannounces⟩
      rcases Pool.pending_of_mem_next hi ht rest with ⟨j, hj⟩
      exact Or.inr ⟨j, t, hj, hannounces⟩
    · exact absurd hx hterminal.2
  exclusive x y hx hsession hy := by
    rw [Pool.shared_advance] at hy
    rcases exec_state host p.shared s input y with
      hsame | ⟨⟨k, sockets, rfl, rfl⟩, -⟩ | ⟨-, hterminal, -⟩
    · rw [hsame] at hy
      rcases hx.of_advance hhead with hannounced | hactivates
      · exact h.exclusive x y hannounced hsession hy
      · rcases hfresh x hactivates with ⟨hempty, -, hnone⟩
        rcases h.named y hy with hid | hannounced
        · rw [← hsession, hempty] at hid
          exact absurd hid.symm (c.id_ne_nil y.feature)
        · exact absurd hsession.symm (hnone y hannounced)
    · rcases hx.of_advance hhead with hannounced | hactivates
      · exact absurd hsession ((hfresh k.target rfl).2.2 x hannounced)
      · exact Option.some.inj hactivates
    · exact absurd hy hterminal.2
  ended x hx := by
    rw [Pool.shared_advance]
    rcases hx with ⟨j, hj⟩
    have hcases : .clearActiveFeature x ∈ (exec host p.shared s input).next ∨
        p.Pending (.clearActiveFeature x) := by
      rcases Pool.mem_advance hj with ⟨-, hnext | hrest⟩ | ⟨-, hold⟩ | ⟨-, program, hlaunch, hmem⟩
      · exact Or.inl hnext
      · refine Or.inr ⟨i, ?_⟩
        rw [hhead]
        exact List.mem_cons_of_mem s hrest
      · exact Or.inr ⟨j, hold⟩
      · rcases exec_launch hlaunch with ⟨k, sockets, worker, -, -, rfl⟩
        rw [List.mem_singleton] at hmem
        have hcall := WorkerStep.isCall_toSection worker.start k.target
        rw [← hmem] at hcall
        simp [Section.isCall] at hcall
    rcases hcases with hnext | hpending
    · exact clear_mem_next hnext
    · have hold := h.ended x hpending
      rcases exec_state host p.shared s input x with
        hsame | ⟨⟨k, sockets, rfl, rfl⟩, -⟩ | ⟨-, hterminal, -⟩
      · rwa [hsame]
      · exact absurd (hfresh k.target rfl).2.1 hold.1
      · exact hterminal

/-- No feature is active at the beginning. -/
theorem singleActive_of_initial (hstart : Initial start) : SingleActive start where
  named x hx := by
    have hpending : (start.shared.execution x).state = .pending := by
      simp [Shared.execution, (hstart.fresh x.session).2]
    rw [hpending] at hx
    contradiction
  exclusive x y hx := by
    rcases hx with ⟨i, t, ht, -⟩
    simp [hstart.quiet i] at ht
  ended x hx := by
    rcases hx with ⟨i, hi⟩
    simp [hstart.quiet i] at hi

/-- A step keeps the invariant if an activation finds what its start tested. -/
theorem SingleActive.step {τ : ServerTransition c}
    (hstep : (server host).step τ.source τ.action = some τ.target) (hfresh : ActivatesFresh τ)
    (h : SingleActive τ.source) : SingleActive τ.target := by
  rcases server_step_cases hstep with ⟨request, ha, htarget⟩ |
    ⟨i, input, s, rest, hi, ha, hhead, htarget⟩
  · rw [htarget]
    exact h.launch _ _ _
  · rw [htarget]
    refine h.advance hhead ?_
    intro x hx
    rcases hfresh s (System.head?_of_run ha hhead) x hx with ⟨hempty, hpending, hnone⟩
    refine ⟨hempty, hpending, ?_⟩
    intro y hy
    rcases hy with ⟨j, t, ht, hannounces⟩
    exact hnone j (Pool.lt_count_of_mem ht) t ht y hannounces

/-- If every activation finds what its start tested, a session never has two
active features. -/
theorem atMostOneActive (hstart : Initial start) (hrun : ServerRun host start run last)
    (hfresh : ∀ τ ∈ run, ActivatesFresh τ) : AtMostOneActive last.shared := by
  have hinvariant : SingleActive last := by
    refine Run.invariant ?_ hrun hfresh (singleActive_of_initial hstart)
    intro τ hstep hτ h
    exact h.step hstep hτ
  exact hinvariant.atMostOne

/-! ## A small server -/

/-- A server that has just been started. -/
def sampleStart : ServerState sampleCatalog where
  shared := sampleShared
  threads _ := []
  count := 0
  idle _ _ := rfl

/-- It has no threads and no sessions. -/
theorem sampleStart_initial : Initial sampleStart where
  fresh _ := ⟨rfl, fun _ => rfl⟩
  quiet _ := rfl
  closed := sampleShared_closed

/-- One start request, run to its end. -/
def startAlone : List (ServerAction sampleCatalog) :=
  [.arrive (.feature socketCreate .start)] ++ List.replicate 11 (.run 0 {})

theorem atMostOneActive_startAlone :
    ∃ last, ServerRun sampleHost sampleStart
        (record (server sampleHost).step sampleStart startAlone) last ∧
      (last.shared.execution socketCreate).state = .active ∧ AtMostOneActive last.shared := by
  have hrun : ∃ last, ServerRun sampleHost sampleStart
      (record (server sampleHost).step sampleStart startAlone) last ∧
      (last.shared.execution socketCreate).state = .active := exists_run (by decide)
  rcases hrun with ⟨last, hrun, hactive⟩
  exact ⟨last, hrun, hactive, atMostOneActive sampleStart_initial hrun (by decide)⟩

/-- Two starts of one session, both past their guards before either activates. -/
def startTogether : List (ServerAction sampleCatalog) :=
  [.arrive (.feature socketCreate .start), .arrive (.feature negativeConnect .start)] ++
    List.replicate 4 (.run 0 {}) ++ List.replicate 4 (.run 1 {}) ++ [.run 0 {}, .run 1 {}]

theorem atMostOneActive_startTogether :
    ¬∀ (c : Catalog) (host : Host) (start last : ServerState c) (run : List (ServerTransition c)),
      Initial start → ServerRun host start run last → AtMostOneActive last.shared := by
  intro hclaim
  have hrun : ∃ last, ServerRun sampleHost sampleStart
      (record (server sampleHost).step sampleStart startTogether) last ∧
      ((last.shared.execution socketCreate).state = .active ∧
        (last.shared.execution negativeConnect).state = .active) := exists_run (by decide)
  rcases hrun with ⟨last, hrun, hfirst, hsecond⟩
  have hone := hclaim _ _ _ _ _ sampleStart_initial hrun
  have hsame := hone socketCreate negativeConnect rfl hfirst hsecond
  exact absurd hsame (by decide)

end SctpConformance
