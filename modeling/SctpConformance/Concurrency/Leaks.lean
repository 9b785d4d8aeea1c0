import SctpConformance.Concurrency.Custody
import SctpConformance.Concurrency.Verdicts

/-!
# Listening sockets that outlive their feature

A start publishes its sockets in a later section than the one that makes its
feature cancellable, and publishing overwrites what the record listed before.
As long as every publication comes to an empty list, and before the descriptors
of an ended feature have been taken, no open socket is forgotten.

Main results:

- Theorem `holdings_kept`: an owned descriptor stays owned until it is closed.
- Theorem `listeningListed`: at rest every open listening socket is listed by
  exactly one execution, and that execution is active.
-/

namespace SctpConformance

open Library

variable {c : Catalog} {host : Host} {start last : ServerState c} {run : List (ServerTransition c)}

/-- A start publishes its sockets in an empty list, and while its feature is
active or at least before the list of the ended feature is taken. -/
def PublishesInTime (τ : ServerTransition c) : Prop :=
  ∀ s ∈ τ.head?, ∀ x ∈ s.publishes,
    (τ.source.shared.execution x).activeFds = [] ∧
      ((τ.source.shared.execution x).state = .active ∨ τ.source.Pending (.takeActiveFds x))

instance : DecidablePred (PublishesInTime (c := c)) := fun τ =>
  inferInstanceAs (Decidable (∀ s ∈ τ.head?, ∀ x ∈ s.publishes,
    (τ.source.shared.execution x).activeFds = [] ∧
      ((τ.source.shared.execution x).state = .active ∨ τ.source.Pending (.takeActiveFds x))))

/-- Every open listening socket is listed by exactly one execution, which is active. -/
def ListeningListed (σ : Shared c) : Prop :=
  ∀ fd serial owner, σ.descriptors.lookup fd = some (.listening serial owner) →
    ∃ x, fd ∈ (σ.execution x).activeFds ∧ (σ.execution x).state = .active ∧
      ∀ y, fd ∈ (σ.execution y).activeFds → y = x

/-- The invariant behind `ListeningListed`: every open listening socket has an
owner, and an execution lists descriptors only while it is active or the call
that takes them is still to come. -/
structure NoneForgotten (p : ServerState c) : Prop where
  held : ∀ fd serial x, p.shared.descriptors.lookup fd = some (.listening serial x) →
    ∃ a, (fd, some x) ∈ holdings p a
  live : ∀ x, (p.shared.execution x).activeFds ≠ [] →
    (p.shared.execution x).state = .active ∨ p.Pending (.takeActiveFds x)

/-- At the beginning there are no listening sockets. -/
theorem noneForgotten_of_initial (hstart : Initial start) : NoneForgotten start where
  held fd serial x hlookup := absurd hlookup (hstart.closed fd serial x)
  live x hx := by simp [Shared.execution, (hstart.fresh x.session).2] at hx

/-- An owned descriptor stays owned until it is closed, unless a publication
overwrites the list it stands in. -/
theorem holdings_kept {τ : ServerTransition c}
    (hstep : (server host).step τ.source τ.action = some τ.target)
    (hstaged : ∀ i, ∀ s ∈ τ.source.threads i, s.Staged)
    (hempty : ∀ s ∈ τ.head?, ∀ x ∈ s.publishes, (τ.source.shared.execution x).activeFds = [])
    {a : Place c} {n : Owned c} (hn : n ∈ holdings τ.source a) :
    (∃ b, n ∈ holdings τ.target b) ∨ closes τ = some n.1 := by
  rcases server_step_cases hstep with ⟨request, -, htarget⟩ |
    ⟨i, input, s, rest, hi, ha, hhead, htarget⟩
  · rcases holdings_launch τ.source request with ⟨-, hnone, hrest⟩
    refine Or.inl ⟨a, ?_⟩
    have hne : a ≠ .thread τ.source.count := by
      intro heq
      rw [heq, hnone] at hn
      contradiction
    rw [htarget, hrest a hne]
    exact hn
  · have hs : s ∈ τ.source.threads i := by
      rw [hhead]
      exact List.mem_cons_self
    have hhead? := System.head?_of_run ha hhead
    rw [htarget]
    rcases exec_custody host τ.source.shared input (hstaged i s hs) with
      ⟨hperm, hpublishes, htakes, -⟩ | ⟨fd, k, hfd, hcustody, hnext, hshared⟩ |
      ⟨k, sockets, rfl, hshared, hnext⟩ | ⟨k, sockets, rfl⟩ | ⟨x, rfl⟩
    · have hfds := exec_activeFds_of_none host τ.source.shared input hpublishes htakes
      exact Or.inl ⟨a, (holdings_pass hi hhead hperm hfds a).symm.subset hn⟩
    · rcases holdings_close hi hhead hcustody hnext hshared with ⟨hself, hrest⟩
      by_cases hthread : a = .thread i
      · rw [hthread, hself] at hn
        rcases List.mem_cons.mp hn with rfl | hkept
        · refine Or.inr ?_
          rw [closes, hhead?]
          exact hfd
        · exact Or.inl ⟨.thread i, hkept⟩
      · refine Or.inl ⟨a, ?_⟩
        rw [hrest a hthread]
        exact hn
    · rcases holdings_openSocket hi hhead hshared hnext with ⟨hself, hrest⟩
      refine Or.inl ⟨a, ?_⟩
      by_cases hthread : a = .thread i
      · rw [hthread] at hn ⊢
        exact hself.symm.subset (List.mem_cons_of_mem _ hn)
      · rw [hrest a hthread]
        exact hn
    · rcases holdings_publish host hi input hhead with ⟨hperm, hrest⟩
      by_cases hthread : a = .thread i
      · rw [hthread] at hn
        rcases List.mem_append.mp (hperm.symm.subset hn) with hself | hrecord
        · exact Or.inl ⟨_, hself⟩
        · exact Or.inl ⟨_, hrecord⟩
      · by_cases hrecord : a = .record k.target
        · have hnone := hempty _ hhead? k.target rfl
          rw [hrecord, holdings, hnone] at hn
          contradiction
        · refine Or.inl ⟨a, ?_⟩
          rw [hrest a hthread hrecord]
          exact hn
    · rcases holdings_take host hi input hhead with ⟨hperm, hrest⟩
      by_cases hin : a = .thread i ∨ a = .record x
      · have hmem : n ∈ holdings τ.source (.thread i) ++ holdings τ.source (.record x) := by
          rcases hin with rfl | rfl
          · exact List.mem_append_left _ hn
          · exact List.mem_append_right _ hn
        rcases List.mem_append.mp (hperm.symm.subset hmem) with hself | hrecord
        · exact Or.inl ⟨_, hself⟩
        · exact Or.inl ⟨_, hrecord⟩
      · rw [not_or] at hin
        refine Or.inl ⟨a, ?_⟩
        rw [hrest a hin.1 hin.2]
        exact hn

/-- A socket that a step has opened is owned by its start. -/
theorem holdings_opened {τ : ServerTransition c}
    (hstep : (server host).step τ.source τ.action = some τ.target) {x : Target c}
    (hopened : τ.target.shared = τ.source.shared.openListening x) :
    ∃ b, (τ.source.shared.descriptors.lowestFree, some x) ∈ holdings τ.target b := by
  have hlookup : τ.target.shared.descriptors.lookup τ.source.shared.descriptors.lowestFree =
      some (.listening τ.source.shared.opened x) := by
    rw [hopened]
    simp [Shared.openListening, Slots.lookup_acquire]
  have hbefore := Slots.lookup_lowestFree τ.source.shared.descriptors
  rcases server_step_cases hstep with ⟨request, -, htarget⟩ |
    ⟨i, input, s, rest, hi, ha, hhead, htarget⟩
  · rw [htarget] at hlookup
    simp [Shared.openDescriptor, Slots.lookup_acquire] at hlookup
  · rw [htarget, Pool.shared_advance] at hlookup
    rcases exec_descriptors host τ.source.shared s input with
      ⟨hsame, -⟩ | ⟨k, sockets, rfl, hshared, hnext⟩ | ⟨fd, -, hshared, -⟩
    · rw [hsame, hbefore] at hlookup
      contradiction
    · rw [hshared] at hlookup
      have hx : k.target = x := by
        simpa [Shared.openListening, Slots.lookup_acquire] using hlookup
      refine ⟨.thread i, ?_⟩
      rw [htarget, ← hx]
      exact (holdings_openSocket hi hhead hshared hnext).1.symm.subset List.mem_cons_self
    · rw [hshared, Shared.closeDescriptor, Slots.lookup_release] at hlookup
      split at hlookup
      · contradiction
      · rw [hbefore] at hlookup
        contradiction

/-- How a step changes the descriptors that an execution lists. -/
theorem step_activeFds {τ : ServerTransition c}
    (hstep : (server host).step τ.source τ.action = some τ.target) (x : Target c) :
    ((τ.target.shared.execution x).activeFds = (τ.source.shared.execution x).activeFds) ∨
    (∃ s ∈ τ.head?, x ∈ s.publishes) ∨
    ((τ.target.shared.execution x).activeFds = []) := by
  rcases server_step_cases hstep with ⟨request, ha, htarget⟩ |
    ⟨i, input, s, rest, hi, ha, hhead, htarget⟩
  · exact Or.inl (by simp [htarget])
  · rw [htarget, Pool.shared_advance]
    rcases exec_activeFds host τ.source.shared s input x with
      hsame | ⟨k, sockets, rfl, rfl, -⟩ | ⟨-, htaken, -⟩
    · exact Or.inl hsame
    · exact Or.inr (Or.inl ⟨_, System.head?_of_run ha hhead, rfl⟩)
    · exact Or.inr (Or.inr htaken)

/-- A pending call that takes the descriptors stays pending until the list is empty. -/
theorem step_take {τ : ServerTransition c}
    (hstep : (server host).step τ.source τ.action = some τ.target) {x : Target c}
    (hpending : τ.source.Pending (.takeActiveFds x)) :
    τ.target.Pending (.takeActiveFds x) ∨ (τ.target.shared.execution x).activeFds = [] := by
  rcases server_step_cases hstep with ⟨request, ha, htarget⟩ |
    ⟨i, input, s, rest, hi, ha, hhead, htarget⟩
  · rw [htarget]
    exact Or.inl (Pool.Pending.launch hpending _)
  · rw [htarget, Pool.shared_advance]
    by_cases hs : .takeActiveFds x = s
    · subst hs
      exact Or.inr (by simp [exec])
    · exact Or.inl (Pool.Pending.advance hpending hi hhead hs)

/-- A step keeps the invariant if a start publishes its sockets in time. -/
theorem NoneForgotten.step {τ : ServerTransition c}
    (hstep : (server host).step τ.source τ.action = some τ.target)
    (hstaged : ∀ i, ∀ s ∈ τ.source.threads i, s.Staged) (hintime : PublishesInTime τ)
    (h : NoneForgotten τ.source) : NoneForgotten τ.target where
  held fd serial x hlookup := by
    have hempty : ∀ s ∈ τ.head?, ∀ y ∈ s.publishes,
        (τ.source.shared.execution y).activeFds = [] := by
      intro s hs y hy
      exact (hintime s hs y hy).1
    have hkept : ∀ serial, τ.source.shared.descriptors.lookup fd = some (.listening serial x) →
        closes τ ≠ some fd → ∃ a, (fd, some x) ∈ holdings τ.target a := by
      intro serial hsource hopen
      rcases h.held fd serial x hsource with ⟨a, hn⟩
      exact (holdings_kept hstep hstaged hempty hn).resolve_right hopen
    rcases step_table hstep with ⟨hnone, htable, -⟩ | ⟨hnone, hshared⟩ | ⟨hnone, y, hshared⟩ |
      ⟨closed, hclosed, hshared⟩
    · rw [htable] at hlookup
      exact hkept serial hlookup (by simp [hnone])
    · rw [hshared, Shared.openDescriptor, Slots.lookup_acquire] at hlookup
      split at hlookup
      · simp at hlookup
      · exact hkept serial hlookup (by simp [hnone])
    · have hopened := holdings_opened hstep hshared
      rw [hshared, Shared.openListening, Slots.lookup_acquire] at hlookup
      split at hlookup
      · rename_i hfree
        simp only [Option.some.injEq, Descriptor.listening.injEq] at hlookup
        rw [hfree, ← hlookup.2]
        exact hopened
      · exact hkept serial hlookup (by simp [hnone])
    · rw [hshared, Shared.closeDescriptor, Slots.lookup_release] at hlookup
      split at hlookup
      · contradiction
      · rename_i hne
        refine hkept serial hlookup ?_
        rw [hclosed]
        exact fun heq => hne (Option.some.inj heq).symm
  live x hx := by
    have hlive : (τ.source.shared.execution x).state = .active ∨
        τ.source.Pending (.takeActiveFds x) := by
      rcases step_activeFds hstep x with hsame | ⟨s, hs, hpublishes⟩ | htaken
      · rw [hsame] at hx
        exact h.live x hx
      · exact (hintime s hs x hpublishes).2
      · exact absurd htaken hx
    rcases hlive with hactive | hpending
    · rcases step_state hstep x with hsame | ⟨-, hactivated⟩ | ⟨-, -, hpending⟩
      · exact Or.inl (hsame.trans hactive)
      · exact Or.inl hactivated
      · exact Or.inr (hpending _ (by simp [finish]))
    · exact Or.inr ((step_take hstep hpending).resolve_right hx)

/-- A thread that consists of worker sections owns nothing. -/
theorem custody_of_isWorker {s : Section c} (h : s.isWorker = true) : s.custody = [] := by
  cases s <;> simp [Section.isWorker] at h <;> rfl

/-- If every start publishes its sockets in time, then at rest every open
listening socket is listed by exactly one execution, which is active. -/
theorem listeningListed (hstart : Initial start) (hrun : ServerRun host start run last)
    (hintime : ∀ τ ∈ run, PublishesInTime τ) (hquiescent : Quiescent last) :
    ListeningListed last.shared := by
  have hinvariant : (∀ τ ∈ run, PublishesInTime τ) → NoneForgotten last := by
    refine Run.history (I := fun run p => (∀ τ ∈ run, PublishesInTime τ) → NoneForgotten p) ?_ hrun
      fun _ => noneForgotten_of_initial hstart
    intro front τ hfront hstep h hall
    have hbefore := h fun τ' hτ' => hall τ' (List.mem_append_left _ hτ')
    have hnow := hall τ (List.mem_append_right _ (List.mem_singleton_self τ))
    exact hbefore.step hstep (staged hstart hfront) hnow
  have hforgotten := hinvariant hintime
  have hcustody := custody hstart hrun
  intro fd serial owner hlookup
  rcases hforgotten.held fd serial owner hlookup with ⟨a, hn⟩
  cases a with
  | thread i =>
      -- at rest no thread owns a descriptor
      rcases List.mem_flatMap.mp hn with ⟨s, hs, hown⟩
      have hworker := hquiescent i (Pool.lt_count_of_mem hs) s hs
      rw [custody_of_isWorker hworker] at hown
      contradiction
  | record x =>
      rcases List.mem_map.mp hn with ⟨fd', hfd, heq⟩
      simp only [Prod.mk.injEq, Option.some.injEq] at heq
      rcases heq with ⟨rfl, rfl⟩
      refine ⟨x, hfd, ?_, ?_⟩
      · have hne : (last.shared.execution x).activeFds ≠ [] := List.ne_nil_of_mem hfd
        rcases hforgotten.live x hne with hactive | ⟨i, hi⟩
        · exact hactive
        · have hworker := hquiescent i (Pool.lt_count_of_mem hi) _ hi
          simp [Section.isWorker] at hworker
      · intro y hy
        have hmem : (fd', some y) ∈ holdings last (.record y) := List.mem_map_of_mem hy
        have howner := (hcustody.valid _ _ hmem).unique (hcustody.valid _ _ hn)
        exact Option.some.inj howner

/-- A start with one socket; its worker waits for the first message. -/
def startListening : List (ServerAction sampleCatalog) :=
  [.arrive (.feature multiMessage .start)] ++ List.replicate 14 (.run 0 {}) ++ [.run 1 {}]

theorem listeningListed_startListening :
    ∃ last, ServerRun sampleHost sampleStart
        (record (server sampleHost).step sampleStart startListening) last ∧
      last.shared.descriptors.lookup 5 = some (.listening 0 multiMessage) ∧
      ListeningListed last.shared := by
  have hrun : ∃ last, ServerRun sampleHost sampleStart
      (record (server sampleHost).step sampleStart startListening) last ∧
      (last.shared.descriptors.lookup 5 = some (.listening 0 multiMessage) ∧ Quiescent last) :=
    exists_run (by decide)
  rcases hrun with ⟨last, hrun, hlookup, hquiescent⟩
  exact ⟨last, hrun, hlookup, listeningListed sampleStart_initial hrun (by decide) hquiescent⟩

/-- An unsupported report between the activation and the publication of the socket. -/
def unsupportedBeforePublication : List (ServerAction sampleCatalog) :=
  [.arrive (.feature multiMessage .start)] ++ List.replicate 7 (.run 0 {}) ++
    [.arrive (.feature multiMessage (.unsupported (str "\x7b\x7d")))] ++
    List.replicate 7 (.run 1 {}) ++ List.replicate 7 (.run 0 {})

theorem listeningListed_unsupportedBeforePublication :
    ¬∀ (c : Catalog) (host : Host) (start last : ServerState c) (run : List (ServerTransition c)),
      Initial start → ServerRun host start run last → Quiescent last →
      ListeningListed last.shared := by
  intro hclaim
  have hrun : ∃ last, ServerRun sampleHost sampleStart
      (record (server sampleHost).step sampleStart unsupportedBeforePublication) last ∧
      (Quiescent last ∧ last.shared.descriptors.lookup 5 = some (.listening 0 multiMessage) ∧
        5 ∈ (last.shared.execution multiMessage).activeFds ∧
        (last.shared.execution multiMessage).state = .unsupported) := exists_run (by decide)
  rcases hrun with ⟨last, hrun, hquiescent, hlookup, hlisted, hstate⟩
  have hclaimed := hclaim _ _ _ _ _ sampleStart_initial hrun hquiescent
  rcases hclaimed 5 0 multiMessage hlookup with ⟨x, -, hactive, hunique⟩
  rw [← hunique multiMessage hlisted, hstate] at hactive
  contradiction

end SctpConformance
