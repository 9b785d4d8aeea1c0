import SctpConformance.Concurrency.Custody
import SctpConformance.Concurrency.Earned

/-!
# Workers and reused numbers

A worker keeps the plain numbers it was started with, while other threads close
the sockets behind them.  A number that is handed out again while a worker still
remembers it leads the worker to a socket of somebody else; nothing else does.

Main results:

- Theorem `remembers_mem_next`: remembered numbers come from what a start has
  published.
- Theorem `callsOwnSocket`: if no remembered number is handed out again, every
  call of a worker acts on a socket of its own execution or fails.
-/

namespace SctpConformance

open Library

variable {c : Catalog} {host : Host} {start last : ServerState c} {run : List (ServerTransition c)}

/-! ## Remembered numbers -/

/-- The numbers that a worker, or a start about to launch one, remembers without
owning them. -/
def Section.remembers : Section c → List (Nat × Target c)
  | .setActiveFeature h sockets => sockets.map fun socketInfo => (socketInfo.fd, h.target)
  | .launchWorker h sockets => sockets.map fun socketInfo => (socketInfo.fd, h.target)
  | .receive x state => state.fds.map fun fd => (fd, x)
  | .receiving x state => state.fds.map fun fd => (fd, x)
  | .send x state => state.fds.map fun fd => (fd, x)
  | _ => []

/-- A worker remembers the numbers of its sockets. -/
@[simp]
theorem WorkerStep.remembers_toSection (next : WorkerStep) (x : Target c) :
    (next.toSection x).remembers = next.fds.map fun fd => (fd, x) := by
  cases next <;> rfl

/-- So does the section that it is about to run. -/
theorem remembers_of_workerStep {s : Section c} {x : Target c} {next : WorkerStep}
    (h : s.workerStep = some (x, next)) : s.remembers = next.fds.map fun fd => (fd, x) := by
  cases s <;> simp [Section.workerStep] at h
  all_goals
    rcases h with ⟨rfl, rfl⟩
    rfl

/-- Handlers begin without numbers. -/
theorem remembers_not_mem_handlerProgram {client : Nat} {request : Request c} {s : Section c}
    (hs : s ∈ handlerProgram client request) : s.remembers = [] := by
  cases request with
  | feature y request =>
      cases request <;> simp only [handlerProgram, List.mem_cons, List.not_mem_nil, or_false] at hs
        <;> rcases hs with rfl | rfl | rfl <;> rfl
  | _ =>
      simp only [handlerProgram, List.mem_singleton] at hs
      subst hs
      rfl

/-- A section remembers what the section before it has remembered, or what that
one has published. -/
theorem remembers_mem_next {σ : Shared c} {s t : Section c} {input : Input} {n : Nat × Target c}
    (hsound : ∀ x next, s.workerStep = some (x, next) → next.Sound)
    (ht : t ∈ (exec host σ s input).next) (hn : n ∈ t.remembers) :
    n ∈ s.remembers ∨ ∃ h sockets, s = .setActiveFds h sockets ∧ h.target = n.2 ∧
      n.1 ∈ sockets.map ListeningSocket.fd := by
  cases hworker : t.workerStep with
  | some w =>
      rcases w with ⟨x, next⟩
      rcases worker_mem_next ht hworker with ⟨before, hbefore, hplay⟩
      rw [remembers_of_workerStep hworker, hplay] at hn
      rcases List.mem_map.mp hn with ⟨fd, hfd, rfl⟩
      refine Or.inl ?_
      rw [remembers_of_workerStep hbefore]
      exact List.mem_map_of_mem
        ((WorkerStep.play_fds host (c.id x.feature) _ (hsound x before hbefore)).1 hfd)
  | none =>
      cases s with
      | setActiveFds h sockets =>
          simp only [exec, List.mem_singleton] at ht
          subst ht
          rcases List.mem_map.mp hn with ⟨socketInfo, hsocket, rfl⟩
          exact Or.inr ⟨h, sockets, rfl, rfl, List.mem_map_of_mem hsocket⟩
      | setActiveFeature h sockets =>
          simp only [exec, List.mem_singleton] at ht
          subst ht
          exact Or.inl hn
      | activate h sockets =>
          simp only [exec] at ht
          split at ht
          · rw [List.mem_singleton] at ht
            subst ht
            simp [Section.remembers] at hn
          · rw [List.mem_singleton] at ht
            subst ht
            simp [Section.remembers] at hn
      | takeActiveFds x =>
          simp only [exec, List.mem_map] at ht
          rcases ht with ⟨fd, -, rfl⟩
          simp [Section.remembers] at hn
      | _ =>
          exfalso
          revert ht
          simp only [exec]
          (repeat' split) <;> intro ht <;>
            simp only [finish, rollback, List.mem_append, List.mem_map, List.mem_cons,
              List.not_mem_nil, or_false, false_or] at ht <;>
            grind [Section.remembers, Section.workerStep, WorkerStep.workerStep_toSection]

/-! ## Numbers that are handed out again -/

/-- What a number handed out by a step is for: `none` for a connection, an
execution for a socket that its start opens. -/
def opensFor (host : Host) (τ : ServerTransition c) : Option (Option (Target c)) :=
  match τ.action with
  | .arrive _ => some none
  | .run _ input => τ.head?.bind fun s => s.opens.bind fun x =>
      if addressCountError host.options (c.definition x.feature).bindAddressCount = none ∧
          input.socket = none then some (some x)
      else none

/-- A number that a step hands out is not remembered for another execution. -/
def NoStaleReuse (host : Host) (τ : ServerTransition c) : Prop :=
  ∀ k ∈ opensFor host τ, ∀ i < τ.source.count, ∀ s ∈ τ.source.threads i, ∀ n ∈ s.remembers,
    n.1 = τ.source.shared.descriptors.lowestFree → k = some n.2

instance (host : Host) : DecidablePred (NoStaleReuse (c := c) host) := fun τ =>
  inferInstanceAs (Decidable (∀ k ∈ opensFor host τ, ∀ i < τ.source.count,
    ∀ s ∈ τ.source.threads i, ∀ n ∈ s.remembers,
    n.1 = τ.source.shared.descriptors.lowestFree → k = some n.2))

/-- A number is closed, or refers to a socket of the execution it is remembered for. -/
def ClosedOrOwn (σ : Shared c) (n : Nat × Target c) : Prop :=
  match σ.descriptors.lookup n.1 with
  | none => True
  | some .other => False
  | some (.listening _ owner) => owner = n.2

instance (σ : Shared c) (n : Nat × Target c) : Decidable (ClosedOrOwn σ n) := by
  unfold ClosedOrOwn
  split <;> infer_instance

/-- Only the entry of the number matters. -/
theorem ClosedOrOwn.of_lookup {σ σ' : Shared c} {n : Nat × Target c} (h : ClosedOrOwn σ n)
    (hlookup : σ'.descriptors.lookup n.1 = σ.descriptors.lookup n.1) : ClosedOrOwn σ' n := by
  unfold ClosedOrOwn at h ⊢
  rwa [hlookup]

/-- `socket()` has succeeded in a section that opens a socket. -/
theorem exec_openSocket_succeeds {σ : Shared c} {k : Handler c} {sockets : List ListeningSocket}
    {input : Input}
    (h : (exec host σ (.openSocket k sockets) input).shared = σ.openListening k.target) :
    addressCountError host.options (c.definition k.target.feature).bindAddressCount = none ∧
      input.socket = none := by
  have hopened := congrArg Shared.opened h
  simp only [exec] at hopened
  split at hopened
  · simp [Shared.openListening] at hopened
  · rename_i haddress
    split at hopened
    · simp [Shared.openListening] at hopened
    · rename_i hsocket
      exact ⟨haddress, hsocket⟩

/-- A remembered number stays closed or its own as long as it is not handed out
to somebody else. -/
theorem ClosedOrOwn.step {τ : ServerTransition c}
    (hstep : (server host).step τ.source τ.action = some τ.target) (hreuse : NoStaleReuse host τ)
    {j : Nat} {t : Section c} (ht : t ∈ τ.source.threads j) {n : Nat × Target c}
    (hn : n ∈ t.remembers) (h : ClosedOrOwn τ.source.shared n) : ClosedOrOwn τ.target.shared n := by
  have hnew : ∀ k, opensFor host τ = some k → n.1 = τ.source.shared.descriptors.lowestFree →
      k = some n.2 := by
    intro k hk hfree
    exact hreuse k hk j (Pool.lt_count_of_mem ht) t ht n hn hfree
  rcases server_step_cases hstep with ⟨request, ha, htarget⟩ |
    ⟨i, input, s, rest, hi, ha, hhead, htarget⟩
  · have hopens : opensFor host τ = some none := by simp [opensFor, ha]
    have hne : n.1 ≠ τ.source.shared.descriptors.lowestFree := by
      intro hfree
      have := hnew none hopens hfree
      contradiction
    rw [htarget]
    exact h.of_lookup (by simp [Shared.openDescriptor, Slots.lookup_acquire, hne])
  · rw [htarget, Pool.shared_advance]
    rcases exec_descriptors host τ.source.shared s input with
      ⟨hsame, -⟩ | ⟨k, sockets, rfl, hshared, -⟩ | ⟨fd, -, hshared, -⟩
    · exact h.of_lookup (by rw [hsame])
    · have hopens : opensFor host τ = some (some k.target) := by
        have hsucceeds := exec_openSocket_succeeds hshared
        simp [opensFor, ha, System.head?_of_run ha hhead, Section.opens, hsucceeds]
      rw [hshared]
      by_cases hfree : n.1 = τ.source.shared.descriptors.lowestFree
      · have howner := Option.some.inj (hnew _ hopens hfree)
        simp [ClosedOrOwn, Shared.openListening, Slots.lookup_acquire, hfree, howner]
      · exact h.of_lookup (by simp [Shared.openListening, Slots.lookup_acquire, hfree])
    · rw [hshared]
      by_cases hfd : n.1 = fd
      · simp [ClosedOrOwn, Shared.closeDescriptor, Slots.lookup_release, hfd]
      · exact h.of_lookup (by simp [Shared.closeDescriptor, Slots.lookup_release, hfd])

/-! ## The calls of workers -/

/-- The invariant: workers are in range, and what is remembered is closed or own. -/
structure Remembered (p : ServerState c) : Prop where
  sound : ∀ i, ∀ s ∈ p.threads i, ∀ x next, s.workerStep = some (x, next) → next.Sound
  own : ∀ i, ∀ s ∈ p.threads i, ∀ n ∈ s.remembers, ClosedOrOwn p.shared n

/-- At the beginning no number is remembered. -/
theorem remembered_of_initial (hstart : Initial start) : Remembered start where
  sound i s hs := by simp [hstart.quiet i] at hs
  own i s hs := by simp [hstart.quiet i] at hs

/-- Workers stay in range. -/
theorem Remembered.step_sound {τ : ServerTransition c}
    (hstep : (server host).step τ.source τ.action = some τ.target) (h : Remembered τ.source)
    (j : Nat) {t : Section c} (ht : t ∈ τ.target.threads j) {x : Target c} {next : WorkerStep}
    (hnext : t.workerStep = some (x, next)) : next.Sound := by
  rcases server_step_cases hstep with ⟨request, -, htarget⟩ |
    ⟨i, input, s, rest, hi, -, hhead, htarget⟩
  · rw [htarget] at ht
    rcases Pool.mem_launch ht with ⟨-, hprogram⟩ | ⟨-, hold⟩
    · rw [workerStep_not_mem_handlerProgram hprogram] at hnext
      contradiction
    · exact h.sound j t hold x next hnext
  · rw [htarget] at ht
    have hs : s ∈ τ.source.threads i := by
      rw [hhead]
      exact List.mem_cons_self
    rcases Pool.mem_advance ht with ⟨-, hmem | hrest⟩ | ⟨-, hold⟩ | ⟨-, program, hlaunch, hmem⟩
    · rcases worker_mem_next hmem hnext with ⟨before, hbefore, rfl⟩
      exact (WorkerStep.play_fds host _ _ (h.sound i s hs x before hbefore)).2
    · refine h.sound i t ?_ x next hnext
      rw [hhead]
      exact List.mem_cons_of_mem s hrest
    · exact h.sound j t hold x next hnext
    · rcases exec_launch hlaunch with ⟨k, sockets, worker, -, -, rfl⟩
      rw [List.mem_singleton] at hmem
      subst hmem
      rw [WorkerStep.workerStep_toSection, Option.some.injEq, Prod.mk.injEq] at hnext
      rw [← hnext.2]
      exact worker.start_fds.2

/-- What is remembered after a step was remembered before or has just been
published. -/
theorem Remembered.step_own {τ : ServerTransition c}
    (hstep : (server host).step τ.source τ.action = some τ.target) (hcustody : Custody τ.source)
    (hreuse : NoStaleReuse host τ) (h : Remembered τ.source) (j : Nat) {t : Section c}
    (ht : t ∈ τ.target.threads j) {n : Nat × Target c} (hn : n ∈ t.remembers) :
    ClosedOrOwn τ.target.shared n := by
  have hold : ∀ i, ∀ s ∈ τ.source.threads i, n ∈ s.remembers → ClosedOrOwn τ.target.shared n := by
    intro i s hs hmem
    exact (h.own i s hs n hmem).step hstep hreuse hs hmem
  rcases server_step_cases hstep with ⟨request, -, htarget⟩ |
    ⟨i, input, s, rest, hi, -, hhead, htarget⟩
  · rw [htarget] at ht
    rcases Pool.mem_launch ht with ⟨-, hprogram⟩ | ⟨-, hmem⟩
    · rw [remembers_not_mem_handlerProgram hprogram] at hn
      contradiction
    · exact hold j t hmem hn
  · have hs : s ∈ τ.source.threads i := by
      rw [hhead]
      exact List.mem_cons_self
    rw [htarget] at ht
    rcases Pool.mem_advance ht with ⟨-, hmem | hrest⟩ | ⟨-, hmem⟩ | ⟨-, program, hlaunch, hmem⟩
    · rcases remembers_mem_next (h.sound i s hs) hmem hn with
        hbefore | ⟨k, sockets, rfl, hk, hfd⟩
      · exact hold i s hs hbefore
      · -- published numbers are owned, so they refer to sockets of the execution
        have howned : (n.1, some n.2) ∈ holdings τ.source (.thread i) := by
          rw [holdings_of_head hhead, ← hk]
          exact List.mem_append_left _ (List.mem_cons_of_mem _ (List.mem_map_of_mem hfd))
        rcases hcustody.valid _ _ howned with ⟨serial, hlookup⟩
        rw [htarget, Pool.shared_advance]
        simp only [ClosedOrOwn, exec, Shared.descriptors_setExecution, hlookup]
    · refine hold i t ?_ hn
      rw [hhead]
      exact List.mem_cons_of_mem s hrest
    · exact hold j t hmem hn
    · rcases exec_launch hlaunch with ⟨k, sockets, worker, rfl, hworker, rfl⟩
      rw [List.mem_singleton] at hmem
      subst hmem
      refine hold i _ hs ?_
      rw [WorkerStep.remembers_toSection] at hn
      rcases List.mem_map.mp hn with ⟨fd, hfd, rfl⟩
      have hsocket := FeatureDefinition.worker_fds hworker (worker.start_fds.1 hfd)
      rcases List.mem_map.mp hsocket with ⟨socketInfo, hmem, rfl⟩
      exact List.mem_map.mpr ⟨socketInfo, hmem, rfl⟩

/-- A worker that makes a call acts on a socket that was created for its own
execution, or its call fails because the descriptor is closed. -/
def CallsOwnSocket (τ : ServerTransition c) : Prop :=
  match τ.head? with
  | some (.receive x state) => ClosedOrOwn τ.source.shared (state.fd, x)
  | some (.send x state) => ClosedOrOwn τ.source.shared (state.fd, x)
  | _ => True

instance : DecidablePred (CallsOwnSocket (c := c)) := fun τ => by
  unfold CallsOwnSocket
  split <;> infer_instance

/-- If no remembered number is handed out to another execution, the calls of
workers act on sockets of their own executions, or fail. -/
theorem callsOwnSocket (hstart : Initial start) (hrun : ServerRun host start run last)
    (hreuse : ∀ τ ∈ run, NoStaleReuse host τ) : ∀ τ ∈ run, CallsOwnSocket τ := by
  have hremembered : ∀ front back p, run = front ++ back → ServerRun host start front p →
      Remembered p := by
    intro front back p hsplit hfront
    have hall : ∀ τ ∈ front, NoStaleReuse host τ := by
      intro τ hτ
      rw [hsplit] at hreuse
      exact hreuse τ (List.mem_append_left _ hτ)
    have hinvariant : (∀ τ ∈ front, NoStaleReuse host τ) → Remembered p := by
      refine Run.history (I := fun run p => (∀ τ ∈ run, NoStaleReuse host τ) → Remembered p) ?_
        hfront fun _ => remembered_of_initial hstart
      intro before τ hbefore hstep h hall
      have hrest := h fun τ' hτ' => hall τ' (List.mem_append_left _ hτ')
      have hnow := hall τ (List.mem_append_right _ (List.mem_singleton_self τ))
      constructor
      · intro j t ht x next hnext
        exact hrest.step_sound hstep j ht hnext
      · intro j t ht n hn
        exact hrest.step_own hstep (custody hstart hbefore) hnow j ht hn
    exact hinvariant hall
  intro τ hτ
  rcases hrun.before hτ with ⟨front, back, hsplit, hfront⟩
  have h := hremembered front (τ :: back) τ.source hsplit hfront
  have hcall : ∀ i s x state, s ∈ τ.source.threads i →
      (s = .receive x state ∨ s = .send x state) →
      ClosedOrOwn τ.source.shared (state.fd, x) := by
    intro i s x state hs hcases
    have hsound : state.Sound := by
      rcases hcases with rfl | rfl
      · exact h.sound i _ hs x _ rfl
      · exact h.sound i _ hs x _ rfl
    refine h.own i s hs (state.fd, x) ?_
    rcases hcases with rfl | rfl
    · exact List.mem_map_of_mem (WorkerState.fd_mem_fds hsound)
    · exact List.mem_map_of_mem (WorkerState.fd_mem_fds hsound)
  rcases server_step_cases (hrun.enabled hτ) with ⟨request, ha, -⟩ |
    ⟨i, input, s, rest, hi, ha, hhead, -⟩
  · simp [CallsOwnSocket, Transition.head?, ha]
  · have hs : s ∈ τ.source.threads i := by
      rw [hhead]
      exact List.mem_cons_self
    rw [CallsOwnSocket, System.head?_of_run ha hhead]
    cases s with
    | receive x state => exact hcall i _ x state hs (Or.inl rfl)
    | send x state => exact hcall i _ x state hs (Or.inr rfl)
    | _ => trivial

/-- A start, and a worker that receives both messages of its script. -/
def receiveBoth : List (ServerAction sampleCatalog) :=
  [.arrive (.feature multiMessage .start)] ++ List.replicate 14 (.run 0 {}) ++
    [.run 1 {}, .run 1 { received := .data (str "alpha") 1 100 7 true [] },
      .run 1 {}, .run 1 { received := .data (str "beta") 1 101 7 true [] }, .run 1 {}]

theorem callsOwnSocket_receiveBoth :
    ∃ last, ServerRun sampleHost sampleStart
        (record (server sampleHost).step sampleStart receiveBoth) last ∧
      (last.shared.execution multiMessage).state = .passed ∧
      ∀ τ ∈ record (server sampleHost).step sampleStart receiveBoth, CallsOwnSocket τ := by
  have hrun : ∃ last, ServerRun sampleHost sampleStart
      (record (server sampleHost).step sampleStart receiveBoth) last ∧
      (last.shared.execution multiMessage).state = .passed := exists_run (by decide)
  rcases hrun with ⟨last, hrun, hpassed⟩
  exact ⟨last, hrun, hpassed, callsOwnSocket sampleStart_initial hrun (by decide)⟩

/-- The same feature in a second session. -/
def otherMultiMessage : Target sampleCatalog := ⟨1, multiMessage.feature⟩

/-- A worker goes on after an unsupported report has closed its socket and a
start in another session has been given the number. -/
def numberReused : List (ServerAction sampleCatalog) :=
  [.arrive (.feature multiMessage .start)] ++ List.replicate 14 (.run 0 {}) ++
    [.run 1 {}, .run 1 { received := .data (str "alpha") 1 100 7 true [] },
      .arrive (.feature multiMessage (.unsupported (str "\x7b\x7d")))] ++
    List.replicate 8 (.run 2 {}) ++
    [.arrive (.feature otherMultiMessage .start)] ++ List.replicate 14 (.run 3 {}) ++ [.run 1 {}]

theorem callsOwnSocket_numberReused :
    ¬∀ (c : Catalog) (host : Host) (start last : ServerState c) (run : List (ServerTransition c)),
      Initial start → ServerRun host start run last → ∀ τ ∈ run, CallsOwnSocket τ := by
  intro hclaim
  have hrun : ∃ last, ServerRun sampleHost sampleStart
      (record (server sampleHost).step sampleStart numberReused) last ∧
      last.shared.descriptors.lookup 5 = some (.listening 1 otherMultiMessage) :=
    exists_run (by decide)
  rcases hrun with ⟨last, hrun, -⟩
  have hall := hclaim _ _ _ _ _ sampleStart_initial hrun
  exact absurd hall (by decide)

end SctpConformance
