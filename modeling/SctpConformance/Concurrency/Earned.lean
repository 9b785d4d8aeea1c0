import SctpConformance.Concurrency.Activation

/-!
# Where a pass comes from

A feature passes when the flags that its completion mode asks for are set, and
each flag is set by one step of the run.  The history invariant of this module
links the flags to these steps, and every worker to the start that launched it
and to the outcomes of the calls it has made since.

Main results:

- Theorem `worker_mem_next`: a worker goes on as the outcome of its call says.
- Theorem `Ledger.step`: the history invariant.
- Theorem `passed_earned`: what has happened in a run in which a feature is
  passed.
-/

namespace SctpConformance

open Library

variable {c : Catalog} {host : Host} {start last : ServerState c} {run : List (ServerTransition c)}

/-! ## The calls of a worker -/

/-- The execution that a worker works for and what it is about to do. -/
def Section.workerStep : Section c → Option (Target c × WorkerStep)
  | .receive x state => some (x, .receive state)
  | .receiving x state => some (x, .receive state)
  | .send x state => some (x, .send state)
  | .markFailed x message => some (x, .markFailed message)
  | .markNetworkComplete x => some (x, .markNetworkComplete)
  | _ => none

/-- The outcome of a call that a worker learns in a section. -/
def Section.outcome (σ : Shared c) (input : Input) : Section c → Option WorkerInput
  | .receive _ state =>
      match σ.descriptors.lookup state.fd with
      | none => some (.received (.error .ebadf))
      | some _ => none
  | .receiving _ _ => some (.received input.received)
  | .send _ state =>
      match σ.descriptors.lookup state.fd with
      | none => some (.sent (some .ebadf))
      | some _ => some (.sent input.sent)
  | _ => none

/-- The section of a worker tells what it is about to do. -/
@[simp]
theorem WorkerStep.workerStep_toSection (next : WorkerStep) (x : Target c) :
    (next.toSection x).workerStep = some (x, next) := by
  cases next <;> rfl

/-- Handlers do nothing for a worker. -/
theorem workerStep_not_mem_handlerProgram {client : Nat} {request : Request c} {s : Section c}
    (hs : s ∈ handlerProgram client request) : s.workerStep = none := by
  cases request with
  | feature y request =>
      cases request <;> simp only [handlerProgram, List.mem_cons, List.not_mem_nil, or_false] at hs
        <;> rcases hs with rfl | rfl | rfl <;> rfl
  | _ =>
      simp only [handlerProgram, List.mem_singleton] at hs
      subst hs
      rfl

/-- A worker goes on as the outcome of its call says, or still waits for it. -/
theorem worker_mem_next {σ : Shared c} {s t : Section c} {input : Input} {x : Target c}
    {next : WorkerStep} (ht : t ∈ (exec host σ s input).next)
    (hnext : t.workerStep = some (x, next)) :
    ∃ before, s.workerStep = some (x, before) ∧
      next = before.play host (c.id x.feature) (s.outcome σ input).toList := by
  cases s with
  | receive y state =>
      simp only [exec] at ht
      split at ht
      · rename_i hclosed
        rw [List.mem_singleton] at ht
        subst ht
        rw [WorkerStep.workerStep_toSection, Option.some.injEq, Prod.mk.injEq] at hnext
        rcases hnext with ⟨rfl, rfl⟩
        exact ⟨.receive state, rfl, by simp [Section.outcome, hclosed, WorkerStep.play,
          WorkerStep.advance]⟩
      · rename_i d hopen
        rw [List.mem_singleton] at ht
        subst ht
        simp only [Section.workerStep, Option.some.injEq, Prod.mk.injEq] at hnext
        rcases hnext with ⟨rfl, rfl⟩
        exact ⟨.receive state, rfl, by simp [Section.outcome, hopen, WorkerStep.play]⟩
  | receiving y state =>
      simp only [exec, List.mem_singleton] at ht
      subst ht
      rw [WorkerStep.workerStep_toSection, Option.some.injEq, Prod.mk.injEq] at hnext
      rcases hnext with ⟨rfl, rfl⟩
      exact ⟨.receive state, rfl, rfl⟩
  | send y state =>
      simp only [exec] at ht
      split at ht
      all_goals
        rename_i hlookup
        rw [List.mem_singleton] at ht
        subst ht
        rw [WorkerStep.workerStep_toSection, Option.some.injEq, Prod.mk.injEq] at hnext
        rcases hnext with ⟨rfl, rfl⟩
        exact ⟨.send state, rfl, by simp [Section.outcome, hlookup, WorkerStep.play,
          WorkerStep.advance]⟩
  | takeActiveFds y =>
      simp only [exec, List.mem_map] at ht
      rcases ht with ⟨fd, -, rfl⟩
      simp [Section.workerStep] at hnext
  | _ =>
      exfalso
      revert ht
      simp only [exec]
      (repeat' split) <;> intro ht <;>
        simp only [finish, rollback, List.mem_append, List.mem_map, List.mem_cons,
          List.not_mem_nil, or_false, false_or] at ht <;>
        grind [Section.workerStep]

/-! ## The history of a run -/

/-- The outcome that a transition tells the worker of thread `i`. -/
def callOutcome (i : Nat) (τ : ServerTransition c) : Option WorkerInput :=
  match τ.action with
  | .arrive _ => none
  | .run j input =>
      if j = i then (τ.source.threads i).head?.bind (Section.outcome τ.source.shared input)
      else none

/-- The outcomes of the calls of thread `i` in a run. -/
def outcomes (i : Nat) (run : List (ServerTransition c)) : List WorkerInput :=
  run.filterMap (callOutcome i)

/-- Thread `i` is a worker that a start of the execution has launched, and the
outcomes of its calls have brought its script to `next`. -/
def WorkerAt (host : Host) (run : List (ServerTransition c)) (x : Target c) (i : Nat)
    (next : WorkerStep) : Prop :=
  ∃ τ ∈ run, ∃ h sockets worker, τ.head? = some (.launchWorker h sockets) ∧ h.target = x ∧
    τ.source.count = i ∧ (c.definition x.feature).worker sockets = some worker ∧
    worker.start.play host (c.id x.feature) (outcomes i run) = next

/-- A worker launched by a start of the execution has come to the end of its
script and marked the network part complete while the feature was active. -/
def NetworkEarned (host : Host) (run : List (ServerTransition c)) (x : Target c) : Prop :=
  ∃ front τ back i input, run = front ++ τ :: back ∧ τ.action = .run i input ∧
    τ.head? = some (.markNetworkComplete x) ∧ (τ.source.shared.execution x).state = .active ∧
    WorkerAt host front x i .markNetworkComplete

/-- A complete request with the report was accepted while the feature was active. -/
def ReportAccepted (run : List (ServerTransition c)) (x : Target c) (report : CompleteReport) :
    Prop :=
  ∃ τ ∈ run, ∃ h body now accepted, τ.head? = some (.complete h body) ∧ h.target = x ∧
    parseCompleteReport body = .ok report ∧ (τ.source.shared.execution x).state = .active ∧
    (τ.source.shared.execution x).complete (c.definition x.feature) report now = .ok accepted

/-- After another step the worker has got that far. -/
theorem WorkerAt.snoc {x : Target c} {i : Nat} {next : WorkerStep} (h : WorkerAt host run x i next)
    (τ : ServerTransition c) :
    WorkerAt host (run ++ [τ]) x i
      (next.play host (c.id x.feature) (callOutcome i τ).toList) := by
  rcases h with ⟨launch, hlaunch, handler, sockets, worker, hhead, hx, hi, hworker, hplay⟩
  refine ⟨launch, List.mem_append_left _ hlaunch, handler, sockets, worker, hhead, hx, hi,
    hworker, ?_⟩
  have houtcomes : outcomes i (run ++ [τ]) = outcomes i run ++ (callOutcome i τ).toList := by
    cases hτ : callOutcome i τ <;> simp [outcomes, hτ]
  rw [houtcomes, WorkerStep.play_append, hplay]

/-- What has been earned stays so. -/
theorem NetworkEarned.snoc {x : Target c} (h : NetworkEarned host run x)
    (τ : ServerTransition c) : NetworkEarned host (run ++ [τ]) x := by
  rcases h with ⟨front, τ', back, i, input, rfl, h⟩
  exact ⟨front, τ', back ++ [τ], i, input, by simp, h⟩

/-- A report that has been accepted stays so. -/
theorem ReportAccepted.snoc {x : Target c} {report : CompleteReport}
    (h : ReportAccepted run x report) (τ : ServerTransition c) :
    ReportAccepted (run ++ [τ]) x report := by
  rcases h with ⟨τ', hτ', h⟩
  exact ⟨τ', List.mem_append_left _ hτ', h⟩

/-! ## The history invariant -/

/-- The sides of a scenario that a completion mode asks for are complete. -/
def SidesComplete (feature : FeatureDefinition) (e : FeatureExecution) : Prop :=
  (feature.completionMode ≠ .agentReported → e.networkComplete = true) ∧
    (feature.completionMode ≠ .serverObserved → e.agentComplete = true)

/-- What the flags and the workers of a state say about the run behind it. -/
structure Ledger (host : Host) (run : List (ServerTransition c)) (p : ServerState c) : Prop where
  unlaunched : ∀ i, p.count ≤ i → outcomes i run = []
  workers : ∀ i, ∀ s ∈ p.threads i, ∀ x next, s.workerStep = some (x, next) →
    WorkerAt host run x i next
  network : ∀ x, (p.shared.execution x).networkComplete = true → NetworkEarned host run x
  agent : ∀ x, (p.shared.execution x).agentComplete = true → ∃ report, ReportAccepted run x report
  passed : ∀ x, (p.shared.execution x).state = .passed →
    SidesComplete (c.definition x.feature) (p.shared.execution x)

/-- At the beginning there is nothing to account for. -/
theorem ledger_of_initial (hstart : Initial start) : Ledger host [] start where
  unlaunched i _ := rfl
  workers i s hs := by simp [hstart.quiet i] at hs
  network x hx := by simp [Shared.execution, (hstart.fresh x.session).2] at hx
  agent x hx := by simp [Shared.execution, (hstart.fresh x.session).2] at hx
  passed x hx := by simp [Shared.execution, (hstart.fresh x.session).2] at hx

/-- An outcome is told to a thread that exists. -/
theorem callOutcome_of_count_le {τ : ServerTransition c} {i : Nat} (hi : τ.source.count ≤ i) :
    callOutcome i τ = none := by
  unfold callOutcome
  split
  · rfl
  · split
    · simp [τ.source.idle i hi]
    · rfl

/-- The threads that were not launched yet have had no outcome after a step either. -/
theorem Ledger.step_unlaunched {τ : ServerTransition c}
    (hstep : (server host).step τ.source τ.action = some τ.target)
    (h : Ledger host run τ.source) (i : Nat) (hi : τ.target.count ≤ i) :
    outcomes i (run ++ [τ]) = [] := by
  have hcount : τ.source.count ≤ τ.target.count := by
    rcases server_step_cases hstep with ⟨request, -, htarget⟩ |
      ⟨j, input, s, rest, hj, -, -, htarget⟩
    · rw [htarget]
      exact Nat.le_succ _
    · rw [htarget]
      exact Pool.count_le_advance _ _ _ _ _
  have hold := h.unlaunched i (hcount.trans hi)
  have hnone := callOutcome_of_count_le (hcount.trans hi)
  simpa [outcomes, hnone] using hold

/-- Every worker stays linked to its launch and to the outcomes it was told. -/
theorem Ledger.step_workers {τ : ServerTransition c}
    (hstep : (server host).step τ.source τ.action = some τ.target)
    (hchained : ∀ i, Chained (τ.source.threads i)) (h : Ledger host run τ.source) (j : Nat)
    {t : Section c} (ht : t ∈ τ.target.threads j) {x : Target c} {next : WorkerStep}
    (hnext : t.workerStep = some (x, next)) : WorkerAt host (run ++ [τ]) x j next := by
  rcases server_step_cases hstep with ⟨request, ha, htarget⟩ |
    ⟨i, input, s, rest, hi, ha, hhead, htarget⟩
  · rw [htarget] at ht
    rcases Pool.mem_launch ht with ⟨-, hprogram⟩ | ⟨-, hold⟩
    · rw [workerStep_not_mem_handlerProgram hprogram] at hnext
      contradiction
    · have hsnoc := (h.workers j t hold x next hnext).snoc τ
      simpa [callOutcome, ha, WorkerStep.play] using hsnoc
  · rw [htarget] at ht
    have hs : s ∈ τ.source.threads i := by
      rw [hhead]
      exact List.mem_cons_self
    rcases Pool.mem_advance ht with ⟨rfl, hmem | hrest⟩ | ⟨hne, hold⟩ |
      ⟨hj, program, hlaunch, hmem⟩
    · rcases worker_mem_next hmem hnext with ⟨before, hbefore, hplay⟩
      have hsnoc := (h.workers j s hs x before hbefore).snoc τ
      have houtcome : callOutcome j τ = s.outcome τ.source.shared input := by
        simp [callOutcome, ha, hhead]
      rw [hplay, ← houtcome]
      exact hsnoc
    · -- only a call has anything behind it, and calls tell a worker nothing
      have hthread := hchained j
      rw [hhead] at hthread
      have hcall : s.isCall = true := (List.pairwise_cons.mp hthread).1 t hrest
      have houtcome : callOutcome j τ = none := by
        simp only [callOutcome, ha, if_true, hhead, List.head?_cons, Option.bind_some]
        cases s <;> simp [Section.isCall] at hcall <;> rfl
      have hold : t ∈ τ.source.threads j := by
        rw [hhead]
        exact List.mem_cons_of_mem s hrest
      have hsnoc := (h.workers j t hold x next hnext).snoc τ
      simpa [houtcome, WorkerStep.play] using hsnoc
    · have hsnoc := (h.workers j t hold x next hnext).snoc τ
      simpa [callOutcome, ha, hne.symm, WorkerStep.play] using hsnoc
    · rcases exec_launch hlaunch with ⟨k, sockets, worker, rfl, hworker, rfl⟩
      rw [List.mem_singleton] at hmem
      subst hmem
      rw [WorkerStep.workerStep_toSection, Option.some.injEq, Prod.mk.injEq] at hnext
      rcases hnext with ⟨rfl, rfl⟩
      refine ⟨τ, List.mem_append_right _ (List.mem_singleton_self τ), k, sockets, worker,
        System.head?_of_run ha hhead, rfl, hj.symm, hworker, ?_⟩
      have hold := h.unlaunched j (Nat.le_of_eq hj.symm)
      have hnone := callOutcome_of_count_le (Nat.le_of_eq hj.symm)
      have houtcomes : outcomes j (run ++ [τ]) = [] := by
        simpa [outcomes, hnone] using hold
      rw [houtcomes]
      rfl

/-- How a step can set the flags of a feature or pass it. -/
theorem step_flags {τ : ServerTransition c}
    (hstep : (server host).step τ.source τ.action = some τ.target) (x : Target c) :
    ((τ.target.shared.execution x).networkComplete = (τ.source.shared.execution x).networkComplete ∧
      (τ.target.shared.execution x).agentComplete = (τ.source.shared.execution x).agentComplete ∧
      ((τ.target.shared.execution x).state = .passed →
        (τ.source.shared.execution x).state = .passed)) ∨
    (∃ i input now finished, τ.action = .run i input ∧
      .markNetworkComplete x ∈ τ.source.threads i ∧ τ.head? = some (.markNetworkComplete x) ∧
      (τ.source.shared.execution x).observe (c.definition x.feature) now =
        some (τ.target.shared.execution x, finished)) ∨
    (∃ h body report now finished, τ.head? = some (.complete h body) ∧ h.target = x ∧
      parseCompleteReport body = .ok report ∧
      (τ.source.shared.execution x).complete (c.definition x.feature) report now =
        .ok (τ.target.shared.execution x, finished)) := by
  rcases server_step_cases hstep with ⟨request, ha, htarget⟩ |
    ⟨i, input, s, rest, hi, ha, hhead, htarget⟩
  · exact Or.inl (by simp [htarget])
  · have hs : s ∈ τ.source.threads i := by
      rw [hhead]
      exact List.mem_cons_self
    rw [htarget, Pool.shared_advance]
    rcases exec_flags host τ.source.shared s input x with
      hsame | ⟨rfl, finished, hobserve⟩ | ⟨h, body, report, finished, rfl, hx, hreport, hcomplete⟩
    · exact Or.inl hsame
    · exact Or.inr (Or.inl ⟨i, input, input.now, finished, ha, hs, System.head?_of_run ha hhead,
        hobserve⟩)
    · exact Or.inr (Or.inr ⟨h, body, report, input.now, finished, System.head?_of_run ha hhead, hx,
        hreport, hcomplete⟩)

/-- The flag of the network side is set by a worker that has earned it. -/
theorem Ledger.step_network {τ : ServerTransition c}
    (hstep : (server host).step τ.source τ.action = some τ.target) (h : Ledger host run τ.source)
    (x : Target c) (hx : (τ.target.shared.execution x).networkComplete = true) :
    NetworkEarned host (run ++ [τ]) x := by
  rcases step_flags hstep x with ⟨hsame, -, -⟩ |
    ⟨i, input, now, finished, ha, hmem, hhead, hobserve⟩ |
    ⟨k, body, report, now, finished, hhead, -, hreport, hcomplete⟩
  · rw [hsame] at hx
    exact (h.network x hx).snoc τ
  · have hactive := (FeatureExecution.observe_eq_some hobserve).1
    exact ⟨run, τ, [], i, input, rfl, ha, hhead, hactive, h.workers i _ hmem x _ rfl⟩
  · have hsame := (FeatureExecution.complete_accepted hcomplete).2.2.2.2.1
    rw [hsame] at hx
    exact (h.network x hx).snoc τ

/-- The flag of the agent side is set by an accepted report. -/
theorem Ledger.step_agent {τ : ServerTransition c}
    (hstep : (server host).step τ.source τ.action = some τ.target) (h : Ledger host run τ.source)
    (x : Target c) (hx : (τ.target.shared.execution x).agentComplete = true) :
    ∃ report, ReportAccepted (run ++ [τ]) x report := by
  rcases step_flags hstep x with ⟨-, hsame, -⟩ |
    ⟨i, input, now, finished, -, -, hhead, hobserve⟩ |
    ⟨k, body, report, now, finished, hhead, hk, hreport, hcomplete⟩
  · rw [hsame] at hx
    rcases h.agent x hx with ⟨report, hreport⟩
    exact ⟨report, hreport.snoc τ⟩
  · have hsame := (FeatureExecution.observe_eq_some hobserve).2.2.1
    rw [hsame] at hx
    rcases h.agent x hx with ⟨report, hreport⟩
    exact ⟨report, hreport.snoc τ⟩
  · have hactive := (FeatureExecution.complete_accepted hcomplete).1
    exact ⟨report, τ, List.mem_append_right _ (List.mem_singleton_self τ), k, body, now, _, hhead,
      hk, hreport, hactive, hcomplete⟩

/-- A feature passes with the sides complete that its mode asks for. -/
theorem Ledger.step_passed {τ : ServerTransition c}
    (hstep : (server host).step τ.source τ.action = some τ.target) (h : Ledger host run τ.source)
    (x : Target c) (hx : (τ.target.shared.execution x).state = .passed) :
    SidesComplete (c.definition x.feature) (τ.target.shared.execution x) := by
  rcases step_flags hstep x with ⟨hnetwork, hagent, hpassed⟩ |
    ⟨i, input, now, finished, -, -, hhead, hobserve⟩ |
    ⟨k, body, report, now, finished, hhead, hk, hreport, hcomplete⟩
  · have hold := h.passed x (hpassed hx)
    rw [SidesComplete, hnetwork, hagent]
    exact hold
  · have hobserved := FeatureExecution.observe_eq_some hobserve
    refine ⟨fun _ => hobserved.2.1, ?_⟩
    intro hmode
    rcases hobserved.2.2.2.2.2 with ⟨-, -, hdone⟩ | ⟨-, hactive, -⟩
    · rw [hobserved.2.2.1]
      exact hdone.resolve_left hmode
    · rw [hactive] at hx
      contradiction
  · have haccepted := FeatureExecution.complete_accepted hcomplete
    refine ⟨?_, fun _ => haccepted.2.2.2.1⟩
    intro hmode
    rcases haccepted.2.2.2.2.2.2.2 with ⟨-, -, hdone⟩ | ⟨-, hactive, -⟩
    · rw [haccepted.2.2.2.2.1]
      exact hdone.resolve_left hmode
    · rw [hactive] at hx
      contradiction

/-- A step keeps the history invariant. -/
theorem Ledger.step {τ : ServerTransition c}
    (hstep : (server host).step τ.source τ.action = some τ.target)
    (hchained : ∀ i, Chained (τ.source.threads i)) (h : Ledger host run τ.source) :
    Ledger host (run ++ [τ]) τ.target where
  unlaunched := h.step_unlaunched hstep
  workers j _ ht _ _ hnext := h.step_workers hstep hchained j ht hnext
  network := h.step_network hstep
  agent := h.step_agent hstep
  passed := h.step_passed hstep

/-- In every run the flags and the workers are accounted for. -/
theorem ledger (hstart : Initial start) (hrun : ServerRun host start run last) :
    Ledger host run last := by
  refine Run.history ?_ hrun (ledger_of_initial hstart)
  intro front τ hfront hstep h
  exact h.step hstep (chained hstart hfront)

/-! ## A pass is earned -/

/-- As many association ids as the contract expects, the two smallest of them
different, and neither empty nor "0". -/
def DistinctAssocIds (contract : OneToManyContract) (assocIds : List CppString) : Prop :=
  assocIds.length = contract.expectedAssociations ∧
    ∃ first second others, sortStrings assocIds = first :: second :: others ∧
      first ≠ second ∧ first ≠ [] ∧ second ≠ [] ∧ first ≠ str "0" ∧ second ≠ str "0"

/-- Ids that pass the tests of a contract with two or more associations. -/
theorem distinctAssocIds_of_accepted {contract : OneToManyContract} {assocIds : List CppString}
    (htwo : 2 ≤ contract.expectedAssociations) (h : assocIdsError contract assocIds = none) :
    DistinctAssocIds contract assocIds := by
  rcases assocIdsError_eq_none_iff.mp h with
    ⟨hlength, hfirst, hsecond, hfirst0, hsecond0, hdistinct⟩
  refine ⟨hlength, ?_⟩
  have hsorted : (sortStrings assocIds).length = contract.expectedAssociations := by
    simp [sortStrings, hlength]
  cases hids : sortStrings assocIds with
  | nil =>
      rw [hids, List.length_nil] at hsorted
      omega
  | cons first rest =>
      cases rest with
      | nil =>
          rw [hids, List.length_singleton] at hsorted
          omega
      | cons second others =>
          rw [hids] at hfirst hsecond hfirst0 hsecond0 hdistinct
          exact ⟨first, second, others, rfl, hdistinct, hfirst, hsecond, hfirst0, hsecond0⟩

/-- A pass is earned.  Unless the mode is agent-reported, a worker of the feature
has come to the end of its script while the feature was active.  Unless the mode
is server-observed, a report was accepted while the feature was active, with
distinct association ids where the contract requires them. -/
theorem passed_earned
    (hcatalog : ∀ feature ∈ c.features, ∀ contract ∈ feature.oneToMany,
      contract.requireDistinctAssocIds = true → 2 ≤ contract.expectedAssociations)
    (hstart : Initial start) (hrun : ServerRun host start run last) (x : Target c)
    (hpassed : (last.shared.execution x).state = .passed) :
    ((c.definition x.feature).completionMode ≠ .agentReported → NetworkEarned host run x) ∧
    ((c.definition x.feature).completionMode ≠ .serverObserved →
      ∃ report, ReportAccepted run x report ∧
        ∀ contract ∈ (c.definition x.feature).oneToMany,
          contract.requireDistinctAssocIds = true →
          DistinctAssocIds contract report.assocIds) := by
  have hledger := ledger hstart hrun
  rcases hledger.passed x hpassed with ⟨hnetwork, hagent⟩
  constructor
  · intro hmode
    exact hledger.network x (hnetwork hmode)
  · intro hmode
    rcases hledger.agent x (hagent hmode) with ⟨report, hreport⟩
    refine ⟨report, hreport, ?_⟩
    intro contract hcontract hdistinct
    rcases hreport with ⟨τ, -, k, body, now, ⟨e, finished⟩, -, -, -, -, hcomplete⟩
    have hrequired : (c.definition x.feature).distinctAssocIds = some contract := by
      rw [FeatureDefinition.distinctAssocIds, Option.mem_def.mp hcontract]
      simp [Option.filter, hdistinct]
    have haccepted := (FeatureExecution.complete_accepted hcomplete).2.2.1 contract hrequired
    have htwo := hcatalog _ (List.get_mem c.features x.feature) contract hcontract hdistinct
    exact distinctAssocIds_of_accepted htwo haccepted

/-- A start with two sockets, a worker that gets both messages, and a report. -/
def hybridPass : List (ServerAction sampleCatalog) :=
  [.arrive (.feature multiAssoc .start)] ++ List.replicate 16 (.run 0 {}) ++
    [.run 1 {}, .run 1 { received := .data (str "otm-one") 1 101 7 true [] },
      .run 1 {}, .run 1 { received := .data (str "otm-two") 2 102 8 true [] }] ++
    List.replicate 4 (.run 1 {}) ++
    [.arrive (.feature multiAssoc (.complete (str "\x7b\"assoc_ids\":[\"7\",\"8\"]\x7d")))] ++
    List.replicate 7 (.run 2 {})

theorem passed_earned_hybridPass :
    NetworkEarned sampleHost (record (server sampleHost).step sampleStart hybridPass) multiAssoc ∧
    ∃ report,
      ReportAccepted (record (server sampleHost).step sampleStart hybridPass) multiAssoc report ∧
      DistinctAssocIds ⟨2, true, true⟩ report.assocIds := by
  have hrun : ∃ last, ServerRun sampleHost sampleStart
      (record (server sampleHost).step sampleStart hybridPass) last ∧
      (last.shared.execution multiAssoc).state = .passed := exists_run (by decide)
  rcases hrun with ⟨last, hrun, hpassed⟩
  rcases passed_earned (by decide) sampleStart_initial hrun multiAssoc hpassed with
    ⟨hnetwork, hagent⟩
  rcases hagent (by decide) with ⟨report, hreport, hids⟩
  exact ⟨hnetwork (by decide), report, hreport, hids ⟨2, true, true⟩ rfl rfl⟩

end SctpConformance
