import SctpConformance.Concurrency.Custody
import Mathlib.Data.List.Perm.Subperm

/-!
# Who answers which connection

A connection is accepted with a thread of its own, which answers it or, at the end of a
summary stream, hangs up; either way it closes the connection.  An account of what has been
accepted, answered and is still owed balances after every step.

Main results:

- Definitions `accepted` and `answered`: the connections, with the threads that serve them.
- Theorem `account`: what has been accepted has been answered or is owed.
- Theorem `answered_once`: no connection is answered twice or through the number of another
  one, and none goes unanswered when all threads have ended.
-/

namespace SctpConformance

open Library

variable {c : Catalog} {host : Host} {start last : ServerState c} {run : List (ServerTransition c)}
  {τ : ServerTransition c}

/-! ## The account of one step -/

/-- The thread and the descriptor of the connection that a step accepts. -/
def accepted (τ : ServerTransition c) : Option (Nat × Nat) :=
  match τ.action with
  | .arrive _ => some (τ.source.count, τ.source.shared.descriptors.lowestFree)
  | .run _ _ => none

/-- The connection that a section answers or hangs up on. -/
def Section.answers : Section c → Option Nat
  | .respond client _ => some client
  | .hangUp client => some client
  | _ => none

/-- The thread and the descriptor of the connection that a step answers. -/
def answered (τ : ServerTransition c) : Option (Nat × Nat) :=
  match τ.action with
  | .arrive _ => none
  | .run i _ => (τ.head?.bind Section.answers).map fun client => (i, client)

/-- How often a thread still owes an answer through a descriptor. -/
def owes (p : ServerState c) (served : Nat × Nat) : Nat :=
  (holdings p (.thread served.1)).count (served.2, none)

/-- An arriving request is given a thread and a descriptor. -/
theorem accepted_of_arrive {τ : ServerTransition c} {request : Request c}
    (h : τ.action = .arrive request) :
    accepted τ = some (τ.source.count, τ.source.shared.descriptors.lowestFree) ∧
      answered τ = none := by
  simp [accepted, answered, h]

/-- A section answers if it is the last one of its handler. -/
theorem answered_of_run {τ : ServerTransition c} {i : Nat} {input : Input} {s : Section c}
    {rest : List (Section c)} (h : τ.action = .run i input)
    (hhead : τ.source.threads i = s :: rest) :
    accepted τ = none ∧ answered τ = s.answers.map fun client => (i, client) := by
  rw [answered, System.head?_of_run h hhead]
  simp [accepted, h]

/-- A section that does not answer passes the connection on. -/
theorem exec_connections (σ : Shared c) {s : Section c} (input : Input) (hs : s.Staged)
    (hnone : s.answers = none) (fd : Nat) :
    (custodyOf (exec host σ s input).next).count (fd, none) = s.custody.count (fd, none) := by
  have howned : ∀ (x : Target c) fds, (owned x fds).count (fd, none) = 0 := by
    intro x fds
    rw [List.count_eq_zero]
    simp [owned]
  rcases exec_custody host σ input hs with ⟨hperm, -⟩ | ⟨fd', k, hcloses, hcustody, hnext, -⟩ |
    ⟨h, sockets, rfl, -, hnext⟩ | ⟨h, sockets, rfl⟩ | ⟨x, rfl⟩
  · exact hperm.count_eq _
  · cases s with
    | closeFd x n => simp [exec, Section.custody]
    | respond client response => contradiction
    | hangUp client => contradiction
    | _ => contradiction
  · rw [hnext, custodyOf_cons, custodyOf_nil, List.append_nil]
    simp only [Section.custody, List.count_cons, howned]
  · simp [exec, Section.custody, List.count_cons, howned]
  · simp [exec, Section.custody, howned]

variable (host) in
/-- A section that answers closes the connection, and the thread goes on without it. -/
theorem exec_answers (σ : Shared c) {s : Section c} (input : Input) {client : Nat}
    (h : s.answers = some client) :
    s.custody = [(client, none)] ∧ (exec host σ s input).next = [] := by
  cases s with
  | respond client' response =>
      cases h
      exact ⟨rfl, rfl⟩
  | hangUp client' =>
      cases h
      exact ⟨rfl, rfl⟩
  | _ => contradiction

/-- What a step accepts is owed, and what it answers was. -/
theorem step_account {τ : ServerTransition c}
    (hstep : (server host).step τ.source τ.action = some τ.target)
    (hstaged : ∀ i, ∀ s ∈ τ.source.threads i, s.Staged) (served : Nat × Nat) :
    (accepted τ).toList.count served + owes τ.source served =
      (answered τ).toList.count served + owes τ.target served := by
  rcases served with ⟨i, fd⟩
  rcases server_step_cases hstep with ⟨request, haction, htarget⟩ |
    ⟨j, input, s, rest, hj, haction, hhead, htarget⟩
  · rcases accepted_of_arrive haction with ⟨haccepted, hanswered⟩
    rcases holdings_launch τ.source request with ⟨hnew, hempty, hothers⟩
    rw [haccepted, hanswered, htarget]
    by_cases hi : i = τ.source.count
    · subst hi
      simp [owes, hnew, hempty, List.count_cons]
    · have hne : Place.thread i ≠ (Place.thread τ.source.count : Place c) := by
        simp [hi]
      simp [owes, hothers _ hne, Ne.symm hi]
  · rcases answered_of_run haction hhead with ⟨haccepted, hanswered⟩
    rw [haccepted, hanswered, htarget]
    by_cases hi : i = j
    · subst hi
      have hs : s.Staged := by
        refine hstaged i s ?_
        rw [hhead]
        exact List.mem_cons_self
      simp only [owes, holdings_of_head hhead, holdings_advance_self, List.count_append]
      cases hanswers : s.answers with
      | none => simp [exec_connections τ.source.shared input hs hanswers fd]
      | some client =>
          rcases exec_answers host τ.source.shared input hanswers with ⟨hcustody, hnext⟩
          simp [hcustody, hnext, List.count_cons]
    · have hanswers : ((s.answers.map fun client => (j, client)).toList).count (i, fd) = 0 := by
        rw [List.count_eq_zero]
        cases s.answers <;> simp [hi]
      rw [hanswers]
      simp [owes, holdings_advance_of_ne hi]

/-! ## The account of a run -/

/-- One more element counts if it is mapped to the value. -/
theorem count_filterMap_append {α β : Type*} [BEq β] (f : α → Option β) (front : List α) (x : α)
    (y : β) :
    ((front ++ [x]).filterMap f).count y = (front.filterMap f).count y + (f x).toList.count y := by
  cases h : f x <;> simp [List.filterMap_append, h]

/-- What has been accepted has been answered or is owed. -/
theorem account (hstart : Initial start) (hrun : ServerRun host start run last)
    (served : Nat × Nat) :
    (run.filterMap accepted).count served =
      (run.filterMap answered).count served + owes last served := by
  refine Run.history (I := fun run p => (run.filterMap accepted).count served =
    (run.filterMap answered).count served + owes p served) ?_ hrun ?_
  · intro front τ hfront hstep h
    have hone := step_account hstep (staged hstart hfront) served
    rw [count_filterMap_append, count_filterMap_append]
    omega
  · simp [owes, holdings, hstart.quiet]

/-- Every connection has a thread of its own. -/
theorem accepted_threads (hrun : ServerRun host start run last) :
    (∀ served ∈ run.filterMap accepted, served.1 < last.count) ∧
      ((run.filterMap accepted).map Prod.fst).Nodup := by
  refine Run.history (I := fun run p => (∀ served ∈ run.filterMap accepted, served.1 < p.count) ∧
    ((run.filterMap accepted).map Prod.fst).Nodup) ?_ hrun ?_
  · intro front τ hfront hstep h
    rcases h with ⟨hbound, hnodup⟩
    rcases server_step_cases hstep with ⟨request, haction, htarget⟩ |
      ⟨j, input, s, rest, hj, haction, hhead, htarget⟩
    · have hcount : τ.target.count = τ.source.count + 1 := by
        rw [htarget]
        rfl
      have hnew : (front ++ [τ]).filterMap accepted = front.filterMap accepted ++
          [(τ.source.count, τ.source.shared.descriptors.lowestFree)] := by
        simp [List.filterMap_append, (accepted_of_arrive haction).1]
      rw [hnew, hcount]
      constructor
      · intro served hserved
        rcases List.mem_append.mp hserved with hold | hlast
        · exact Nat.lt_succ_of_lt (hbound served hold)
        · rw [List.mem_singleton.mp hlast]
          exact Nat.lt_succ_self _
      · rw [List.map_append]
        refine List.nodup_append.mpr ⟨hnodup, List.nodup_singleton _, ?_⟩
        intro i hi j hj hij
        rcases List.mem_map.mp hi with ⟨served, hserved, rfl⟩
        have hlt := hbound served hserved
        rw [hij, List.mem_singleton.mp hj] at hlt
        exact absurd hlt (Nat.lt_irrefl _)
    · have hsame : (front ++ [τ]).filterMap accepted = front.filterMap accepted := by
        simp [List.filterMap_append, (answered_of_run haction hhead).1]
      rw [hsame]
      refine ⟨fun served hserved => ?_, hnodup⟩
      rw [htarget]
      exact Nat.lt_of_lt_of_le (hbound served hserved) (Pool.count_le_advance _ _ hj _ _)
  · simp

/-! ## Every connection is answered once -/

/-- A step that answers was owed its answer. -/
theorem owes_of_answered {τ : ServerTransition c}
    (hstep : (server host).step τ.source τ.action = some τ.target)
    (hstaged : ∀ i, ∀ s ∈ τ.source.threads i, s.Staged) {served : Nat × Nat}
    (h : answered τ = some served) : 0 < owes τ.source served := by
  have haccepted : accepted τ = none := by
    unfold answered at h
    split at h
    · contradiction
    · simp [accepted, *]
  have hone := step_account hstep hstaged served
  rw [h, haccepted] at hone
  simp at hone
  omega

/-- While an answer is owed, the number of the connection stands for it, and no step but
the answer closes it. -/
theorem open_while_owed (hstep : (server host).step τ.source τ.action = some τ.target)
    (hcustody : Custody τ.source) {i fd : Nat} (howes : 0 < owes τ.source (i, fd)) :
    τ.source.shared.descriptors.lookup fd = some .other ∧
      (closes τ = some fd → answered τ = some (i, fd)) := by
  have hmem : (fd, none) ∈ holdings τ.source (.thread i) := List.count_pos_iff.mp howes
  have hrefers := hcustody.valid _ _ hmem
  refine ⟨hrefers, ?_⟩
  intro hcloses
  rcases server_step_cases hstep with ⟨request, haction, -⟩ |
    ⟨j, input, s, rest, hj, haction, hhead, -⟩
  · simp [closes, Transition.head?, haction] at hcloses
  · rw [closes, System.head?_of_run haction hhead] at hcloses
    have hholds : ∀ n ∈ s.custody, n ∈ holdings τ.source (.thread j) := by
      intro n hn
      rw [holdings_of_head hhead]
      exact List.mem_append_left _ hn
    have hanswers : ∀ client, s.answers = some client → client = fd →
        answered τ = some (i, fd) := by
      intro client hclient heq
      subst heq
      have hcustody' := (exec_answers host τ.source.shared input hclient).1
      have hown : (client, none) ∈ holdings τ.source (.thread j) := by
        apply hholds
        rw [hcustody']
        exact List.mem_singleton_self _
      cases hcustody.exclusive.eq_of_mem hmem hown
      rw [(answered_of_run haction hhead).2, hclient]
      rfl
    cases s with
    | closeFd x n =>
        cases hcloses
        have hlistening := hcustody.valid _ (fd, some x) (hholds _ (List.mem_singleton_self _))
        exact absurd (hrefers.unique hlistening) (by simp)
    | respond client response => exact hanswers client rfl (Option.some.inj hcloses)
    | hangUp client => exact hanswers client rfl (Option.some.inj hcloses)
    | _ => contradiction

/-- From the acceptance of a connection to its answer. -/
theorem served_between (hstart : Initial start) {front middle back : List (ServerTransition c)}
    {τ' : ServerTransition c}
    (hrun : ServerRun host start (front ++ τ :: (middle ++ τ' :: back)) last) {i fd fd' : Nat}
    (haccepted : accepted τ = some (i, fd)) (hanswered : answered τ' = some (i, fd')) :
    fd' = fd ∧ ∀ υ ∈ middle, υ.source.shared.descriptors.lookup fd = some .other ∧
      closes υ ≠ some fd := by
  have hassoc : front ++ τ :: (middle ++ τ' :: back) = (front ++ τ :: middle) ++ τ' :: back := by
    simp
  rw [hassoc] at hrun
  have hbefore := hrun.upTo
  have hlast : (server host).step τ'.source τ'.action = some τ'.target :=
    hrun.enabled (List.mem_append_right _ List.mem_cons_self)
  have hmem : (i, fd) ∈ (front ++ τ :: middle).filterMap accepted := by
    rw [List.mem_filterMap]
    exact ⟨τ, by simp, haccepted⟩
  have howes := owes_of_answered hlast (staged hstart hbefore) hanswered
  have haccount := account hstart hbefore
  rcases accepted_threads hbefore with ⟨-, hthreads⟩
  -- The thread has accepted one connection only, so this is the one it answers.
  have hsame : fd' = fd := by
    have hfd' : (i, fd') ∈ (front ++ τ :: middle).filterMap accepted := by
      have hbalance := haccount (i, fd')
      exact List.count_pos_iff.mp (by omega)
    have hpair := List.inj_on_of_nodup_map hthreads hfd' hmem rfl
    exact congrArg Prod.snd hpair
  subst hsame
  refine ⟨rfl, ?_⟩
  -- It is accepted once and still owed before the answer, so it has not been answered yet.
  have hfresh : (i, fd') ∉ (front ++ τ :: middle).filterMap answered := by
    have hone := List.nodup_iff_count_le_one.mp (List.Nodup.of_map _ hthreads) (i, fd')
    have hbalance := haccount (i, fd')
    exact List.count_eq_zero.mp (by omega)
  intro υ hυ
  rcases List.append_of_mem hυ with ⟨m, m', rfl⟩
  have hassoc' : front ++ τ :: (m ++ υ :: m') = (front ++ τ :: m) ++ υ :: m' := by simp
  rw [hassoc'] at hbefore hfresh
  have hhere := hbefore.upTo
  have hstep : (server host).step υ.source υ.action = some υ.target :=
    hbefore.enabled (List.mem_append_right _ List.mem_cons_self)
  have howed : 0 < owes υ.source (i, fd') := by
    have hbalance := account hstart hhere (i, fd')
    have hmem' : 0 < ((front ++ τ :: m).filterMap accepted).count (i, fd') := by
      rw [List.count_pos_iff, List.mem_filterMap]
      exact ⟨τ, by simp, haccepted⟩
    have hnot : ((front ++ τ :: m).filterMap answered).count (i, fd') = 0 := by
      rw [List.count_eq_zero]
      intro hanswer
      apply hfresh
      rw [List.filterMap_append]
      exact List.mem_append_left _ hanswer
    omega
  rcases open_while_owed hstep (custody hstart hhere) howed with ⟨hopen, hclose⟩
  refine ⟨hopen, fun hcloses => hfresh ?_⟩
  rw [List.mem_filterMap]
  exact ⟨υ, by simp, hclose hcloses⟩

/-- Every answer goes to a connection that has been accepted, by the thread that serves it,
and to none twice; from its acceptance to its answer a connection stays open under its
number.  When all threads have ended, every connection has been answered. -/
theorem answered_once (hstart : Initial start) (hrun : ServerRun host start run last) :
    (run.filterMap answered).Subperm (run.filterMap accepted) ∧
    ((run.filterMap accepted).map Prod.fst).Nodup ∧
    (∀ front τ middle τ' back i fd fd', run = front ++ τ :: (middle ++ τ' :: back) →
      accepted τ = some (i, fd) → answered τ' = some (i, fd') →
      fd' = fd ∧ ∀ υ ∈ middle, υ.source.shared.descriptors.lookup fd = some .other ∧
        closes υ ≠ some fd) ∧
    ((∀ i, last.threads i = []) → (run.filterMap answered).Perm (run.filterMap accepted)) := by
  have haccount := account hstart hrun
  refine ⟨?_, (accepted_threads hrun).2, ?_, ?_⟩
  · rw [List.subperm_ext_iff]
    intro served _
    have hbalance := haccount served
    omega
  · intro front τ middle τ' back i fd fd' heq haccepted hanswered
    subst heq
    exact served_between hstart hrun haccepted hanswered
  · intro hended
    rw [List.perm_iff_count]
    intro served
    have hbalance := haccount served
    have hnone : owes last served = 0 := by simp [owes, holdings, hended]
    omega

/-- A client asks for a session, and another one for a feature of it. -/
def twoQueries : List (ServerAction sampleCatalog) :=
  [.arrive (.session 0), .arrive (.feature multiMessage .get), .run 1 {}, .run 0 {}, .run 1 {},
    .run 0 {}, .run 1 {}]

theorem answered_once_twoQueries : ∃ last,
    ServerRun sampleHost sampleStart (record (server sampleHost).step sampleStart twoQueries) last ∧
      ((record (server sampleHost).step sampleStart twoQueries).filterMap answered).Subperm
        ((record (server sampleHost).step sampleStart twoQueries).filterMap accepted) ∧
      (record (server sampleHost).step sampleStart twoQueries).filterMap answered =
        [(0, 4), (1, 5)] := by
  have hrun : ∃ last, ServerRun sampleHost sampleStart
      (record (server sampleHost).step sampleStart twoQueries) last ∧ last.count = 2 :=
    exists_run (by decide)
  rcases hrun with ⟨last, hrun, -⟩
  exact ⟨last, hrun, (answered_once sampleStart_initial hrun).1, by decide⟩

end SctpConformance
