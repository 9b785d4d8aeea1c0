import SctpConformance.Library.Custody
import SctpConformance.Concurrency.Activation

/-!
# Who closes which descriptor

Every open descriptor of a request has one owner at a time: the section of the
handler that has opened it, the feature execution that lists it in `active_fds`,
or the call that is about to close it.  Publishing and taking descriptors moves
them from owner to owner, and a start that gives up closes what it still owns.
Workers own nothing; they only remember numbers.

Main results:

- Theorem `exec_custody`: what a section does with the descriptors it owns.
- Theorem `custody`: in every reachable state custody is exclusive, and every
  owned number refers to what its owner has opened.
- Theorem `closes_own`: every close acts on a socket opened for the execution it
  is made for, and no socket is closed twice.
-/

namespace SctpConformance

open Library

variable {c : Catalog} {host : Host} {start last : ServerState c} {run : List (ServerTransition c)}

/-! ## What a section owns -/

/-- An owned number, with the execution its socket was opened for; an HTTP
connection has none. -/
abbrev Owned (c : Catalog) := Nat × Option (Target c)

/-- Listening sockets opened for an execution. -/
def owned (x : Target c) (fds : List Nat) : List (Owned c) :=
  fds.map fun fd => (fd, some x)

/-- The descriptors that a section has to close or to pass on. -/
def Section.custody : Section c → List (Owned c)
  | .maybeTimeout _ => []
  | .takeActiveFds _ => []
  | .closeFd x fd => [(fd, some x)]
  | .clearActiveFeature _ => []
  | .startGuard h => [(h.client, none)]
  | .startPending h => [(h.client, none)]
  | .openSocket h sockets =>
      (h.client, none) :: owned h.target (sockets.map ListeningSocket.fd)
  | .setupSocket h sockets fd =>
      (h.client, none) :: owned h.target (fd :: sockets.map ListeningSocket.fd)
  | .activate h sockets => (h.client, none) :: owned h.target (sockets.map ListeningSocket.fd)
  | .setActiveFds h sockets =>
      (h.client, none) :: owned h.target (sockets.map ListeningSocket.fd)
  | .setActiveFeature h _ => [(h.client, none)]
  | .launchWorker h _ => [(h.client, none)]
  | .setContract h _ => [(h.client, none)]
  | .adjustMessage h => [(h.client, none)]
  | .complete h _ => [(h.client, none)]
  | .unsupported h _ => [(h.client, none)]
  | .readFeature h => [(h.client, none)]
  | .readSession _ client => [(client, none)]
  | .summary _ client _ _ _ => [(client, none)]
  | .summaryEntry _ client _ _ _ _ => [(client, none)]
  | .writeEvent _ client _ => [(client, none)]
  | .respond client _ => [(client, none)]
  | .hangUp client => [(client, none)]
  | .receive _ _ => []
  | .receiving _ _ => []
  | .send _ _ => []
  | .markFailed _ _ => []
  | .markNetworkComplete _ => []

/-- The descriptors that a list of sections owns. -/
def custodyOf (todo : List (Section c)) : List (Owned c) :=
  todo.flatMap Section.custody

@[simp]
theorem custodyOf_nil : custodyOf ([] : List (Section c)) = [] :=
  rfl

@[simp]
theorem custodyOf_cons (s : Section c) (todo : List (Section c)) :
    custodyOf (s :: todo) = s.custody ++ custodyOf todo :=
  rfl

/-- The descriptors of a program are those of its parts. -/
@[simp]
theorem custodyOf_append (todo todo' : List (Section c)) :
    custodyOf (todo ++ todo') = custodyOf todo ++ custodyOf todo' := by
  simp [custodyOf]

/-- Sockets that are to be closed are owned until then. -/
@[simp]
theorem custodyOf_closeFd (x : Target c) (fds : List Nat) :
    custodyOf (fds.map (.closeFd x)) = owned x fds := by
  simp [custodyOf, owned, List.flatMap_map, Section.custody, ← List.map_eq_flatMap]

/-- A worker owns no descriptors. -/
@[simp]
theorem WorkerStep.custody_toSection (next : WorkerStep) (x : Target c) :
    (next.toSection x).custody = [] := by
  cases next <;> rfl

/-- A start that gives up closes what it owns and answers. -/
theorem custodyOf_rollback (h : Handler c) (fds : List Nat) (error : CppString) :
    (custodyOf (rollback h fds error)).Perm ((h.client, none) :: owned h.target fds) := by
  simp only [rollback, custodyOf_append, custodyOf_closeFd, custodyOf_cons, Section.custody,
    custodyOf_nil, List.append_nil]
  exact List.perm_append_singleton _ _

/-- The program of a worker owns no descriptors. -/
@[simp]
theorem custodyOf_toSection (next : WorkerStep) (x : Target c) :
    custodyOf [next.toSection x] = [] := by
  simp

/-- Sockets are opened only for a scenario that has some. -/
def Section.Staged : Section c → Prop
  | .openSocket h _ => (c.definition h.target.feature).scenarioKind ≠ .agentOnly
  | .setupSocket h _ _ => (c.definition h.target.feature).scenarioKind ≠ .agentOnly
  | .activate h sockets =>
      (c.definition h.target.feature).scenarioKind = .agentOnly → sockets = []
  | _ => True

/-- A worker opens no sockets. -/
@[simp]
theorem WorkerStep.staged_toSection (next : WorkerStep) (x : Target c) :
    (next.toSection x).Staged := by
  cases next <;> trivial

/-- A section that is staged is followed by staged ones. -/
theorem exec_staged {σ : Shared c} {s t : Section c} {input : Input} (hs : s.Staged)
    (ht : t ∈ (exec host σ s input).next) : t.Staged := by
  cases s with
  | takeActiveFds x =>
      simp only [exec, List.mem_map] at ht
      rcases ht with ⟨fd, -, rfl⟩
      trivial
  | _ =>
      revert ht
      simp only [exec]
      (repeat' split) <;> intro ht <;>
        simp only [finish, rollback, List.mem_append, List.mem_map, List.mem_cons,
          List.not_mem_nil, or_false, false_or] at ht <;>
        grind [Section.Staged, WorkerStep.staged_toSection]

/-- The handlers begin with staged sections. -/
theorem staged_of_mem_handlerProgram {client : Nat} {request : Request c} {s : Section c}
    (hs : s ∈ handlerProgram client request) : s.Staged := by
  cases request with
  | feature y request =>
      cases request <;> simp only [handlerProgram, List.mem_cons, List.not_mem_nil, or_false] at hs
        <;> rcases hs with rfl | rfl | rfl <;> trivial
  | _ =>
      simp only [handlerProgram, List.mem_singleton] at hs
      subst hs
      trivial

variable (host) in
/-- What a section does with the descriptors it owns.  It passes them on, closes
the one it owns, opens one more, or moves some to or from the record of an
execution. -/
theorem exec_custody (σ : Shared c) {s : Section c} (input : Input) (hs : s.Staged) :
    ((custodyOf (exec host σ s input).next).Perm s.custody ∧ s.publishes = none ∧
      s.takes = none ∧ (exec host σ s input).shared.descriptors = σ.descriptors) ∨
    (∃ fd k, s.closes = some fd ∧ s.custody = [(fd, k)] ∧ (exec host σ s input).next = [] ∧
      (exec host σ s input).shared = σ.closeDescriptor fd) ∨
    (∃ h sockets, s = .openSocket h sockets ∧
      (exec host σ s input).shared = σ.openListening h.target ∧
      (exec host σ s input).next = [.setupSocket h sockets σ.descriptors.lowestFree]) ∨
    (∃ h sockets, s = .setActiveFds h sockets) ∨
    (∃ x, s = .takeActiveFds x) := by
  cases s with
  | takeActiveFds x => exact Or.inr (Or.inr (Or.inr (Or.inr ⟨x, rfl⟩)))
  | setActiveFds h sockets => exact Or.inr (Or.inr (Or.inr (Or.inl ⟨h, sockets, rfl⟩)))
  | closeFd x fd => exact Or.inr (Or.inl ⟨fd, some x, rfl, rfl, rfl, rfl⟩)
  | respond client response => exact Or.inr (Or.inl ⟨client, none, rfl, rfl, rfl, rfl⟩)
  | hangUp client => exact Or.inr (Or.inl ⟨client, none, rfl, rfl, rfl, rfl⟩)
  | openSocket h sockets =>
      simp only [exec]
      split
      · exact Or.inl ⟨custodyOf_rollback _ _ _, rfl, rfl, rfl⟩
      · split
        · exact Or.inl ⟨custodyOf_rollback _ _ _, rfl, rfl, rfl⟩
        · exact Or.inr (Or.inr (Or.inl ⟨h, sockets, rfl, rfl, rfl⟩))
  | setupSocket h sockets fd =>
      refine Or.inl ⟨?_, rfl, rfl, exec_descriptors_of_none host σ input rfl rfl⟩
      simp only [exec]
      split
      · exact custodyOf_rollback _ _ _
      · rename_i socketInfo hsetup
        have hfd : socketInfo.fd = fd := setupListeningSocket_fd hsetup
        have hperm : (owned h.target ((sockets ++ [socketInfo]).map ListeningSocket.fd)).Perm
            (owned h.target (fd :: sockets.map ListeningSocket.fd)) := by
          rw [List.map_append, List.map_singleton, hfd]
          exact (List.perm_append_singleton fd _).map _
        have hcustody := hperm.cons (h.client, none)
        split <;> rw [custodyOf_cons, custodyOf_nil, List.append_nil] <;> exact hcustody
  | activate h sockets =>
      refine Or.inl ⟨?_, rfl, rfl, exec_descriptors_of_none host σ input rfl rfl⟩
      simp only [exec]
      split
      · rename_i hagent
        rw [hs hagent]
        exact List.Perm.refl _
      · rw [custodyOf_cons, custodyOf_nil, List.append_nil]
        exact List.Perm.refl _
  | receive x state =>
      refine Or.inl ⟨?_, rfl, rfl, exec_descriptors_of_none host σ input rfl rfl⟩
      simp only [exec]
      split
      · rw [custodyOf_toSection]
        exact List.Perm.refl _
      · exact List.Perm.refl _
  | receiving x state =>
      refine Or.inl ⟨?_, rfl, rfl, rfl⟩
      simp only [exec, custodyOf_toSection]
      exact List.Perm.refl _
  | send x state =>
      refine Or.inl ⟨?_, rfl, rfl, exec_descriptors_of_none host σ input rfl rfl⟩
      simp only [exec]
      split <;> rw [custodyOf_toSection] <;> exact List.Perm.refl _
  | _ =>
      refine Or.inl ⟨?_, rfl, rfl, exec_descriptors_of_none host σ input rfl rfl⟩
      simp only [exec]
      (repeat' split) <;> exact List.Perm.refl _

/-- A handler owns the connection of its request. -/
theorem custodyOf_handlerProgram (client : Nat) (request : Request c) :
    custodyOf (handlerProgram client request) = [(client, none)] := by
  cases request with
  | feature x request => cases request <;> rfl
  | _ => rfl

/-! ## Custody in a state -/

/-- Who can own a descriptor: a thread, or the record of an execution. -/
inductive Place (c : Catalog) where
  | thread (i : Nat)
  | record (x : Target c)
deriving DecidableEq

/-- The descriptors that a place owns. -/
def holdings (p : ServerState c) : Place c → List (Owned c)
  | .thread i => custodyOf (p.threads i)
  | .record x => owned x (p.shared.execution x).activeFds

/-- An owned number refers to what its owner has opened. -/
def RefersTo (σ : Shared c) (n : Owned c) : Prop :=
  match n.2 with
  | none => σ.descriptors.lookup n.1 = some .other
  | some x => ∃ serial, σ.descriptors.lookup n.1 = some (.listening serial x)

/-- The custody invariant. -/
structure Custody (p : ServerState c) : Prop where
  exclusive : Exclusive (holdings p)
  valid : ∀ a, ∀ n ∈ holdings p a, RefersTo p.shared n

/-- At the beginning nothing is owned. -/
theorem custody_of_initial (hstart : Initial start) : Custody start where
  exclusive := by
    have hnothing : ∀ a, holdings start a = [] := by
      intro a
      cases a with
      | thread i => simp [holdings, hstart.quiet i]
      | record x => simp [holdings, Shared.execution, (hstart.fresh x.session).2, owned]
    constructor
    · intro a
      simp [hnothing a]
    · intro a b _ n hn
      simp [hnothing a] at hn
  valid a n hn := by
    cases a with
    | thread i => simp [holdings, hstart.quiet i] at hn
    | record x => simp [holdings, Shared.execution, (hstart.fresh x.session).2, owned] at hn

/-- A number in use is not the next one to be handed out. -/
theorem RefersTo.ne_lowestFree {σ : Shared c} {n : Owned c} (h : RefersTo σ n) :
    n.1 ≠ σ.descriptors.lowestFree := by
  unfold RefersTo at h
  split at h
  · exact Slots.ne_lowestFree h
  · rcases h with ⟨serial, hlookup⟩
    exact Slots.ne_lowestFree hlookup

/-- What a number refers to depends on its entry of the table only. -/
theorem RefersTo.of_lookup {σ σ' : Shared c} {n : Owned c} (h : RefersTo σ n)
    (hlookup : σ'.descriptors.lookup n.1 = σ.descriptors.lookup n.1) : RefersTo σ' n := by
  unfold RefersTo at h ⊢
  rwa [hlookup]

/-- A number refers to one thing. -/
theorem RefersTo.unique {σ : Shared c} {fd : Nat} {k k' : Option (Target c)}
    (h : RefersTo σ (fd, k)) (h' : RefersTo σ (fd, k')) : k = k' := by
  cases k with
  | none =>
      cases k' with
      | none => rfl
      | some y =>
          rcases h' with ⟨serial', hlookup'⟩
          have hlookup : σ.descriptors.lookup fd = some .other := h
          rw [hlookup] at hlookup'
          simp at hlookup'
  | some x =>
      rcases h with ⟨serial, hlookup⟩
      cases k' with
      | none =>
          have hlookup' : σ.descriptors.lookup fd = some .other := h'
          rw [hlookup] at hlookup'
          simp at hlookup'
      | some y =>
          rcases h' with ⟨serial', hlookup'⟩
          have hlisten : Descriptor.listening serial x = .listening serial' y :=
            Option.some.inj (hlookup.symm.trans hlookup')
          cases hlisten
          rfl

/-! ## Custody along a step -/

/-- A new thread owns nothing. -/
theorem exec_launch_custody {σ : Shared c} {s : Section c} {input : Input}
    {program : List (Section c)} (h : (exec host σ s input).launch = some program) :
    custodyOf program = [] ∧ ∀ t ∈ program, t.Staged := by
  rcases exec_launch h with ⟨k, sockets, worker, -, -, rfl⟩
  refine ⟨custodyOf_toSection _ _, ?_⟩
  intro t ht
  rw [List.mem_singleton] at ht
  subst ht
  exact WorkerStep.staged_toSection _ _

/-- Only the thread that runs changes what it owns. -/
theorem holdings_advance_of_ne {p : ServerState c} {i : Nat} {hi : i < p.count} {s : Section c}
    {rest : List (Section c)} {input : Input} {j : Nat} (hj : j ≠ i) :
    holdings (p.advance i hi (exec host p.shared s input) rest) (.thread j) =
      holdings p (.thread j) := by
  simp only [holdings]
  rcases Pool.threads_advance_cases p i hi (exec host p.shared s input) rest j with
    ⟨hji, -⟩ | ⟨-, ht⟩ | ⟨hcount, program, hlaunch, ht⟩
  · exact absurd hji hj
  · rw [ht]
  · rw [ht, (exec_launch_custody hlaunch).1, hcount, p.idle p.count (Nat.le_refl _), custodyOf_nil]

/-- After a section its thread owns what the program has left to it. -/
theorem holdings_advance_self {p : ServerState c} {i : Nat} {hi : i < p.count} {s : Section c}
    {rest : List (Section c)} {input : Input} :
    holdings (p.advance i hi (exec host p.shared s input) rest) (.thread i) =
      custodyOf (exec host p.shared s input).next ++ custodyOf rest := by
  simp [holdings]

/-- In every reachable state the starts are in the stages of their scenario. -/
theorem staged (hstart : Initial start) (hrun : ServerRun host start run last) :
    ∀ i, ∀ s ∈ last.threads i, s.Staged := by
  refine Run.invariant (C := fun _ => True)
    (I := fun p => ∀ i, ∀ s ∈ p.threads i, s.Staged) ?_ hrun (fun _ _ => trivial) ?_
  · intro τ hstep _ h j t ht
    rcases server_step_cases hstep with ⟨request, -, htarget⟩ |
      ⟨i, input, s, rest, hi, -, hhead, htarget⟩
    · rw [htarget] at ht
      rcases Pool.mem_launch ht with ⟨-, hprogram⟩ | ⟨-, hold⟩
      · exact staged_of_mem_handlerProgram hprogram
      · exact h j t hold
    · rw [htarget] at ht
      have hs : s ∈ τ.source.threads i := by
        rw [hhead]
        exact List.mem_cons_self
      rcases Pool.mem_advance ht with ⟨-, hnext | hrest⟩ | ⟨-, hold⟩ | ⟨-, program, hlaunch, hmem⟩
      · exact exec_staged (h i s hs) hnext
      · refine h i t ?_
        rw [hhead]
        exact List.mem_cons_of_mem s hrest
      · exact h j t hold
      · exact (exec_launch_custody hlaunch).2 t hmem
  · intro i s hs
    simp [hstart.quiet i] at hs

/-- The new handler owns its connection; all others own what they owned. -/
theorem holdings_launch (p : ServerState c) (request : Request c) :
    holdings ((p.withShared (p.shared.openDescriptor .other)).launch
        (handlerProgram p.shared.descriptors.lowestFree request)) (.thread p.count) =
      [(p.shared.descriptors.lowestFree, none)] ∧
    holdings p (.thread p.count) = [] ∧
    ∀ a, a ≠ .thread p.count → holdings ((p.withShared (p.shared.openDescriptor .other)).launch
        (handlerProgram p.shared.descriptors.lowestFree request)) a = holdings p a := by
  refine ⟨?_, ?_, ?_⟩
  · rw [holdings, ← custodyOf_handlerProgram p.shared.descriptors.lowestFree request]
    exact congrArg custodyOf (Pool.threads_launch_count (p := p.withShared _))
  · simp [holdings, p.idle p.count (Nat.le_refl _)]
  · intro a ha
    cases a with
    | thread j =>
        have hj : j ≠ p.count := fun heq => ha (congrArg Place.thread heq)
        rcases Pool.threads_launch_cases (p.withShared (p.shared.openDescriptor .other))
          (handlerProgram p.shared.descriptors.lowestFree request) j with ⟨hcount, -⟩ | ⟨-, ht⟩
        · exact absurd hcount hj
        · exact congrArg custodyOf ht
    | record x => rfl

/-- Accepting a connection gives its handler the lowest free number. -/
theorem Custody.launch {p : ServerState c} (h : Custody p) (request : Request c) :
    Custody ((p.withShared (p.shared.openDescriptor .other)).launch
      (handlerProgram p.shared.descriptors.lowestFree request)) := by
  rcases holdings_launch p request with ⟨hnew, hempty, hrest⟩
  constructor
  · refine Exclusive.acquire (n := (p.shared.descriptors.lowestFree, none)) h.exclusive ?_ hrest ?_
    · intro a hn
      exact (h.valid a _ hn).ne_lowestFree rfl
    · rw [hnew, hempty]
  · intro a n hn
    by_cases ha : a = .thread p.count
    · rw [ha, hnew, List.mem_singleton] at hn
      subst hn
      simp [RefersTo, Shared.openDescriptor, Slots.lookup_acquire]
    · rw [hrest a ha] at hn
      have hvalid := h.valid a n hn
      refine hvalid.of_lookup ?_
      simp [Shared.openDescriptor, Slots.lookup_acquire, hvalid.ne_lowestFree]

section Advance

variable {p : ServerState c} {i : Nat} {hi : i < p.count} {s : Section c}
  {rest : List (Section c)} {input : Input} {k : Handler c} {sockets : List ListeningSocket}
  {x : Target c}

/-- A thread owns what its next section does, and the rest of its program. -/
theorem holdings_of_head (hhead : p.threads i = s :: rest) :
    holdings p (.thread i) = s.custody ++ custodyOf rest := by
  rw [holdings, hhead, custodyOf_cons]

/-- A place that is neither the running thread nor a record it changes owns what
it owned. -/
theorem holdings_advance_other {a : Place c} (ha : a ≠ .thread i)
    (hrecord : ∀ y, a = .record y → ((exec host p.shared s input).shared.execution y).activeFds =
      (p.shared.execution y).activeFds) :
    holdings (p.advance i hi (exec host p.shared s input) rest) a = holdings p a := by
  cases a with
  | thread j => exact holdings_advance_of_ne fun heq => ha (congrArg Place.thread heq)
  | record y =>
      simp only [holdings, Pool.shared_advance]
      rw [hrecord y rfl]

/-! ### Passing on -/

variable (hi) in
/-- A section that passes its descriptors on leaves all ownership as it is. -/
theorem holdings_pass (hhead : p.threads i = s :: rest)
    (hperm : (custodyOf (exec host p.shared s input).next).Perm s.custody)
    (hfds : ∀ y, ((exec host p.shared s input).shared.execution y).activeFds =
      (p.shared.execution y).activeFds) (a : Place c) :
    (holdings (p.advance i hi (exec host p.shared s input) rest) a).Perm (holdings p a) := by
  by_cases ha : a = .thread i
  · subst ha
    rw [holdings_advance_self, holdings_of_head hhead]
    exact hperm.append_right _
  · rw [holdings_advance_other ha fun y _ => hfds y]

/-- Passing descriptors on within the thread keeps custody. -/
theorem Custody.pass (h : Custody p) (hhead : p.threads i = s :: rest)
    (hperm : (custodyOf (exec host p.shared s input).next).Perm s.custody)
    (hfds : ∀ y, ((exec host p.shared s input).shared.execution y).activeFds =
      (p.shared.execution y).activeFds)
    (htable : (exec host p.shared s input).shared.descriptors = p.shared.descriptors) :
    Custody (p.advance i hi (exec host p.shared s input) rest) := by
  have hall := holdings_pass hi hhead hperm hfds
  constructor
  · exact h.exclusive.giveUp fun a => (hall a).subperm
  · intro a n hn
    refine (h.valid a n ((hall a).subset hn)).of_lookup ?_
    rw [Pool.shared_advance, htable]

/-! ### Closing -/

variable (hi) in
/-- A section that closes its descriptor gives it up. -/
theorem holdings_close (hhead : p.threads i = s :: rest) {fd : Nat} {owner : Option (Target c)}
    (hs : s.custody = [(fd, owner)]) (hnext : (exec host p.shared s input).next = [])
    (hshared : (exec host p.shared s input).shared = p.shared.closeDescriptor fd) :
    holdings p (.thread i) = (fd, owner) ::
      holdings (p.advance i hi (exec host p.shared s input) rest) (.thread i) ∧
    ∀ a, a ≠ .thread i →
      holdings (p.advance i hi (exec host p.shared s input) rest) a = holdings p a := by
  constructor
  · rw [holdings_of_head hhead, hs, holdings_advance_self, hnext, custodyOf_nil, List.nil_append]
    rfl
  · intro a ha
    refine holdings_advance_other ha ?_
    intro y _
    rw [hshared, Shared.execution_closeDescriptor]

/-- Closing a descriptor that the section owns keeps custody. -/
theorem Custody.close (h : Custody p) (hhead : p.threads i = s :: rest) {fd : Nat}
    {owner : Option (Target c)} (hs : s.custody = [(fd, owner)])
    (hnext : (exec host p.shared s input).next = [])
    (hshared : (exec host p.shared s input).shared = p.shared.closeDescriptor fd) :
    Custody (p.advance i hi (exec host p.shared s input) rest) := by
  rcases holdings_close hi hhead hs hnext hshared with ⟨hself, hrest⟩
  have hsub : ∀ a, (holdings (p.advance i hi (exec host p.shared s input) rest) a).Subperm
      (holdings p a) := by
    intro a
    by_cases ha : a = .thread i
    · rw [ha, hself]
      exact List.Subperm.cons_self
    · rw [hrest a ha]
  have howned : (fd, owner) ∈ holdings p (.thread i) := by
    rw [hself]
    exact List.mem_cons_self
  constructor
  · exact h.exclusive.giveUp hsub
  · intro a n hn
    have hold := (hsub a).subset hn
    have hvalid := h.valid a n hold
    -- the number that is closed has no other owner
    have hne : n.1 ≠ fd := by
      intro heq
      rcases n with ⟨fd', owner'⟩
      cases heq
      have howner : owner' = owner := hvalid.unique (h.valid _ _ howned)
      subst howner
      have ha : a = .thread i := h.exclusive.eq_of_mem hold howned
      subst ha
      have hnodup := h.exclusive.nodup (.thread i)
      rw [hself] at hnodup
      exact (List.nodup_cons.mp hnodup).1 hn
    refine hvalid.of_lookup ?_
    rw [Pool.shared_advance, hshared, Shared.closeDescriptor, Slots.lookup_release, if_neg hne]

/-! ### Opening -/

variable (hi) in
/-- A section that opens a socket owns one more. -/
theorem holdings_openSocket (hhead : p.threads i = .openSocket k sockets :: rest)
    (hshared : (exec host p.shared (.openSocket k sockets) input).shared =
      p.shared.openListening k.target)
    (hnext : (exec host p.shared (.openSocket k sockets) input).next =
      [.setupSocket k sockets p.shared.descriptors.lowestFree]) :
    (holdings (p.advance i hi (exec host p.shared (.openSocket k sockets) input) rest)
        (.thread i)).Perm
      ((p.shared.descriptors.lowestFree, some k.target) :: holdings p (.thread i)) ∧
    ∀ a, a ≠ .thread i → holdings (p.advance i hi
      (exec host p.shared (.openSocket k sockets) input) rest) a = holdings p a := by
  constructor
  · rw [holdings_advance_self, holdings_of_head hhead, hnext, custodyOf_cons, custodyOf_nil,
      List.append_nil]
    exact List.Perm.swap _ _ _
  · intro a ha
    refine holdings_advance_other ha ?_
    intro y _
    rw [hshared, Shared.execution_openListening]

/-- Opening a socket keeps custody: the start owns the lowest free number. -/
theorem Custody.openSocket (h : Custody p) (hhead : p.threads i = .openSocket k sockets :: rest)
    (hshared : (exec host p.shared (.openSocket k sockets) input).shared =
      p.shared.openListening k.target)
    (hnext : (exec host p.shared (.openSocket k sockets) input).next =
      [.setupSocket k sockets p.shared.descriptors.lowestFree]) :
    Custody (p.advance i hi (exec host p.shared (.openSocket k sockets) input) rest) := by
  rcases holdings_openSocket hi hhead hshared hnext with ⟨hself, hrest⟩
  constructor
  · refine h.exclusive.acquire ?_ hrest hself.subperm
    intro a hn
    exact (h.valid a _ hn).ne_lowestFree rfl
  · intro a n hn
    rw [Pool.shared_advance, hshared]
    have hcases : n = (p.shared.descriptors.lowestFree, some k.target) ∨ n ∈ holdings p a := by
      by_cases ha : a = .thread i
      · subst ha
        exact List.mem_cons.mp (hself.subset hn)
      · rw [hrest a ha] at hn
        exact Or.inr hn
    rcases hcases with rfl | hold
    · exact ⟨p.shared.opened, by simp [Shared.openListening, Slots.lookup_acquire]⟩
    · have hvalid := h.valid a n hold
      refine hvalid.of_lookup ?_
      simp [Shared.openListening, Slots.lookup_acquire, hvalid.ne_lowestFree]

/-! ### Publishing and taking -/

variable (host hi input) in
/-- The sockets of a start pass from the thread to the record. -/
theorem holdings_publish (hhead : p.threads i = .setActiveFds k sockets :: rest) :
    (holdings (p.advance i hi (exec host p.shared (.setActiveFds k sockets) input) rest)
        (.thread i) ++
      holdings (p.advance i hi (exec host p.shared (.setActiveFds k sockets) input) rest)
        (.record k.target)).Perm (holdings p (.thread i)) ∧
    ∀ a, a ≠ .thread i → a ≠ .record k.target → holdings (p.advance i hi
      (exec host p.shared (.setActiveFds k sockets) input) rest) a = holdings p a := by
  constructor
  · have hself : holdings (p.advance i hi (exec host p.shared (.setActiveFds k sockets) input)
        rest) (.thread i) = (k.client, none) :: custodyOf rest := by
      rw [holdings_advance_self]
      rfl
    have hrecord : holdings (p.advance i hi (exec host p.shared (.setActiveFds k sockets) input)
        rest) (.record k.target) = owned k.target (sockets.map ListeningSocket.fd) := by
      simp [holdings, exec]
    rw [hself, hrecord, holdings_of_head hhead]
    exact List.perm_append_comm.cons _
  · intro a hthread hrecord
    refine holdings_advance_other hthread ?_
    intro y ha
    have hy : y ≠ k.target := fun heq => hrecord (ha.trans (congrArg Place.record heq))
    simp [exec, hy]

/-- Publishing moves the sockets of a start to the record of its execution; the
descriptors listed there before are given up. -/
theorem Custody.publish (h : Custody p) (hhead : p.threads i = .setActiveFds k sockets :: rest) :
    Custody (p.advance i hi (exec host p.shared (.setActiveFds k sockets) input) rest) := by
  rcases holdings_publish host hi input hhead with ⟨hperm, hrest⟩
  constructor
  · refine h.exclusive.exchange (by simp) hrest ?_
    exact hperm.subperm.trans (List.sublist_append_left _ _).subperm
  · intro a n hn
    have hold : ∃ b, n ∈ holdings p b := by
      by_cases hthread : a = .thread i
      · subst hthread
        exact ⟨.thread i, hperm.subset (List.mem_append_left _ hn)⟩
      · by_cases hrecord : a = .record k.target
        · subst hrecord
          exact ⟨.thread i, hperm.subset (List.mem_append_right _ hn)⟩
        · rw [hrest a hthread hrecord] at hn
          exact ⟨a, hn⟩
    rcases hold with ⟨b, hb⟩
    exact (h.valid b n hb).of_lookup (by simp [exec])

variable (host hi input) in
/-- The sockets pass from the record to the thread that is going to close them. -/
theorem holdings_take (hhead : p.threads i = .takeActiveFds x :: rest) :
    (holdings (p.advance i hi (exec host p.shared (.takeActiveFds x) input) rest) (.thread i) ++
      holdings (p.advance i hi (exec host p.shared (.takeActiveFds x) input) rest)
        (.record x)).Perm (holdings p (.thread i) ++ holdings p (.record x)) ∧
    ∀ a, a ≠ .thread i → a ≠ .record x → holdings (p.advance i hi
      (exec host p.shared (.takeActiveFds x) input) rest) a = holdings p a := by
  constructor
  · have hself : holdings (p.advance i hi (exec host p.shared (.takeActiveFds x) input) rest)
        (.thread i) = holdings p (.record x) ++ holdings p (.thread i) := by
      rw [holdings_advance_self, holdings_of_head hhead]
      simp only [exec, custodyOf_closeFd]
      rfl
    have hrecord : holdings (p.advance i hi (exec host p.shared (.takeActiveFds x) input) rest)
        (.record x) = [] := by
      simp [holdings, exec, owned]
    rw [hself, hrecord, List.append_nil]
    exact List.perm_append_comm
  · intro a hthread hrecord
    refine holdings_advance_other hthread ?_
    intro y ha
    have hy : y ≠ x := fun heq => hrecord (ha.trans (congrArg Place.record heq))
    simp [exec, hy]

/-- Taking moves the descriptors of a record to the calls that close them. -/
theorem Custody.take (h : Custody p) (hhead : p.threads i = .takeActiveFds x :: rest) :
    Custody (p.advance i hi (exec host p.shared (.takeActiveFds x) input) rest) := by
  rcases holdings_take host hi input hhead with ⟨hperm, hrest⟩
  constructor
  · exact h.exclusive.exchange (by simp) hrest hperm.subperm
  · intro a n hn
    have hold : ∃ b, n ∈ holdings p b := by
      by_cases hin : a = .thread i ∨ a = .record x
      · have hmem : n ∈ holdings p (.thread i) ++ holdings p (.record x) := by
          refine hperm.subset ?_
          rcases hin with rfl | rfl
          · exact List.mem_append_left _ hn
          · exact List.mem_append_right _ hn
        rcases List.mem_append.mp hmem with hthread | hrecord
        · exact ⟨_, hthread⟩
        · exact ⟨_, hrecord⟩
      · rw [not_or] at hin
        rw [hrest a hin.1 hin.2] at hn
        exact ⟨a, hn⟩
    rcases hold with ⟨b, hb⟩
    exact (h.valid b n hb).of_lookup (by simp [exec])

end Advance

/-- A step keeps custody. -/
theorem Custody.step {τ : ServerTransition c}
    (hstep : (server host).step τ.source τ.action = some τ.target)
    (hstaged : ∀ i, ∀ s ∈ τ.source.threads i, s.Staged) (h : Custody τ.source) :
    Custody τ.target := by
  rcases server_step_cases hstep with ⟨request, -, htarget⟩ |
    ⟨i, input, s, rest, hi, -, hhead, htarget⟩
  · rw [htarget]
    exact h.launch request
  · rw [htarget]
    have hs : s ∈ τ.source.threads i := by
      rw [hhead]
      exact List.mem_cons_self
    rcases exec_custody host τ.source.shared input (hstaged i s hs) with
      ⟨hperm, hpublishes, htakes, htable⟩ | ⟨fd, k, -, hcustody, hnext, hshared⟩ |
      ⟨k, sockets, rfl, hshared, hnext⟩ | ⟨k, sockets, rfl⟩ | ⟨x, rfl⟩
    · refine h.pass hhead hperm ?_ htable
      exact exec_activeFds_of_none host τ.source.shared input hpublishes htakes
    · exact h.close hhead hcustody hnext hshared
    · exact h.openSocket hhead hshared hnext
    · exact h.publish hhead
    · exact h.take hhead

/-- In every reachable state custody is exclusive, and every owned number refers
to what its owner has opened. -/
theorem custody (hstart : Initial start) (hrun : ServerRun host start run last) :
    Custody last := by
  refine Run.history (I := fun _ p => Custody p) ?_ hrun (custody_of_initial hstart)
  intro front τ hfront hstep h
  exact h.step hstep (staged hstart hfront)

/-! ## Every socket is closed once, by its owner -/

/-- The number that a step passes to `close`. -/
def closes (τ : ServerTransition c) : Option Nat :=
  τ.head?.bind Section.closes

/-- The listening socket that a step passes to `close`. -/
def closedSocket (τ : ServerTransition c) : Option Nat :=
  (closes τ).bind fun fd =>
    match τ.source.shared.descriptors.lookup fd with
    | some (.listening serial _) => some serial
    | _ => none

/-- How a step changes the descriptor table. -/
theorem step_table {τ : ServerTransition c}
    (hstep : (server host).step τ.source τ.action = some τ.target) :
    (closes τ = none ∧ τ.target.shared.descriptors = τ.source.shared.descriptors ∧
      τ.target.shared.opened = τ.source.shared.opened) ∨
    (closes τ = none ∧ τ.target.shared = τ.source.shared.openDescriptor .other) ∨
    (closes τ = none ∧ ∃ x, τ.target.shared = τ.source.shared.openListening x) ∨
    (∃ fd, closes τ = some fd ∧ τ.target.shared = τ.source.shared.closeDescriptor fd) := by
  rcases server_step_cases hstep with ⟨request, ha, htarget⟩ |
    ⟨i, input, s, rest, hi, ha, hhead, htarget⟩
  · refine Or.inr (Or.inl ⟨by simp [closes, Transition.head?, ha], ?_⟩)
    rw [htarget]
    rfl
  · have hcloses : closes τ = s.closes := by
      rw [closes, System.head?_of_run ha hhead]
      rfl
    rw [hcloses, htarget, Pool.shared_advance]
    cases hs : s.closes with
    | some fd => exact Or.inr (Or.inr (Or.inr ⟨fd, rfl, (exec_closes host _ input hs).1⟩))
    | none =>
        rcases exec_descriptors host τ.source.shared s input with
          ⟨htable, hopened⟩ | ⟨h, sockets, -, hshared, -⟩ | ⟨fd, hfd, -⟩
        · exact Or.inl ⟨rfl, htable, hopened⟩
        · exact Or.inr (Or.inr (Or.inl ⟨rfl, h.target, hshared⟩))
        · rw [hs] at hfd
          contradiction

/-- What the table says about the sockets closed so far: an open socket has a
number of its own, which has been given out and not been closed. -/
structure ClosedOnce (run : List (ServerTransition c)) (σ : Shared c) : Prop where
  live : ∀ fd serial owner, σ.descriptors.lookup fd = some (.listening serial owner) →
    serial < σ.opened ∧ serial ∉ run.filterMap closedSocket
  alone : ∀ fd fd' serial owner owner',
    σ.descriptors.lookup fd = some (.listening serial owner) →
    σ.descriptors.lookup fd' = some (.listening serial owner') → fd = fd'
  past : ∀ serial ∈ run.filterMap closedSocket, serial < σ.opened
  nodup : (run.filterMap closedSocket).Nodup

/-- A step that closes nothing keeps the list of closed sockets. -/
theorem filterMap_closedSocket_of_none (run : List (ServerTransition c)) {τ : ServerTransition c}
    (h : closes τ = none) :
    (run ++ [τ]).filterMap closedSocket = run.filterMap closedSocket := by
  simp [closedSocket, h]

section

variable {τ : ServerTransition c} (h : ClosedOnce run τ.source.shared)
include h

/-- A step that neither opens nor closes a socket. -/
theorem ClosedOnce.kept (hnone : closes τ = none)
    (hopened : τ.target.shared.opened = τ.source.shared.opened)
    (hold : ∀ fd serial owner,
      τ.target.shared.descriptors.lookup fd = some (.listening serial owner) →
      τ.source.shared.descriptors.lookup fd = some (.listening serial owner)) :
    ClosedOnce (run ++ [τ]) τ.target.shared := by
  have hclosed := filterMap_closedSocket_of_none run hnone
  constructor
  · intro fd serial owner hlookup
    rw [hopened, hclosed]
    exact h.live fd serial owner (hold fd serial owner hlookup)
  · intro fd fd' serial owner owner' hfd hfd'
    exact h.alone fd fd' serial owner owner' (hold _ _ _ hfd) (hold _ _ _ hfd')
  · rw [hopened, hclosed]
    exact h.past
  · rw [hclosed]
    exact h.nodup

/-- A new socket gets a number that has not been given out. -/
theorem ClosedOnce.openListening (hnone : closes τ = none) {x : Target c}
    (hshared : τ.target.shared = τ.source.shared.openListening x) :
    ClosedOnce (run ++ [τ]) τ.target.shared := by
  have hclosed := filterMap_closedSocket_of_none run hnone
  have hold : ∀ n serial owner, τ.target.shared.descriptors.lookup n =
      some (.listening serial owner) →
      (n = τ.source.shared.descriptors.lowestFree ∧ serial = τ.source.shared.opened) ∨
      τ.source.shared.descriptors.lookup n = some (.listening serial owner) := by
    intro n serial owner hlookup
    rw [hshared, Shared.openListening, Slots.lookup_acquire] at hlookup
    split at hlookup
    · rename_i hn
      simp only [Option.some.injEq, Descriptor.listening.injEq] at hlookup
      exact Or.inl ⟨hn, hlookup.1.symm⟩
    · exact Or.inr hlookup
  have hopened : τ.target.shared.opened = τ.source.shared.opened + 1 := by
    rw [hshared]
    rfl
  constructor
  · intro n serial owner hlookup
    rw [hopened, hclosed]
    rcases hold n serial owner hlookup with ⟨-, hserial⟩ | hbefore
    · refine ⟨by omega, ?_⟩
      intro hmem
      have hlt := h.past serial hmem
      omega
    · have hlive := h.live n serial owner hbefore
      exact ⟨by omega, hlive.2⟩
  · intro n n' serial owner owner' hn hn'
    rcases hold n serial owner hn with ⟨hfree, hserial⟩ | hbefore
    · rcases hold n' serial owner' hn' with ⟨hfree', -⟩ | hbefore'
      · rw [hfree, hfree']
      · have hlt := (h.live n' serial owner' hbefore').1
        omega
    · rcases hold n' serial owner' hn' with ⟨-, hserial⟩ | hbefore'
      · have hlt := (h.live n serial owner hbefore).1
        omega
      · exact h.alone n n' serial owner owner' hbefore hbefore'
  · intro serial hserial
    rw [hclosed] at hserial
    have hlt := h.past serial hserial
    omega
  · rw [hclosed]
    exact h.nodup

/-- A socket that is closed was open, so it had not been closed before. -/
theorem ClosedOnce.closeDescriptor {fd : Nat} (hfd : closes τ = some fd)
    (hshared : τ.target.shared = τ.source.shared.closeDescriptor fd) :
    ClosedOnce (run ++ [τ]) τ.target.shared := by
  have hopened : τ.target.shared.opened = τ.source.shared.opened := by
    rw [hshared]
    rfl
  have hold : ∀ n serial owner, τ.target.shared.descriptors.lookup n =
      some (.listening serial owner) → n ≠ fd ∧
      τ.source.shared.descriptors.lookup n = some (.listening serial owner) := by
    intro n serial owner hlookup
    rw [hshared, Shared.closeDescriptor, Slots.lookup_release] at hlookup
    split at hlookup
    · contradiction
    · exact ⟨‹_›, hlookup⟩
  have hclosed : (run ++ [τ]).filterMap closedSocket =
      run.filterMap closedSocket ++ (closedSocket τ).toList := by
    cases hτ : closedSocket τ <;> simp [hτ]
  have hsocket : ∀ serial, closedSocket τ = some serial → ∃ owner,
      τ.source.shared.descriptors.lookup fd = some (.listening serial owner) := by
    intro serial hserial
    simp only [closedSocket, hfd, Option.bind_some] at hserial
    split at hserial
    · rename_i serial' owner hlookup
      cases hserial
      exact ⟨owner, hlookup⟩
    · contradiction
  constructor
  · intro n serial owner hlookup
    rcases hold n serial owner hlookup with ⟨hne, hbefore⟩
    have hlive := h.live n serial owner hbefore
    rw [hopened, hclosed]
    refine ⟨hlive.1, ?_⟩
    intro hmem
    rcases List.mem_append.mp hmem with hpast | hnow
    · exact hlive.2 hpast
    · rcases hsocket serial (by simpa using hnow) with ⟨owner', hlookup'⟩
      exact hne (h.alone n fd serial owner owner' hbefore hlookup')
  · intro n n' serial owner owner' hn hn'
    exact h.alone n n' serial owner owner' (hold _ _ _ hn).2 (hold _ _ _ hn').2
  · intro serial hserial
    rw [hopened]
    rw [hclosed] at hserial
    rcases List.mem_append.mp hserial with hpast | hnow
    · exact h.past serial hpast
    · rcases hsocket serial (by simpa using hnow) with ⟨owner, hlookup⟩
      exact (h.live fd serial owner hlookup).1
  · rw [hclosed]
    cases hτ : closedSocket τ with
    | none => simpa using h.nodup
    | some serial =>
        rcases hsocket serial hτ with ⟨owner, hlookup⟩
        have hnew := (h.live fd serial owner hlookup).2
        refine List.nodup_append.mpr ⟨h.nodup, List.nodup_singleton _, ?_⟩
        intro m hm m' hm' heq
        simp only [Option.toList_some, List.mem_singleton] at hm'
        subst hm' heq
        exact hnew hm

/-- A step keeps the account of the closed sockets. -/
theorem ClosedOnce.step (hstep : (server host).step τ.source τ.action = some τ.target) :
    ClosedOnce (run ++ [τ]) τ.target.shared := by
  rcases step_table hstep with ⟨hnone, htable, hopened⟩ | ⟨hnone, hshared⟩ | ⟨hnone, x, hshared⟩ |
    ⟨fd, hfd, hshared⟩
  · exact h.kept hnone hopened fun _ _ _ hlookup => htable ▸ hlookup
  · have hopened : τ.target.shared.opened = τ.source.shared.opened := by
      rw [hshared]
      rfl
    refine h.kept hnone hopened fun n serial owner hlookup => ?_
    rw [hshared, Shared.openDescriptor, Slots.lookup_acquire] at hlookup
    split at hlookup
    · simp at hlookup
    · exact hlookup
  · exact h.openListening hnone hshared
  · exact h.closeDescriptor hfd hshared

end

/-- Every descriptor is closed by its owner and once.  A close made for an
execution acts on an open listening socket that was opened for that execution,
the close of a connection acts on no listening socket, and no listening socket
is passed to close twice. -/
theorem closes_own (hstart : Initial start) (hrun : ServerRun host start run last) :
    (∀ τ ∈ run, ∀ x fd, τ.head? = some (.closeFd x fd) → ∃ serial,
      τ.source.shared.descriptors.lookup fd = some (.listening serial x)) ∧
    (∀ τ ∈ run, ∀ s ∈ τ.head?, ∀ fd ∈ s.closes, (∀ x, s ≠ .closeFd x fd) →
      τ.source.shared.descriptors.lookup fd = some .other) ∧
    (run.filterMap closedSocket).Nodup := by
  have hrefers : ∀ τ ∈ run, ∀ s ∈ τ.head?, ∀ n ∈ s.custody, RefersTo τ.source.shared n := by
    intro τ hτ s hs n hn
    rcases hrun.before hτ with ⟨front, back, -, hfront⟩
    rcases server_step_cases (hrun.enabled hτ) with ⟨request, ha, -⟩ |
      ⟨i, input, s', rest, hi, ha, hhead, -⟩
    · simp [Transition.head?, ha] at hs
    · rw [System.head?_of_run ha hhead] at hs
      cases hs
      refine (custody hstart hfront).valid (.thread i) n ?_
      rw [holdings_of_head hhead]
      exact List.mem_append_left _ hn
  refine ⟨?_, ?_, ?_⟩
  · intro τ hτ x fd hs
    exact hrefers τ hτ _ hs (fd, some x) (List.mem_singleton_self _)
  · intro τ hτ s hs fd hfd hne
    have hcustody : (fd, none) ∈ s.custody := by
      cases s with
      | closeFd x n =>
          cases hfd
          exact absurd rfl (hne x)
      | respond client response =>
          cases hfd
          exact List.mem_singleton_self _
      | hangUp client =>
          cases hfd
          exact List.mem_singleton_self _
      | _ => simp [Section.closes] at hfd
    exact hrefers τ hτ s hs (fd, none) hcustody
  · have hclosed : ClosedOnce run last.shared := by
      refine Run.history (I := fun run p => ClosedOnce run p.shared) ?_ hrun ?_
      · intro front τ _ hstep h
        exact h.step hstep
      · constructor
        · intro fd serial owner hlookup
          exact absurd hlookup (hstart.closed fd serial owner)
        · intro fd fd' serial owner owner' hlookup
          exact absurd hlookup (hstart.closed fd serial owner)
        · intro serial hserial
          simp at hserial
        · exact List.nodup_nil
    exact hclosed.nodup

/-- A start with one socket, and an unsupported report that closes it. -/
def socketOpenedAndClosed : List (ServerAction sampleCatalog) :=
  [.arrive (.feature multiMessage .start)] ++ List.replicate 14 (.run 0 {}) ++
    [.arrive (.feature multiMessage (.unsupported (str "\x7b\x7d")))] ++
    List.replicate 8 (.run 2 {})

theorem closes_own_socketOpenedAndClosed :
    (record (server sampleHost).step sampleStart socketOpenedAndClosed).filterMap closedSocket =
      [0] ∧
    ∀ τ ∈ record (server sampleHost).step sampleStart socketOpenedAndClosed, ∀ x fd,
      τ.head? = some (.closeFd x fd) → ∃ serial,
        τ.source.shared.descriptors.lookup fd = some (.listening serial x) := by
  have hrun : ∃ last, ServerRun sampleHost sampleStart
      (record (server sampleHost).step sampleStart socketOpenedAndClosed) last ∧
      (last.shared.execution multiMessage).state = .unsupported := exists_run (by decide)
  rcases hrun with ⟨last, hrun, -⟩
  exact ⟨by decide, (closes_own sampleStart_initial hrun).1⟩

end SctpConformance
