import SctpConformance.Library.Runs

/-!
# Interleaved threads over a shared state

A thread is the list of the atomic sections it has still to run.  Running the
section at its head changes the shared state, puts further sections in front of
the rest, and may launch one new thread.  A pool holds the shared state and all
threads ever created; new threads come from running threads or from arrivals
(requests of the outside world).

Main results:

- Theorem `System.step_cases`: a step is an arrival or one section run by the
  thread at whose head it stands.
- Theorems `Pool.mem_advance` and `Pool.mem_launch`: where the sections found
  in a pool after a step come from.
- Theorem `Pool.Pending.advance`: a step discards no section but the one it runs.
- Theorem `System.step_all`: what arrivals and sections keep of the shared state and of
  the sections still to run, every step keeps.
-/

namespace SctpConformance.Library

variable {Shared Section Request Input : Type*}

/-- The outcome of one atomic section. -/
structure Effect (Shared Section : Type*) where
  shared : Shared
  next : List Section := []
  launch : Option (List Section) := none

/-- A shared state and the threads running over it, each given by the sections
it has still to run.  No thread stands at a number that is not yet in use. -/
structure Pool (Shared Section : Type*) where
  shared : Shared
  threads : Nat → List Section
  count : Nat
  idle : ∀ n, count ≤ n → threads n = []

namespace Pool

variable {p : Pool Shared Section} {i j : Nat} {s : Section}

/-- A thread that owns a section has been created. -/
theorem lt_count_of_mem (h : s ∈ p.threads i) : i < p.count := by
  by_contra hge
  rw [p.idle i (Nat.le_of_not_lt hge)] at h
  contradiction

/-- Create a thread with the given program. -/
def launch (p : Pool Shared Section) (program : List Section) : Pool Shared Section where
  shared := p.shared
  threads n := if n = p.count then program else p.threads n
  count := p.count + 1
  idle n hn := by
    have hne : n ≠ p.count := by omega
    simp [hne, p.idle n (by omega)]

/-- Replace the shared state. -/
def withShared (p : Pool Shared Section) (shared : Shared) : Pool Shared Section :=
  { p with shared := shared }

/-- Replace the program of one existing thread. -/
def withThread (p : Pool Shared Section) (i : Nat) (hi : i < p.count)
    (program : List Section) : Pool Shared Section where
  shared := p.shared
  threads n := if n = i then program else p.threads n
  count := p.count
  idle n hn := by
    have hne : n ≠ i := by omega
    simp [hne, p.idle n hn]

/-- Apply the effect of the section at the head of thread `i`. -/
def advance (p : Pool Shared Section) (i : Nat) (hi : i < p.count)
    (e : Effect Shared Section) (rest : List Section) : Pool Shared Section :=
  let moved := (p.withThread i hi (e.next ++ rest)).withShared e.shared
  match e.launch with
  | none => moved
  | some program => moved.launch program

@[simp]
theorem shared_launch (p : Pool Shared Section) (program : List Section) :
    (p.launch program).shared = p.shared :=
  rfl

@[simp]
theorem shared_withShared (p : Pool Shared Section) (shared : Shared) :
    (p.withShared shared).shared = shared :=
  rfl

@[simp]
theorem threads_withShared (p : Pool Shared Section) (shared : Shared) :
    (p.withShared shared).threads = p.threads :=
  rfl

@[simp]
theorem count_withShared (p : Pool Shared Section) (shared : Shared) :
    (p.withShared shared).count = p.count :=
  rfl

@[simp]
theorem shared_advance (p : Pool Shared Section) (i : Nat) (hi : i < p.count)
    (e : Effect Shared Section) (rest : List Section) :
    (p.advance i hi e rest).shared = e.shared := by
  unfold advance
  cases e.launch <;> rfl

/-- No thread is ever removed. -/
theorem count_le_advance (p : Pool Shared Section) (i : Nat) (hi : i < p.count)
    (e : Effect Shared Section) (rest : List Section) :
    p.count ≤ (p.advance i hi e rest).count := by
  unfold advance
  cases e.launch with
  | none => exact Nat.le_refl _
  | some program => exact Nat.le_succ _

/-- The thread that ran a section goes on with what the section put before the rest. -/
@[simp]
theorem threads_advance_self (p : Pool Shared Section) (i : Nat) (hi : i < p.count)
    (e : Effect Shared Section) (rest : List Section) :
    (p.advance i hi e rest).threads i = e.next ++ rest := by
  unfold advance
  cases e.launch with
  | none => simp [withThread]
  | some program => simp [withThread, launch, Nat.ne_of_lt hi]

/-- Threads that existed and did not run are where they were. -/
theorem threads_advance_of_ne (p : Pool Shared Section) (i : Nat) (hi : i < p.count)
    (e : Effect Shared Section) (rest : List Section) (hj : j ≠ i) (hlt : j < p.count) :
    (p.advance i hi e rest).threads j = p.threads j := by
  unfold advance
  cases e.launch with
  | none => simp [withThread, hj]
  | some program => simp [withThread, launch, hj, Nat.ne_of_lt hlt]

/-- The first unused number holds the launched thread, if one was launched. -/
theorem threads_advance_count (p : Pool Shared Section) (i : Nat) (hi : i < p.count)
    (e : Effect Shared Section) (rest : List Section) :
    (p.advance i hi e rest).threads p.count = e.launch.getD [] := by
  unfold advance
  cases e.launch with
  | none => simp [withThread, (Nat.ne_of_lt hi).symm, p.idle p.count (Nat.le_refl _)]
  | some program => simp [withThread, launch]

/-- After a step a thread goes on after the section it ran, is where it was, or
is the one that was launched. -/
theorem threads_advance_cases (p : Pool Shared Section) (i : Nat) (hi : i < p.count)
    (e : Effect Shared Section) (rest : List Section) (j : Nat) :
    (j = i ∧ (p.advance i hi e rest).threads j = e.next ++ rest) ∨
      (j ≠ i ∧ (p.advance i hi e rest).threads j = p.threads j) ∨
      (j = p.count ∧ ∃ program, e.launch = some program ∧
        (p.advance i hi e rest).threads j = program) := by
  by_cases hj : j = i
  · subst hj
    exact Or.inl ⟨rfl, threads_advance_self p j hi e rest⟩
  · refine Or.inr ?_
    by_cases hlt : j < p.count
    · exact Or.inl ⟨hj, threads_advance_of_ne p i hi e rest hj hlt⟩
    · have hidle := p.idle j (Nat.le_of_not_lt hlt)
      by_cases hcount : j = p.count
      · subst hcount
        cases hlaunch : e.launch with
        | none =>
            refine Or.inl ⟨hj, ?_⟩
            rw [threads_advance_count, hlaunch, hidle]
            rfl
        | some program =>
            refine Or.inr ⟨rfl, program, rfl, ?_⟩
            rw [threads_advance_count, hlaunch]
            rfl
      · refine Or.inl ⟨hj, ?_⟩
        unfold advance
        cases e.launch with
        | none => simp [withThread, hj]
        | some program => simp [withThread, launch, hj, hcount]

/-- A section found after a step stood there before, was put there by the
section that ran, or belongs to the thread that was launched. -/
theorem mem_advance {hi : i < p.count} {e : Effect Shared Section} {rest : List Section}
    (h : s ∈ (p.advance i hi e rest).threads j) :
    (j = i ∧ (s ∈ e.next ∨ s ∈ rest)) ∨ (j ≠ i ∧ s ∈ p.threads j) ∨
      (j = p.count ∧ ∃ program, e.launch = some program ∧ s ∈ program) := by
  rcases threads_advance_cases p i hi e rest j with ⟨hj, ht⟩ | ⟨hj, ht⟩ | ⟨hj, program, hl, ht⟩
  · rw [ht, List.mem_append] at h
    exact Or.inl ⟨hj, h⟩
  · rw [ht] at h
    exact Or.inr (Or.inl ⟨hj, h⟩)
  · rw [ht] at h
    exact Or.inr (Or.inr ⟨hj, program, hl, h⟩)

/-- After an arrival a thread is where it was or is the new one. -/
theorem threads_launch_cases (p : Pool Shared Section) (program : List Section) (j : Nat) :
    (j = p.count ∧ (p.launch program).threads j = program) ∨
      (j ≠ p.count ∧ (p.launch program).threads j = p.threads j) := by
  by_cases hj : j = p.count
  · exact Or.inl ⟨hj, by simp [launch, hj]⟩
  · exact Or.inr ⟨hj, by simp [launch, hj]⟩

/-- A section found after an arrival stood there before or belongs to the new thread. -/
theorem mem_launch {program : List Section} (h : s ∈ (p.launch program).threads j) :
    (j = p.count ∧ s ∈ program) ∨ (j ≠ p.count ∧ s ∈ p.threads j) := by
  rcases threads_launch_cases p program j with ⟨hj, ht⟩ | ⟨hj, ht⟩
  · exact Or.inl ⟨hj, ht ▸ h⟩
  · exact Or.inr ⟨hj, ht ▸ h⟩

/-- The threads that existed before an arrival are where they were. -/
theorem threads_launch_of_lt {program : List Section} (hj : j < p.count) :
    (p.launch program).threads j = p.threads j := by
  simp [launch, Nat.ne_of_lt hj]

@[simp]
theorem threads_launch_count {program : List Section} :
    (p.launch program).threads p.count = program := by
  simp [launch]

/-- Some thread has the section still to run. -/
def Pending (p : Pool Shared Section) (s : Section) : Prop :=
  ∃ i, s ∈ p.threads i

instance [DecidableEq Section] (p : Pool Shared Section) (s : Section) :
    Decidable (p.Pending s) :=
  decidable_of_iff (∃ i < p.count, s ∈ p.threads i)
    ⟨fun ⟨i, _, hi⟩ => ⟨i, hi⟩, fun ⟨i, hi⟩ => ⟨i, lt_count_of_mem hi, hi⟩⟩

/-- A step discards no section but the one it runs. -/
theorem Pending.advance {e : Effect Shared Section} {head : Section} {rest : List Section}
    (hpending : p.Pending s) (hi : i < p.count) (hhead : p.threads i = head :: rest)
    (hne : s ≠ head) : (p.advance i hi e rest).Pending s := by
  rcases hpending with ⟨j, hj⟩
  by_cases hji : j = i
  · subst hji
    rw [hhead] at hj
    refine ⟨j, ?_⟩
    rw [threads_advance_self, List.mem_append]
    exact Or.inr ((List.mem_cons.mp hj).resolve_left hne)
  · refine ⟨j, ?_⟩
    rw [threads_advance_of_ne p i hi e rest hji (lt_count_of_mem hj)]
    exact hj

/-- What a section puts in front of the rest is pending after it. -/
theorem pending_of_mem_next {e : Effect Shared Section} (hi : i < p.count) (h : s ∈ e.next)
    (rest : List Section) : (p.advance i hi e rest).Pending s := by
  refine ⟨i, ?_⟩
  rw [threads_advance_self]
  exact List.mem_append_left _ h

/-- An arrival discards no section. -/
theorem Pending.launch (hpending : p.Pending s) (program : List Section) :
    (p.launch program).Pending s := by
  rcases hpending with ⟨j, hj⟩
  exact ⟨j, by rwa [threads_launch_of_lt (lt_count_of_mem hj)]⟩

@[simp]
theorem pending_withShared (shared : Shared) :
    (p.withShared shared).Pending s ↔ p.Pending s :=
  Iff.rfl

end Pool

/-! ## Conditions on everything in a pool -/

/-- The shared state that a section leaves meets one condition, and every section that it
adds meets another. -/
structure Effect.All (P : Shared → Prop) (Q : Section → Prop) (e : Effect Shared Section) :
    Prop where
  shared : P e.shared
  next : ∀ s ∈ e.next, Q s
  launch : ∀ program, e.launch = some program → ∀ s ∈ program, Q s

/-- A section that launches no thread. -/
theorem Effect.All.of_next {P : Shared → Prop} {Q : Section → Prop} {shared : Shared}
    {next : List Section} (hshared : P shared) (hnext : ∀ s ∈ next, Q s) :
    Effect.All P Q { shared := shared, next := next } where
  shared := hshared
  next := hnext
  launch _ h := nomatch h

/-- The shared state meets one condition, and every section still to run meets another. -/
structure Pool.All (P : Shared → Prop) (Q : Section → Prop) (p : Pool Shared Section) :
    Prop where
  shared : P p.shared
  threads : ∀ i, ∀ s ∈ p.threads i, Q s

namespace Pool

variable {P : Shared → Prop} {Q : Section → Prop} {p : Pool Shared Section}

/-- A section that keeps both predicates does so at every thread. -/
theorem All.advance {i : Nat} {hi : i < p.count} {e : Effect Shared Section} {head : Section}
    {rest : List Section} (h : p.All P Q) (hhead : p.threads i = head :: rest)
    (he : e.All P Q) : (p.advance i hi e rest).All P Q where
  shared := by
    rw [shared_advance]
    exact he.shared
  threads j s hs := by
    rcases mem_advance hs with ⟨-, hnext | hrest⟩ | ⟨-, hmem⟩ | ⟨-, program, hlaunch, hmem⟩
    · exact he.next s hnext
    · apply h.threads i s
      rw [hhead]
      exact List.mem_cons_of_mem _ hrest
    · exact h.threads j s hmem
    · exact he.launch program hlaunch s hmem

/-- A thread may join if its sections are as they should be. -/
theorem All.launch {shared : Shared} {program : List Section} (h : p.All P Q) (hshared : P shared)
    (hprogram : ∀ s ∈ program, Q s) : ((p.withShared shared).launch program).All P Q where
  shared := hshared
  threads j s hs := by
    rcases mem_launch hs with ⟨-, hmem⟩ | ⟨-, hmem⟩
    · exact hprogram s hmem
    · exact h.threads j s hmem

end Pool

/-! ## The interleaving semantics -/

/-- Atomic sections and arrivals over a shared state. -/
structure System (Shared Section Request Input : Type*) where
  arrive : Shared → Request → Shared × List Section
  exec : Shared → Section → Input → Effect Shared Section

/-- A request arrives, or thread `i` runs the section at its head. -/
inductive PoolAction (Request Input : Type*) where
  | arrive (request : Request)
  | run (i : Nat) (input : Input)

/-- The section that a transition runs. -/
def Transition.head? (τ : Transition (Pool Shared Section) (PoolAction Request Input)) :
    Option Section :=
  match τ.action with
  | .arrive _ => none
  | .run i _ => (τ.source.threads i).head?

namespace System

variable (sys : System Shared Section Request Input)

/-- One step of the interleaving semantics. -/
def step (p : Pool Shared Section) :
    PoolAction Request Input → Option (Pool Shared Section)
  | .arrive request =>
      let arrival := sys.arrive p.shared request
      some ((p.withShared arrival.1).launch arrival.2)
  | .run i input =>
      if hi : i < p.count then
        match p.threads i with
        | [] => none
        | head :: rest => some (p.advance i hi (sys.exec p.shared head input) rest)
      else none

variable {sys} {p p' : Pool Shared Section}

/-- The section that thread `i` runs is the one at its head. -/
theorem head?_of_run {τ : Transition (Pool Shared Section) (PoolAction Request Input)} {i : Nat}
    {input : Input} {head : Section} {rest : List Section} (ha : τ.action = .run i input)
    (hhead : τ.source.threads i = head :: rest) : τ.head? = some head := by
  simp [Transition.head?, ha, hhead]

/-- A step is an arrival or a section run by the thread at whose head it stands. -/
theorem step_cases {a : PoolAction Request Input} (h : sys.step p a = some p') :
    (∃ request, a = .arrive request ∧
      p' = (p.withShared (sys.arrive p.shared request).1).launch
        (sys.arrive p.shared request).2) ∨
    (∃ (i : Nat) (input : Input) (head : Section) (rest : List Section) (hi : i < p.count),
      a = .run i input ∧ p.threads i = head :: rest ∧
        p' = p.advance i hi (sys.exec p.shared head input) rest) := by
  cases a with
  | arrive request =>
      simp only [step, Option.some.injEq] at h
      exact Or.inl ⟨request, rfl, h.symm⟩
  | run i input =>
      simp only [step] at h
      split at h
      · rename_i hi
        split at h
        · contradiction
        · rename_i head rest hhead
          simp only [Option.some.injEq] at h
          exact Or.inr ⟨i, input, head, rest, hi, rfl, hhead, h.symm⟩
      · contradiction

/-- What arrivals and sections keep of the shared state and of the sections still to run,
every step keeps. -/
theorem step_all {P : Shared → Prop} {Q : Section → Prop} {a : PoolAction Request Input}
    (h : sys.step p a = some p') (hp : p.All P Q)
    (harrive : ∀ request, a = .arrive request → P (sys.arrive p.shared request).1 ∧
      ∀ s ∈ (sys.arrive p.shared request).2, Q s)
    (hexec : ∀ i input head rest, a = .run i input → p.threads i = head :: rest → Q head →
      (sys.exec p.shared head input).All P Q) : p'.All P Q := by
  rcases step_cases h with ⟨request, ha, rfl⟩ | ⟨i, input, head, rest, hi, ha, hhead, rfl⟩
  · rcases harrive request ha with ⟨hshared, hprogram⟩
    exact hp.launch hshared hprogram
  · have hmem : head ∈ p.threads i := by
      rw [hhead]
      exact List.mem_cons_self
    exact hp.advance hhead (hexec i input head rest ha hhead (hp.threads i head hmem))

end System

end SctpConformance.Library
