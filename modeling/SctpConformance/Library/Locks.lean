import SctpConformance.Library.Runs
import Mathlib.Logic.Function.Basic
import Mathlib.Logic.Relation
import Mathlib.Data.List.Pairwise

/-!
# Locks taken in rank order

Threads that acquire and release locks.  What a thread does to the locks is
described by a piece of code in which a lock is always held for a block; the
branches that it takes are left open.  If every block is on a lock of higher
rank than the blocks around it, then no thread ever waits for itself, and no
threads wait for each other in a circle.

Main results:

- Definition `LockCode.Ordered`: the rank discipline, on the text of the code.
- Theorem `LockCode.Ordered.follows`: every trace of such code follows it.
- Theorem `lt_of_wants`: in every reachable state a thread that asks for a lock
  holds only locks of lower rank.
- Theorem `not_waitsFor_circle`: no state that can be reached has a circle of
  waiting threads.
-/

namespace SctpConformance.Library

variable {L : Type*}

/-! ## Code -/

/-- What a thread does with one lock. -/
inductive LockAction (L : Type*) where
  | acquire (l : L)
  | release (l : L)
deriving DecidableEq

/-- What a piece of code does to the locks. -/
inductive LockCode (L : Type*) where
  | skip
  | guard (l : L) (body : LockCode L)
  | seq (first second : LockCode L)
  | choice (left right : LockCode L)
  | loop (body : LockCode L)

namespace LockCode

/-- One piece of code after the other. -/
def seqAll : List (LockCode L) → LockCode L
  | [] => skip
  | code :: codes => seq code (seqAll codes)

/-- Code that may return early. -/
def optional (code : LockCode L) : LockCode L :=
  choice skip code

/-- The sequences of acquisitions and releases that a piece of code can make. -/
inductive Trace : LockCode L → List (LockAction L) → Prop
  | skip : Trace skip []
  | guard {l : L} {body : LockCode L} {t : List (LockAction L)} (h : Trace body t) :
      Trace (guard l body) (.acquire l :: (t ++ [.release l]))
  | seq {first second : LockCode L} {t u : List (LockAction L)} (h : Trace first t)
      (h' : Trace second u) : Trace (seq first second) (t ++ u)
  | left {left right : LockCode L} {t : List (LockAction L)} (h : Trace left t) :
      Trace (choice left right) t
  | right {left right : LockCode L} {t : List (LockAction L)} (h : Trace right t) :
      Trace (choice left right) t
  | done {body : LockCode L} : Trace (loop body) []
  | again {body : LockCode L} {t u : List (LockAction L)} (h : Trace body t)
      (h' : Trace (loop body) u) : Trace (loop body) (t ++ u)

variable {rank : L → Nat}

/-- Locks are taken from the rank `r` on, and inside of a block from the rank
above its lock on. -/
def Ordered (rank : L → Nat) : Nat → LockCode L → Prop
  | _, skip => True
  | r, guard l body => r ≤ rank l ∧ Ordered rank (rank l + 1) body
  | r, seq first second => Ordered rank r first ∧ Ordered rank r second
  | r, choice left right => Ordered rank r left ∧ Ordered rank r right
  | r, loop body => Ordered rank r body

@[simp]
theorem ordered_skip (r : Nat) : Ordered rank r skip :=
  trivial

/-- A block is on a lock of the rank allowed, and what it encloses on higher ones. -/
@[simp]
theorem ordered_guard (r : Nat) (l : L) (body : LockCode L) :
    Ordered rank r (guard l body) ↔ r ≤ rank l ∧ Ordered rank (rank l + 1) body :=
  Iff.rfl

@[simp]
theorem ordered_seq (r : Nat) (first second : LockCode L) :
    Ordered rank r (seq first second) ↔ Ordered rank r first ∧ Ordered rank r second :=
  Iff.rfl

@[simp]
theorem ordered_choice (r : Nat) (left right : LockCode L) :
    Ordered rank r (choice left right) ↔ Ordered rank r left ∧ Ordered rank r right :=
  Iff.rfl

@[simp]
theorem ordered_loop (r : Nat) (body : LockCode L) :
    Ordered rank r (loop body) ↔ Ordered rank r body :=
  Iff.rfl

@[simp]
theorem ordered_optional (r : Nat) (code : LockCode L) :
    Ordered rank r (optional code) ↔ Ordered rank r code := by
  simp [optional]

/-- A sequence keeps the discipline exactly if all its parts do. -/
@[simp]
theorem ordered_seqAll (r : Nat) (codes : List (LockCode L)) :
    Ordered rank r (seqAll codes) ↔ ∀ code ∈ codes, Ordered rank r code := by
  induction codes with
  | nil => simp [seqAll]
  | cons code codes ih => simp [seqAll, ih]

/-- Code that takes no lock below the rank `r` takes none below a lower one. -/
theorem Ordered.mono {r r' : Nat} (hle : r' ≤ r) {code : LockCode L}
    (h : Ordered rank r code) : Ordered rank r' code := by
  induction code with
  | skip => trivial
  | guard l body _ => exact ⟨Nat.le_trans hle h.1, h.2⟩
  | seq first second ih ih' => exact ⟨ih h.1, ih' h.2⟩
  | choice left right ih ih' => exact ⟨ih h.1, ih' h.2⟩
  | loop body ih => exact ih h

end LockCode

/-! ## Traces -/

/-- A trace that starts with the given locks held, the last one taken first: every
lock it takes ranks above those held, and it releases the last one taken. -/
def Follows (rank : L → Nat) : List L → List (LockAction L) → Prop
  | held, [] => held = []
  | held, .acquire l :: rest => (∀ l' ∈ held, rank l' < rank l) ∧ Follows rank (l :: held) rest
  | held, .release l :: rest => ∃ held', held = l :: held' ∧ Follows rank held' rest

variable {rank : L → Nat}

/-- What ordered code does can be done before anything else. -/
theorem LockCode.Trace.follows {code : LockCode L} {t : List (LockAction L)}
    (h : code.Trace t) {r : Nat} (hordered : code.Ordered rank r) {held : List L}
    (hbelow : ∀ l ∈ held, rank l < r) {rest : List (LockAction L)}
    (hrest : Follows rank held rest) : Follows rank held (t ++ rest) := by
  induction h generalizing r held rest with
  | skip => exact hrest
  | @guard l body t _ ih =>
      rcases hordered with ⟨hrank, hbody⟩
      refine ⟨fun l' hl' => Nat.lt_of_lt_of_le (hbelow l' hl') hrank, ?_⟩
      have hinner : Follows rank (l :: held) (t ++ (.release l :: rest)) := by
        refine ih hbody ?_ ⟨held, rfl, hrest⟩
        intro l' hl'
        rcases List.mem_cons.mp hl' with rfl | hl'
        · exact Nat.lt_succ_self _
        · exact Nat.lt_succ_of_lt (Nat.lt_of_lt_of_le (hbelow l' hl') hrank)
      simpa using hinner
  | seq _ _ ih ih' =>
      rw [List.append_assoc]
      exact ih hordered.1 hbelow (ih' hordered.2 hbelow hrest)
  | left _ ih => exact ih hordered.1 hbelow hrest
  | right _ ih => exact ih hordered.2 hbelow hrest
  | done => exact hrest
  | again _ _ ih ih' =>
      rw [List.append_assoc]
      exact ih hordered hbelow (ih' hordered hbelow hrest)

/-- Every trace of ordered code follows the ranks. -/
theorem LockCode.Ordered.follows {code : LockCode L} (hordered : code.Ordered rank 0)
    {t : List (LockAction L)} (h : code.Trace t) : Follows rank [] t := by
  have hwhole : Follows rank [] (t ++ []) := h.follows hordered (by simp) rfl
  rwa [List.append_nil] at hwhole

/-! ## Threads -/

/-- Who holds each lock, and what each thread has still to do. -/
structure LockState (L : Type*) where
  holder : L → Option Nat
  todo : Nat → List (LockAction L)

namespace LockState

/-- The next action of a thread is to take the lock. -/
def Wants (s : LockState L) (i : Nat) (l : L) : Prop :=
  ∃ rest, s.todo i = .acquire l :: rest

/-- The thread has the lock. -/
def Holds (s : LockState L) (i : Nat) (l : L) : Prop :=
  s.holder l = some i

/-- One thread asks for a lock that another one has. -/
def WaitsFor (s : LockState L) (i j : Nat) : Prop :=
  ∃ l, s.Wants i l ∧ s.Holds j l

variable [DecidableEq L]

/-- The next action of a thread.  A lock is taken when nobody holds it. -/
def step (s : LockState L) (i : Nat) : Option (LockState L) :=
  match s.todo i with
  | [] => none
  | .acquire l :: rest =>
      if s.holder l = none then
        some {
          holder := Function.update s.holder l (some i)
          todo := Function.update s.todo i rest }
      else none
  | .release l :: rest =>
      if s.holder l = some i then
        some {
          holder := Function.update s.holder l none
          todo := Function.update s.todo i rest }
      else none

end LockState

/-- Nobody holds a lock. -/
def LockState.Idle (s : LockState L) : Prop :=
  ∀ l, s.holder l = none

/-- Every thread follows the ranks from the locks on that it holds. -/
structure InOrder (rank : L → Nat) (s : LockState L) (held : Nat → List L) : Prop where
  follows : ∀ i, Follows rank (held i) (s.todo i)
  sorted : ∀ i, (held i).Pairwise fun l l' => rank l' < rank l
  holds : ∀ i l, s.Holds i l ↔ l ∈ held i

variable {s s' : LockState L} {held : Nat → List L} {i : Nat}

/-- A thread holds a lock once. -/
theorem InOrder.not_mem (h : InOrder rank s held) {l : L} {rest : List L}
    (hheld : held i = l :: rest) : l ∉ rest := by
  have hsorted := h.sorted i
  rw [hheld, List.pairwise_cons] at hsorted
  intro hl
  exact absurd (hsorted.1 l hl) (Nat.lt_irrefl _)

/-- What a step does: a lock that nobody holds is taken, or a lock is given back. -/
theorem LockState.step_cases [DecidableEq L] (h : s.step i = some s') :
    (∃ l rest, s.todo i = .acquire l :: rest ∧ s.holder l = none ∧ s' = {
        holder := Function.update s.holder l (some i)
        todo := Function.update s.todo i rest }) ∨
      ∃ l rest, s.todo i = .release l :: rest ∧ s.holder l = some i ∧ s' = {
        holder := Function.update s.holder l none
        todo := Function.update s.todo i rest } := by
  unfold LockState.step at h
  split at h
  · contradiction
  · rename_i l rest htodo
    split at h
    · rename_i hfree
      exact Or.inl ⟨l, rest, htodo, hfree, (Option.some.inj h).symm⟩
    · contradiction
  · rename_i l rest htodo
    split at h
    · rename_i hown
      exact Or.inr ⟨l, rest, htodo, hown, (Option.some.inj h).symm⟩
    · contradiction

/-- All threads are in order. -/
def Disciplined (rank : L → Nat) (s : LockState L) : Prop :=
  ∃ held, InOrder rank s held

/-- A lock is acquired that nobody holds. -/
theorem InOrder.acquire [DecidableEq L] (h : InOrder rank s held) {l : L}
    {rest : List (LockAction L)} (htodo : s.todo i = .acquire l :: rest) (hfree : s.holder l = none) :
    InOrder rank {
        holder := Function.update s.holder l (some i)
        todo := Function.update s.todo i rest } (Function.update held i (l :: held i)) := by
  have hfollows := h.follows i
  rw [htodo] at hfollows
  have hnobody : ∀ j, l ∉ held j := by
    intro j hmem
    have hholder : s.holder l = some j := (h.holds j l).mpr hmem
    rw [hfree] at hholder
    contradiction
  refine ⟨?_, ?_, ?_⟩
  · intro j
    by_cases hj : j = i
    · subst hj
      simpa using hfollows.2
    · simpa [hj] using h.follows j
  · intro j
    by_cases hj : j = i
    · subst hj
      simpa using And.intro hfollows.1 (h.sorted j)
    · simpa [hj] using h.sorted j
  · intro j m
    by_cases hj : j = i
    · subst hj
      by_cases hm : m = l
      · subst hm
        simp [LockState.Holds]
      · simpa [LockState.Holds, hm] using h.holds j m
    · by_cases hm : m = l
      · subst hm
        have hother : i ≠ j := fun hi => hj hi.symm
        simp [LockState.Holds, hj, hother, hnobody j]
      · simpa [LockState.Holds, hj, hm] using h.holds j m

/-- The lock is released that was acquired last. -/
theorem InOrder.release [DecidableEq L] (h : InOrder rank s held) {l : L}
    {rest : List (LockAction L)} (hown : s.holder l = some i) {held' : List L}
    (hheld : held i = l :: held') (hrest : Follows rank held' rest) :
    InOrder rank {
        holder := Function.update s.holder l none
        todo := Function.update s.todo i rest } (Function.update held i held') := by
  have hlast := h.not_mem hheld
  refine ⟨?_, ?_, ?_⟩
  · intro j
    by_cases hj : j = i
    · subst hj
      simpa using hrest
    · simpa [hj] using h.follows j
  · intro j
    by_cases hj : j = i
    · subst hj
      have hsorted := h.sorted j
      rw [hheld, List.pairwise_cons] at hsorted
      simpa using hsorted.2
    · simpa [hj] using h.sorted j
  · intro j m
    by_cases hj : j = i
    · subst hj
      by_cases hm : m = l
      · subst hm
        simp [LockState.Holds, hlast]
      · have hsame := h.holds j m
        rw [hheld] at hsame
        simpa [LockState.Holds, hm] using hsame
    · by_cases hm : m = l
      · subst hm
        have hnot : m ∉ held j := by
          intro hmem
          have hholder : s.holder m = some j := (h.holds j m).mpr hmem
          rw [hown] at hholder
          exact hj (Option.some.inj hholder).symm
        simp [LockState.Holds, hj, hnot]
      · simpa [LockState.Holds, hj, hm] using h.holds j m

/-- A step keeps the threads in order. -/
theorem InOrder.step [DecidableEq L] (h : InOrder rank s held) (hstep : s.step i = some s') :
    Disciplined rank s' := by
  rcases LockState.step_cases hstep with
    ⟨l, rest, htodo, hfree, rfl⟩ | ⟨l, rest, htodo, hown, rfl⟩
  · exact ⟨_, h.acquire htodo hfree⟩
  · have hfollows := h.follows i
    rw [htodo] at hfollows
    rcases hfollows with ⟨held', hheld, hrest⟩
    exact ⟨_, h.release hown hheld hrest⟩

/-! ## Reachable states -/

section

variable [DecidableEq L] {start last : LockState L}
  {run : List (Transition (LockState L) Nat)}

/-- Every run from an idle state keeps the discipline. -/
theorem disciplined_run (hidle : start.Idle) (htodo : ∀ i, Follows rank [] (start.todo i))
    (hrun : Run LockState.step start run last) : Disciplined rank last := by
  have hstart : Disciplined rank start := by
    refine ⟨fun _ => [], htodo, fun _ => List.Pairwise.nil, ?_⟩
    intro i l
    simp [LockState.Holds, hidle l]
  have hkeep : ∀ τ ∈ run, Disciplined rank τ.source → Disciplined rank τ.target := by
    rintro τ hτ ⟨held, hheld⟩
    exact hheld.step (hrun.enabled hτ)
  exact hrun.preserve hkeep hstart

/-- A thread that asks for a lock holds only locks of lower rank. -/
theorem lt_of_wants (hidle : start.Idle) (htodo : ∀ i, Follows rank [] (start.todo i))
    (hrun : Run LockState.step start run last) {l l' : L} (hwants : last.Wants i l)
    (hholds : last.Holds i l') : rank l' < rank l := by
  rcases disciplined_run hidle htodo hrun with ⟨held, hheld⟩
  rcases hwants with ⟨rest, hnext⟩
  have hfollows := hheld.follows i
  rw [hnext] at hfollows
  exact hfollows.1 l' ((hheld.holds i l').mp hholds)

/-- Along a chain of waiting threads the ranks of the locks they wait for rise. -/
theorem rank_le_of_waits (hidle : start.Idle) (htodo : ∀ i, Follows rank [] (start.todo i))
    (hrun : Run LockState.step start run last) {j : Nat}
    (hwaits : Relation.TransGen last.WaitsFor i j) :
    ∃ l l', last.Wants i l ∧ last.Holds j l' ∧ rank l ≤ rank l' := by
  induction hwaits with
  | single hone =>
      rcases hone with ⟨l, hwants, hholds⟩
      exact ⟨l, l, hwants, hholds, Nat.le_refl _⟩
  | tail _ hone ih =>
      rcases ih with ⟨l, l', hwants, hholds, hrank⟩
      rcases hone with ⟨m, hwants', hholds'⟩
      have hrise := lt_of_wants hidle htodo hrun hwants' hholds
      exact ⟨l, m, hwants, hholds', Nat.le_trans hrank (Nat.le_of_lt hrise)⟩

/-- There is no circle of waiting threads. -/
theorem not_waitsFor_circle (hidle : start.Idle) (htodo : ∀ i, Follows rank [] (start.todo i))
    (hrun : Run LockState.step start run last) (i : Nat) :
    ¬Relation.TransGen last.WaitsFor i i := by
  intro hcircle
  rcases rank_le_of_waits hidle htodo hrun hcircle with ⟨l, l', hwants, hholds, hrank⟩
  exact absurd (lt_of_wants hidle htodo hrun hwants hholds) (Nat.not_lt.mpr hrank)

end

end SctpConformance.Library
