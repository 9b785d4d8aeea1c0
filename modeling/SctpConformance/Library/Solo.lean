import SctpConformance.Library.Interleaving
import Mathlib.Logic.Function.Basic

/-!
# A thread that runs alone

While one thread runs section after section and no other does, the pool behaves as a
sequential program: the sections are executed on the shared state, and what they launch
waits.  Such a stretch is described without the pool, and then found in it.

What an observer sees of a section is a parameter.

Main results:

- Theorem `Solo.trans` and `Solo.seq`: stretches compose.
- Theorem `Solo.exists_run`: a stretch is a run of every pool in which the thread stands.
- Theorems `Pool.Stands.goOn` and `Pool.Stands.arrive`: what becomes of a pool in which all
  threads wait when one of them goes on, or when a new one runs to its end.
-/

namespace SctpConformance.Library

variable {Shared Section Request Input Seen : Type*}

/-- From the state `σ` a thread with the first program goes on alone to the state `τ` and
the second program.  It shows `seen` on the way and launches the threads `launched`. -/
inductive Solo (sys : System Shared Section Request Input) (observe : Section → Option Seen) :
    Shared → List Section → List Seen → Shared → List Section → List (List Section) → Prop
  | stop (σ : Shared) (program : List Section) : Solo sys observe σ program [] σ program []
  | run {σ τ : Shared} {s : Section} {program rest : List Section} {seen : List Seen}
      {launched : List (List Section)} (input : Input)
      (back : Solo sys observe (sys.exec σ s input).shared
        ((sys.exec σ s input).next ++ program) seen τ rest launched) :
      Solo sys observe σ (s :: program) ((observe s).toList ++ seen) τ rest
        ((sys.exec σ s input).launch.toList ++ launched)

namespace Solo

variable {sys : System Shared Section Request Input} {observe : Section → Option Seen}
variable {σ τ υ : Shared} {s : Section} {program program' rest rest' : List Section}
variable {seen seen' : List Seen} {launched launched' : List (List Section)}

/-- Stretches of one thread compose. -/
theorem trans (h : Solo sys observe σ program seen τ rest launched)
    (h' : Solo sys observe τ rest seen' υ rest' launched') :
    Solo sys observe σ program (seen ++ seen') υ rest' (launched ++ launched') := by
  induction h with
  | stop => simpa using h'
  | run input back ih =>
      rw [List.append_assoc, List.append_assoc]
      exact .run input (ih h')

/-- What stands behind a program stays behind it. -/
theorem frame (h : Solo sys observe σ program seen τ rest launched) (back : List Section) :
    Solo sys observe σ (program ++ back) seen τ (rest ++ back) launched := by
  induction h with
  | stop => exact .stop _ _
  | run input front ih =>
      rw [List.append_assoc] at ih
      exact .run input ih

/-- One program after the other. -/
theorem seq (h : Solo sys observe σ program seen τ [] launched)
    (h' : Solo sys observe τ program' seen' υ rest' launched') :
    Solo sys observe σ (program ++ program') (seen ++ seen') υ rest' (launched ++ launched') :=
  (h.frame program').trans h'

/-- A section that is not seen and goes on with other sections. -/
theorem section_launch (input : Input) (shared : Shared) (next : List Section)
    {launch : Option (List Section)}
    (hexec : sys.exec σ s input = { shared := shared, next := next, launch := launch })
    (hseen : observe s = none) (h : Solo sys observe shared next seen τ rest launched) :
    Solo sys observe σ [s] seen τ rest (launch.toList ++ launched) := by
  have hstep : Solo sys observe σ [s] ((observe s).toList ++ seen) τ rest
      ((sys.exec σ s input).launch.toList ++ launched) := by
    refine .run input ?_
    rw [hexec, List.append_nil]
    exact h
  rw [hexec, hseen] at hstep
  exact hstep

/-- The same when nothing is launched. -/
theorem section_next (input : Input) (shared : Shared) (next : List Section)
    (hexec : sys.exec σ s input = { shared := shared, next := next }) (hseen : observe s = none)
    (h : Solo sys observe shared next seen τ rest launched) :
    Solo sys observe σ [s] seen τ rest launched :=
  section_launch input shared next hexec hseen h

/-- A section that only changes the shared state. -/
theorem section_done (input : Input) {shared : Shared}
    (hexec : sys.exec σ s input = { shared := shared }) :
    Solo sys observe σ [s] (observe s).toList shared [] [] := by
  have hstep : Solo sys observe σ [s] ((observe s).toList ++ []) shared []
      ((sys.exec σ s input).launch.toList ++ []) := by
    refine .run input ?_
    rw [hexec]
    exact .stop shared []
  rw [hexec] at hstep
  simpa using hstep

end Solo

/-- Between the pools `p` and `p'` only thread `i` has run; it has `rest` still to run, and
the threads `launched` are new. -/
structure Pool.OnlyRan (p : Pool Shared Section) (i : Nat) (rest : List Section)
    (launched : List (List Section)) (p' : Pool Shared Section) : Prop where
  count : p'.count = p.count + launched.length
  self : p'.threads i = rest
  others : ∀ j < p.count, j ≠ i → p'.threads j = p.threads j
  launched : ∀ k, p'.threads (p.count + k) = launched.getD k []

namespace Pool

variable {p p' : Pool Shared Section} {i : Nat} {rest : List Section}

theorem count_advance (p : Pool Shared Section) (i : Nat) (hi : i < p.count)
    (e : Effect Shared Section) (rest : List Section) :
    (p.advance i hi e rest).count = p.count + e.launch.toList.length := by
  unfold advance
  cases e.launch <;> rfl

/-- A section is run, and then the thread goes on. -/
theorem OnlyRan.advance {hi : i < p.count} {e : Effect Shared Section}
    {program : List Section} {launched : List (List Section)}
    (h : (p.advance i hi e program).OnlyRan i rest launched p') :
    p.OnlyRan i rest (e.launch.toList ++ launched) p' where
  count := by
    rw [h.count, count_advance, List.length_append, Nat.add_assoc]
  self := h.self
  others j hj hji := by
    have hlt : j < (p.advance i hi e program).count :=
      Nat.lt_of_lt_of_le hj (count_le_advance p i hi e program)
    rw [h.others j hlt hji, threads_advance_of_ne p i hi e program hji hj]
  launched k := by
    cases hlaunch : e.launch with
    | none =>
        have hcount : (p.advance i hi e program).count = p.count := by
          rw [count_advance, hlaunch]
          rfl
        rw [← hcount]
        exact h.launched k
    | some first =>
        have hcount : (p.advance i hi e program).count = p.count + 1 := by
          rw [count_advance, hlaunch]
          rfl
        cases k with
        | zero =>
            have hlt : p.count < (p.advance i hi e program).count := by omega
            rw [Nat.add_zero, h.others p.count hlt (by omega), threads_advance_count, hlaunch]
            rfl
        | succ k =>
            have hnew := h.launched k
            rw [hcount] at hnew
            rw [show p.count + (k + 1) = p.count + 1 + k by omega]
            exact hnew

end Pool

/-- A thread that can go on alone does so in every pool in which it stands. -/
theorem Solo.exists_run {sys : System Shared Section Request Input}
    {observe : Section → Option Seen} {σ τ : Shared} {program rest : List Section}
    {seen : List Seen} {launched : List (List Section)}
    (h : Solo sys observe σ program seen τ rest launched) {p : Pool Shared Section} {i : Nat}
    (hi : i < p.count) (hshared : p.shared = σ) (hthread : p.threads i = program) :
    ∃ (run : List (Transition (Pool Shared Section) (PoolAction Request Input)))
      (p' : Pool Shared Section), Run sys.step p run p' ∧ p'.shared = τ ∧
        p.OnlyRan i rest launched p' ∧
        run.filterMap (fun t => t.head?.bind observe) = seen := by
  induction h generalizing p with
  | stop σ program =>
      refine ⟨[], p, .nil p, hshared, ⟨rfl, hthread, fun _ _ _ => rfl, fun k => ?_⟩, rfl⟩
      rw [p.idle (p.count + k) (Nat.le_add_right _ _)]
      rfl
  | @run σ τ s program rest seen launched input back ih =>
      have hself := p.threads_advance_self i hi (sys.exec p.shared s input) program
      rw [← hshared] at ih ⊢
      rcases @ih (p.advance i hi (sys.exec p.shared s input) program)
          (Nat.lt_of_lt_of_le hi (p.count_le_advance i hi _ program)) (p.shared_advance i hi _ _)
          hself with
        ⟨run, p', hrun, hlast, honly, hseen⟩
      have hstep : sys.step p (.run i input) =
          some (p.advance i hi (sys.exec p.shared s input) program) := by
        simp [System.step, hi, hthread]
      have hhead : (⟨p, .run i input, p.advance i hi (sys.exec p.shared s input) program⟩ :
          Transition (Pool Shared Section) (PoolAction Request Input)).head? = some s :=
        System.head?_of_run rfl hthread
      refine ⟨_, p', (Run.snoc (.nil p) hstep).append hrun, hlast, honly.advance, ?_⟩
      rw [List.nil_append, List.singleton_append, List.filterMap_cons, hhead, hseen,
        Option.bind_some]
      cases observe s <;> rfl

/-! ## Pools of waiting threads -/

/-- The shared state is `σ`, and the threads that still run are those of the keys that wait,
each with one section. -/
structure Pool.Stands {Key : Type*} (σ : Shared) (waiting : Key → Option Section)
    (place : Key → Nat) (p : Pool Shared Section) : Prop where
  shared : p.shared = σ
  waits : ∀ x s, waiting x = some s → place x < p.count ∧ p.threads (place x) = [s]
  idle : ∀ i, p.threads i ≠ [] → ∃ x, waiting x ≠ none ∧ place x = i
  apart : ∀ x y, waiting x ≠ none → waiting y ≠ none → place x = place y → x = y

namespace Pool.Stands

variable {Key : Type*} {sys : System Shared Section Request Input} {observe : Section → Option Seen}
variable {σ τ : Shared} {waiting : Key → Option Section} {place : Key → Nat}
variable {p : Pool Shared Section} {x : Key} {s : Section} {seen : List Seen}

/-- A new thread arrives, launches others, and runs to its end. -/
theorem exists_arrival (h : p.Stands σ waiting place) {request : Request}
    {launched : List (List Section)}
    (hsolo : Solo sys observe (sys.arrive σ request).1 (sys.arrive σ request).2 seen τ []
      launched) :
    ∃ (run : List (Transition (Pool Shared Section) (PoolAction Request Input)))
      (p' : Pool Shared Section), Run sys.step p run p' ∧
        run.filterMap (fun t => t.head?.bind observe) = seen ∧ p'.shared = τ ∧
        p'.count = p.count + 1 + launched.length ∧
        (∀ j < p.count, p'.threads j = p.threads j) ∧ p'.threads p.count = [] ∧
        ∀ k, p'.threads (p.count + 1 + k) = launched.getD k [] := by
  rw [← h.shared] at hsolo
  have hcount : ((p.withShared (sys.arrive p.shared request).1).launch
      (sys.arrive p.shared request).2).count = p.count + 1 := rfl
  have hthread : ((p.withShared (sys.arrive p.shared request).1).launch
      (sys.arrive p.shared request).2).threads p.count = (sys.arrive p.shared request).2 :=
    threads_launch_count
  rcases hsolo.exists_run (by omega) rfl hthread with ⟨run, p', hrun, hlast, honly, hseen⟩
  have harrive : sys.step p (.arrive request) = some ((p.withShared
      (sys.arrive p.shared request).1).launch (sys.arrive p.shared request).2) := rfl
  refine ⟨_, p', (Run.snoc (.nil p) harrive).append hrun, ?_, hlast, ?_, ?_, honly.self, ?_⟩
  · rw [List.nil_append, List.singleton_append, List.filterMap_cons, hseen]
    rfl
  · rw [honly.count, hcount]
  · intro j hj
    rw [honly.others j (by omega) (by omega)]
    exact threads_launch_of_lt hj
  · intro k
    rw [← hcount]
    exact honly.launched k

/-- A new thread arrives and runs to its end. -/
theorem arrive (h : p.Stands σ waiting place) (request : Request)
    (hsolo : Solo sys observe (sys.arrive σ request).1 (sys.arrive σ request).2 seen τ [] []) :
    ∃ (run : List (Transition (Pool Shared Section) (PoolAction Request Input)))
      (p' : Pool Shared Section), Run sys.step p run p' ∧
        run.filterMap (fun t => t.head?.bind observe) = seen ∧ p'.Stands τ waiting place := by
  rcases h.exists_arrival hsolo with
    ⟨run, p', hrun, hseen, hshared, hcount, hothers, hself, -⟩
  rw [List.length_nil, Nat.add_zero] at hcount
  refine ⟨run, p', hrun, hseen, hshared, ?_, ?_, h.apart⟩
  · intro y t hy
    rcases h.waits y t hy with ⟨hlt, hthread⟩
    rw [hothers _ hlt]
    exact ⟨by omega, hthread⟩
  · intro i hi
    by_cases hlt : i < p.count
    · rw [hothers i hlt] at hi
      exact h.idle i hi
    · by_cases hnew : i = p.count
      · rw [hnew] at hi
        exact absurd hself hi
      · exact absurd (p'.idle i (by omega)) hi

variable [DecidableEq Key]

/-- A thread that waits goes on alone, up to its next section or to its end. -/
theorem goOn (h : p.Stands σ waiting place) {next : Option Section} (hx : waiting x = some s)
    (hsolo : Solo sys observe σ [s] seen τ next.toList []) :
    ∃ (run : List (Transition (Pool Shared Section) (PoolAction Request Input)))
      (p' : Pool Shared Section), Run sys.step p run p' ∧
        run.filterMap (fun t => t.head?.bind observe) = seen ∧
        p'.Stands τ (Function.update waiting x next) place := by
  rcases h.waits x s hx with ⟨hlt, hthread⟩
  rcases hsolo.exists_run hlt h.shared hthread with ⟨run, p', hrun, hlast, honly, hseen⟩
  have hcount : p'.count = p.count := honly.count
  have hne : ∀ y, y ≠ x → waiting y ≠ none → place y ≠ place x := by
    intro y hy hwaiting hplace
    exact hy (h.apart y x hwaiting (by simp [hx]) hplace)
  refine ⟨run, p', hrun, hseen, hlast, ?_, ?_, ?_⟩
  · intro y t hy
    by_cases hyx : y = x
    · subst hyx
      rw [Function.update_self] at hy
      rw [hcount, honly.self, hy]
      exact ⟨hlt, rfl⟩
    · rw [Function.update_of_ne hyx] at hy
      rcases h.waits y t hy with ⟨hylt, hythread⟩
      rw [hcount, honly.others _ hylt (hne y hyx (by simp [hy]))]
      exact ⟨hylt, hythread⟩
  · intro i hi
    by_cases hix : i = place x
    · subst hix
      rw [honly.self] at hi
      refine ⟨x, ?_, rfl⟩
      rw [Function.update_self]
      rintro rfl
      exact hi rfl
    · have hilt : i < p.count := by
        by_contra hge
        exact hi (p'.idle i (by omega))
      rw [honly.others i hilt hix] at hi
      rcases h.idle i hi with ⟨y, hy, rfl⟩
      refine ⟨y, ?_, rfl⟩
      rwa [Function.update_of_ne fun hyx => hix (by rw [hyx])]
  · intro y z hy hz hyz
    have hkept : ∀ y, Function.update waiting x next y ≠ none → waiting y ≠ none := by
      intro y hy
      by_cases hyx : y = x
      · simp [hyx, hx]
      · rwa [Function.update_of_ne hyx] at hy
    exact h.apart y z (hkept y hy) (hkept z hz) hyz

/-- A new thread arrives, launches one that waits, and runs to its end. -/
theorem arrive_launch (h : p.Stands σ waiting place) (request : Request) (hx : waiting x = none)
    (hsolo : Solo sys observe (sys.arrive σ request).1 (sys.arrive σ request).2 seen τ [] [[s]]) :
    ∃ (run : List (Transition (Pool Shared Section) (PoolAction Request Input)))
      (p' : Pool Shared Section), Run sys.step p run p' ∧
        run.filterMap (fun t => t.head?.bind observe) = seen ∧
        p'.Stands τ (Function.update waiting x (some s))
          (Function.update place x (p.count + 1)) := by
  rcases h.exists_arrival hsolo with
    ⟨run, p', hrun, hseen, hshared, hcount, hothers, hself, hlaunched⟩
  rw [List.length_singleton] at hcount
  have hplaced : ∀ y, waiting y ≠ none → place y < p.count := by
    intro y hy
    rcases Option.ne_none_iff_exists'.mp hy with ⟨t, ht⟩
    exact (h.waits y t ht).1
  refine ⟨run, p', hrun, hseen, hshared, ?_, ?_, ?_⟩
  · intro y t hy
    by_cases hyx : y = x
    · subst hyx
      rw [Function.update_self] at hy ⊢
      cases hy
      exact ⟨by omega, hlaunched 0⟩
    · rw [Function.update_of_ne hyx] at hy ⊢
      rcases h.waits y t hy with ⟨hlt, hthread⟩
      rw [hothers _ hlt]
      exact ⟨by omega, hthread⟩
  · intro i hi
    by_cases hlt : i < p.count
    · rw [hothers i hlt] at hi
      rcases h.idle i hi with ⟨y, hy, rfl⟩
      have hyx : y ≠ x := by
        rintro rfl
        exact hy hx
      exact ⟨y, by rwa [Function.update_of_ne hyx], Function.update_of_ne hyx ..⟩
    · by_cases hnew : i = p.count
      · rw [hnew] at hi
        exact absurd hself hi
      · by_cases hlast : i = p.count + 1
        · exact ⟨x, by simp, by rw [Function.update_self, hlast]⟩
        · exact absurd (p'.idle i (by omega)) hi
  · intro y z hy hz hyz
    by_cases hyx : y = x
    · by_cases hzx : z = x
      · rw [hyx, hzx]
      · rw [hyx, Function.update_self, Function.update_of_ne hzx] at hyz
        rw [Function.update_of_ne hzx] at hz
        have := hplaced z hz
        omega
    · rw [Function.update_of_ne hyx] at hy hyz
      by_cases hzx : z = x
      · rw [hzx, Function.update_self] at hyz
        have := hplaced y hy
        omega
      · rw [Function.update_of_ne hzx] at hz hyz
        exact h.apart y z hy hz hyz

end Pool.Stands

end SctpConformance.Library
