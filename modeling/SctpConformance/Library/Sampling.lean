import SctpConformance.Library.Runs
import Mathlib.Data.List.Chain
import Mathlib.Data.List.Destutter
import Mathlib.Data.List.Sort

/-!
# Sampling

An observer reads a value of the state of a system from time to time and hands it over
later.  The course of the value is compared with what has been handed over by the end of
a run.

Main results:

- Theorem `map_range_sublist_iff`: samples of a sequence contain all of it if and only if
  each of its members has been sampled.
- Theorem `sublist_map_destutter_iff`: dropping repeated texts hides no course.
- Theorem `course_sublist_handed_iff`: an observer shows the whole course if and only if it
  reads the value after each number of changes and hands it over.
-/

namespace SctpConformance.Library

/-! ## Samples of a sequence -/

section Lists

variable {α β : Type*}

/-- Numbers below a bound that increase from one to the next, as many as there are. -/
theorem mem_of_isChain_lt {ks : List Nat} (hlt : ks.IsChain (· < ·))
    (hks : ∀ k ∈ ks, k < ks.length) {k : Nat} (hk : k < ks.length) : k ∈ ks := by
  have hnodup : ks.Nodup := (List.isChain_iff_pairwise.mp hlt).imp Nat.ne_of_lt
  have hsubset : ks ⊆ List.range ks.length := fun n hn => List.mem_range.mpr (hks n hn)
  have hperm : ks.Perm (List.range ks.length) :=
    (List.subperm_of_subset hnodup hsubset).perm_of_length_le (by rw [List.length_range])
  exact hperm.mem_iff.mpr (List.mem_range.mpr hk)

/-- Samples that are taken in order contain a sequence whose neighbours differ if and only
if each of its members has been sampled. -/
theorem map_range_sublist_iff {f : Nat → β} {n : Nat} (hf : ∀ k, k + 1 < n → f k ≠ f (k + 1))
    {ks : List Nat} (hsorted : ks.Pairwise (· ≤ ·)) (hks : ∀ k ∈ ks, k < n) :
    ((List.range n).map f).Sublist (ks.map f) ↔ ∀ k < n, k ∈ ks := by
  constructor
  · intro h k hk
    rcases List.sublist_map_iff.mp h with ⟨chosen, hchosen, hmap⟩
    have hlength : chosen.length = n := by
      have := congrArg List.length hmap
      rwa [List.length_map, List.length_map, List.length_range, eq_comm] at this
    have hvalue : ∀ j, (hj : j < chosen.length) → f chosen[j] = f j := by
      intro j hj
      have := congrArg (fun values => values[j]?) hmap
      simpa [hj, hlength ▸ hj] using this.symm
    -- Neighbours that were one sample would have one value.
    have hlt : chosen.IsChain (· < ·) := by
      have hle := List.isChain_iff_pairwise.mpr (hsorted.sublist hchosen)
      rw [List.isChain_iff_getElem] at hle ⊢
      intro j hj
      refine lt_of_le_of_ne (hle j hj) fun heq => hf j (hlength ▸ hj) ?_
      rw [← hvalue j (by omega), ← hvalue (j + 1) hj, heq]
    have hbound : ∀ m ∈ chosen, m < chosen.length := by
      intro m hm
      rw [hlength]
      exact hks m (hchosen.subset hm)
    exact hchosen.subset (mem_of_isChain_lt hlt hbound (hlength ▸ hk))
  · intro hall
    have hsubset : List.range n ⊆ ks := fun k hk => hall k (List.mem_range.mp hk)
    have hsublist := List.sublist_of_subperm_of_pairwise
      (List.subperm_of_subset List.nodup_range hsubset) List.pairwise_le_range hsorted
    exact hsublist.map f

/-- A repetition adds nothing to what a sequence without repetitions can be chosen from. -/
theorem sublist_cons_cons_iff {chain : List β} (hchain : chain.IsChain (· ≠ ·)) (b : β)
    (values : List β) : chain.Sublist (b :: b :: values) ↔ chain.Sublist (b :: values) := by
  constructor
  · intro h
    rcases List.sublist_cons_iff.mp h with h | ⟨rest, rfl, hrest⟩
    · exact h
    · rcases List.sublist_cons_iff.mp hrest with hrest | ⟨rest, rfl, -⟩
      · exact hrest.cons_cons b
      · exact absurd rfl (List.isChain_cons_cons.mp hchain).1
  · exact fun h => h.trans (List.sublist_cons_self b _)

/-- The first text is kept. -/
theorem destutter'_eq_cons_tail [DecidableEq α] (first : α) (texts : List α) :
    texts.destutter' (· ≠ ·) first = first :: (texts.destutter' (· ≠ ·) first).tail := by
  induction texts with
  | nil => rfl
  | cons text texts ih =>
      by_cases h : first ≠ text
      · rw [List.destutter'_cons_pos _ h, List.tail_cons]
      · rw [List.destutter'_cons_neg _ h]
        exact ih

/-- If the values are those of texts, no value is lost with the texts that repeat the ones
before them. -/
theorem sublist_map_destutter_iff [DecidableEq α] (f : α → β) {chain : List β}
    (hchain : chain.IsChain (· ≠ ·)) (texts : List α) :
    chain.Sublist ((texts.destutter (· ≠ ·)).map f) ↔ chain.Sublist (texts.map f) := by
  cases texts with
  | nil => rfl
  | cons first texts =>
      rw [List.destutter_cons']
      induction texts generalizing first chain with
      | nil => rfl
      | cons text texts ih =>
          by_cases h : first ≠ text
          · rw [List.destutter'_cons_pos _ h, List.map_cons, List.map_cons, List.sublist_cons_iff,
              List.sublist_cons_iff, ih hchain]
            refine or_congr_right (exists_congr fun rest => and_congr_right fun hrest => ?_)
            exact ih (hrest ▸ hchain).tail text
          · rw [List.destutter'_cons_neg _ h, ih hchain, not_not.mp h, List.map_cons,
              List.map_cons, List.map_cons, sublist_cons_cons_iff hchain]

end Lists

/-! ## The course of a value -/

variable {State Action β : Type*} [DecidableEq β] (value : State → β)

/-- How often the value changes in a run. -/
def changeCount (run : List (Transition State Action)) : Nat :=
  run.countP fun τ => value τ.source ≠ value τ.target

/-- The values from a state on, without repetitions. -/
def course (s : State) (run : List (Transition State Action)) : List β :=
  value s :: (run.filter fun τ => value τ.source ≠ value τ.target).map fun τ => value τ.target

variable {value} {step : State → Action → Option State} {s t : State}
variable {run front back : List (Transition State Action)}

/-- The changes of two runs, one after the other, add up. -/
theorem changeCount_append : changeCount value (front ++ back) =
    changeCount value front + changeCount value back :=
  List.countP_append

variable (value) in
/-- A course has one value more than there have been changes. -/
theorem length_course (s : State) (run : List (Transition State Action)) :
    (course value s run).length = changeCount value run + 1 := by
  rw [course, List.length_cons, List.length_map, changeCount, List.countP_eq_length_filter]

/-- A second run adds the values that it brings. -/
theorem course_append : course value s (front ++ back) = course value s front ++
    (back.filter fun τ => value τ.source ≠ value τ.target).map fun τ => value τ.target := by
  rw [course, course, List.filter_append, List.map_append, List.cons_append]

/-- A step that leaves the value alone adds nothing to the course. -/
theorem course_concat_of_eq {τ : Transition State Action} (h : value τ.source = value τ.target) :
    course value s (run ++ [τ]) = course value s run := by
  rw [course_append, List.filter_singleton]
  simp [h]

/-- A step that changes the value adds the new one. -/
theorem course_concat_of_ne {τ : Transition State Action} (h : value τ.source ≠ value τ.target) :
    course value s (run ++ [τ]) = course value s run ++ [value τ.target] := by
  rw [course_append, List.filter_singleton]
  simp [h]

variable (value) in
/-- The course ends with the value at the end of the run. -/
theorem getLast?_course (h : Run step s run t) : (course value s run).getLast? = some (value t) := by
  induction h with
  | nil => rfl
  | @snoc t u run a front last ih =>
      by_cases hchange : value t = value u
      · rw [course_concat_of_eq hchange, ih, hchange]
      · rw [course_concat_of_ne hchange, List.getLast?_concat]

variable (value) in
/-- Neighbours in the course differ. -/
theorem isChain_course (h : Run step s run t) : (course value s run).IsChain (· ≠ ·) := by
  induction h with
  | nil => exact List.isChain_singleton _
  | @snoc t u run a front last ih =>
      by_cases hchange : value t = value u
      · rwa [course_concat_of_eq hchange]
      · rw [course_concat_of_ne hchange, List.isChain_append]
        refine ⟨ih, List.isChain_singleton _, ?_⟩
        intro v hv w hw
        rw [getLast?_course value front] at hv
        cases hv
        cases hw
        exact hchange

/-- The value that a run has reached is found in the course of every longer run. -/
theorem course_at (h : Run step s front t) (back : List (Transition State Action)) :
    (course value s (front ++ back))[changeCount value front]? = some (value t) := by
  have hlength : changeCount value front < (course value s front).length := by
    rw [length_course]
    exact Nat.lt_succ_self _
  have hlast := getLast?_course value h
  rw [List.getLast?_eq_getElem?, length_course, Nat.add_sub_cancel] at hlast
  rw [course_append, List.getElem?_append_left hlength, hlast]

/-! ## Observers -/

/-- What an observer has read since it last handed something over, and what it has handed
over; each reading with the number of changes before it. -/
structure Observer (β : Type*) where
  count : Nat := 0
  pending : List (Nat × β) := []
  handed : List (Nat × β) := []

variable (value) (reads writes : Transition State Action → Bool)

/-- What was pending is handed over, then the value is read. -/
def Observer.see (o : Observer β) (τ : Transition State Action) : Observer β where
  count := o.count + if value τ.source = value τ.target then 0 else 1
  pending :=
    (if writes τ then [] else o.pending) ++ if reads τ then [(o.count, value τ.source)] else []
  handed := if writes τ then o.handed ++ o.pending else o.handed

/-- The observer at the end of a run. -/
def observed (run : List (Transition State Action)) : Observer β :=
  run.foldl (Observer.see value reads writes) {}

variable {value reads writes}

/-- The observer sees one step after the other. -/
theorem observed_concat (run : List (Transition State Action)) (τ : Transition State Action) :
    observed value reads writes (run ++ [τ]) =
      (observed value reads writes run).see value reads writes τ :=
  List.foldl_concat ..

/-- Whatever is handed over, only a reading adds to what has been read. -/
theorem Observer.handed_append_pending_see (o : Observer β) (τ : Transition State Action) :
    (o.see value reads writes τ).handed ++ (o.see value reads writes τ).pending =
      o.handed ++ o.pending ++ if reads τ then [(o.count, value τ.source)] else [] := by
  unfold see
  cases writes τ with
  | true => simp
  | false => simp

/-- The observer counts the changes. -/
theorem count_observed (run : List (Transition State Action)) :
    (observed value reads writes run).count = changeCount value run := by
  induction run using List.reverseRecOn with
  | nil => rfl
  | append_singleton run τ ih =>
      rw [observed_concat, Observer.see, ih, changeCount_append]
      by_cases h : value τ.source = value τ.target
      · simp [changeCount, h]
      · simp [changeCount, h]

variable (value reads writes) in
/-- What is read is in the course. -/
theorem observed_at (h : Run step s run t) :
    ∀ sample ∈ (observed value reads writes run).handed ++ (observed value reads writes run).pending,
      (course value s run)[sample.1]? = some sample.2 := by
  induction h with
  | nil => exact fun _ h => nomatch h
  | @snoc t u run a front last ih =>
      intro sample hsample
      rw [observed_concat, Observer.handed_append_pending_see, count_observed] at hsample
      rcases List.mem_append.mp hsample with hold | hnew
      · have hat := ih sample hold
        rw [course_append, List.getElem?_append_left (List.getElem?_eq_some_iff.mp hat).1]
        exact hat
      · split at hnew
        · rw [List.mem_singleton.mp hnew]
          exact course_at front _
        · contradiction

variable (value reads writes) in
/-- The readings are in the order of the run. -/
theorem pairwise_observed (run : List (Transition State Action)) :
    (((observed value reads writes run).handed ++ (observed value reads writes run).pending).map
      Prod.fst).Pairwise (· ≤ ·) ∧
    ∀ k ∈ ((observed value reads writes run).handed ++
      (observed value reads writes run).pending).map Prod.fst, k ≤ changeCount value run := by
  induction run using List.reverseRecOn with
  | nil => exact ⟨.nil, fun _ h => nomatch h⟩
  | append_singleton run τ ih =>
      rcases ih with ⟨hpairwise, hbound⟩
      have hle : changeCount value run ≤ changeCount value (run ++ [τ]) := by
        rw [changeCount_append]
        exact Nat.le_add_right _ _
      rw [observed_concat, Observer.handed_append_pending_see, count_observed, List.map_append]
      split
      · constructor
        · refine List.pairwise_append.mpr ⟨hpairwise, List.pairwise_singleton _ _, ?_⟩
          intro k hk last hlast
          rw [List.mem_singleton.mp hlast]
          exact hbound k hk
        · intro k hk
          rcases List.mem_append.mp hk with hk | hk
          · exact (hbound k hk).trans hle
          · rw [List.mem_singleton.mp hk]
            exact hle
      · rw [List.map_nil, List.append_nil]
        exact ⟨hpairwise, fun k hk => (hbound k hk).trans hle⟩

/-! ## Which values are handed over -/

variable (value reads writes)

/-- The value is read after `k` changes. -/
def Read (k : Nat) (run : List (Transition State Action)) : Prop :=
  ∃ front τ back, run = front ++ τ :: back ∧ changeCount value front = k ∧ reads τ = true

/-- The value is read after `k` changes, and what has been read is handed over. -/
def Sampled (k : Nat) (run : List (Transition State Action)) : Prop :=
  ∃ front τ back, run = front ++ τ :: back ∧ changeCount value front = k ∧ reads τ = true ∧
    ∃ τ' ∈ back, writes τ' = true

variable {value reads writes} {k : Nat} {τ : Transition State Action}

/-- One more step may read the value. -/
theorem read_concat : Read value reads k (run ++ [τ]) ↔
    Read value reads k run ∨ reads τ = true ∧ changeCount value run = k := by
  constructor
  · rintro ⟨front, σ, back, hrun, hcount, hreads⟩
    rcases List.eq_nil_or_concat back with rfl | ⟨back, ρ, rfl⟩
    · rcases List.append_inj' hrun rfl with ⟨rfl, hτ⟩
      cases hτ
      exact Or.inr ⟨hreads, hcount⟩
    · rw [List.concat_eq_append, ← List.cons_append, ← List.append_assoc] at hrun
      exact Or.inl ⟨front, σ, back, (List.append_inj' hrun rfl).1, hcount, hreads⟩
  · rintro (⟨front, σ, back, rfl, hcount, hreads⟩ | ⟨hreads, hcount⟩)
    · exact ⟨front, σ, back ++ [τ], by simp, hcount, hreads⟩
    · exact ⟨run, τ, [], rfl, hcount, hreads⟩

/-- One more step may hand over what has been read. -/
theorem sampled_concat : Sampled value reads writes k (run ++ [τ]) ↔
    Sampled value reads writes k run ∨ writes τ = true ∧ Read value reads k run := by
  constructor
  · rintro ⟨front, σ, back, hrun, hcount, hreads, τ', hτ', hwrites⟩
    rcases List.eq_nil_or_concat back with rfl | ⟨back, ρ, rfl⟩
    · contradiction
    · rw [List.concat_eq_append] at hrun hτ'
      rw [← List.cons_append, ← List.append_assoc] at hrun
      rcases List.append_inj' hrun rfl with ⟨hfront, hρ⟩
      cases hρ
      rcases List.mem_append.mp hτ' with hback | hlast
      · exact Or.inl ⟨front, σ, back, hfront, hcount, hreads, τ', hback, hwrites⟩
      · rw [List.mem_singleton.mp hlast] at hwrites
        exact Or.inr ⟨hwrites, front, σ, back, hfront, hcount, hreads⟩
  · rintro (⟨front, σ, back, rfl, hcount, hreads, τ', hτ', hwrites⟩ |
      ⟨hwrites, front, σ, back, rfl, hcount, hreads⟩)
    · exact ⟨front, σ, back ++ [τ], by simp, hcount, hreads, τ', List.mem_append_left _ hτ', hwrites⟩
    · exact ⟨front, σ, back ++ [τ], by simp, hcount, hreads, τ,
        List.mem_append_right _ (List.mem_singleton_self τ), hwrites⟩

variable (value reads writes) in
/-- What the observer has kept is what has been read. -/
theorem mem_read_iff (run : List (Transition State Action)) :
    k ∈ ((observed value reads writes run).handed ++
      (observed value reads writes run).pending).map Prod.fst ↔ Read value reads k run := by
  induction run using List.reverseRecOn with
  | nil =>
      refine iff_of_false List.not_mem_nil ?_
      rintro ⟨front, τ, back, hrun, -⟩
      exact absurd hrun.symm (List.append_ne_nil_of_right_ne_nil front (List.cons_ne_nil τ back))
  | append_singleton run τ ih =>
      rw [observed_concat, Observer.handed_append_pending_see, count_observed, List.map_append,
        List.mem_append, ih, read_concat]
      refine or_congr_right ?_
      split
      · rename_i hreads
        rw [List.map_singleton, List.mem_singleton, and_iff_right hreads, eq_comm]
      · rename_i hreads
        exact iff_of_false List.not_mem_nil fun h => hreads h.1

/-- Just the numbers of changes at which the value is sampled have been handed over. -/
theorem mem_handed_iff (run : List (Transition State Action)) :
    k ∈ (observed value reads writes run).handed.map Prod.fst ↔
      Sampled value reads writes k run := by
  induction run using List.reverseRecOn with
  | nil =>
      refine iff_of_false List.not_mem_nil ?_
      rintro ⟨front, τ, back, hrun, -⟩
      exact absurd hrun.symm (List.append_ne_nil_of_right_ne_nil front (List.cons_ne_nil τ back))
  | append_singleton run τ ih =>
      rw [observed_concat, sampled_concat, ← ih, ← mem_read_iff value reads writes run, Observer.see]
      cases writes τ with
      | true => simp
      | false => simp

/-- The whole course has been handed over if and only if the value is sampled after each
number of changes. -/
theorem course_sublist_handed_iff (h : Run step s run t) :
    (course value s run).Sublist ((observed value reads writes run).handed.map Prod.snd) ↔
      ∀ k ≤ changeCount value run, Sampled value reads writes k run := by
  have hlength := length_course value s run
  have hat := observed_at value reads writes h
  rcases pairwise_observed value reads writes run with
    ⟨hpairwise, hbound⟩
  rw [List.map_append] at hpairwise
  let f (k : Nat) : β := (course value s run).getD k (value s)
  have hcourse : (List.range (changeCount value run + 1)).map f = course value s run := by
    rw [← hlength]
    refine List.ext_getElem (by simp) fun j _ hj => ?_
    simp [f, hj]
  have hhanded : (observed value reads writes run).handed.map Prod.snd =
      ((observed value reads writes run).handed.map Prod.fst).map f := by
    rw [List.map_map]
    refine List.map_congr_left fun sample hsample => ?_
    have hvalue := hat sample (List.mem_append_left _ hsample)
    simp [f, hvalue]
  have hf : ∀ k, k + 1 < changeCount value run + 1 → f k ≠ f (k + 1) := by
    intro k hk
    have hne := List.isChain_iff_getElem.mp (isChain_course value h) k (by omega)
    simpa [f, hlength, hk, Nat.lt_of_succ_lt hk] using hne
  rw [← hcourse, hhanded, map_range_sublist_iff hf (List.pairwise_append.mp hpairwise).1]
  · simp only [Nat.lt_succ_iff, mem_handed_iff]
  · intro k hk
    refine Nat.lt_succ_of_le (hbound k ?_)
    rw [List.map_append]
    exact List.mem_append_left _ hk

end SctpConformance.Library
