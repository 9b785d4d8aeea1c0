import Mathlib.Data.List.Basic
import Mathlib.Order.Lattice

/-!
# Comparing two runs

A deterministic system is run twice, on two lists of timed events that agree
but for hidden events.  A relation between the two states that is kept when a
hidden event happens on one side, and when a visible event happens on both,
relates the two states in the end.

The relation may depend on the time up to which the runs have been looked at.
Where one run is ahead, this is the time of its last event.

Main results:

- Definition `Along`: every event of a list meets a condition in its turn.
- Theorem `agree_of_filter_eq`: lists with the same visible events agree.
- Theorem `TwoRunRule.related`: the rule for two runs.
-/

namespace SctpConformance.Library

variable {State Event : Type*}

/-! ## Conditions along a list of events -/

/-- Every event meets a condition on the state that it finds. -/
def Along (step : State → Event → State) (C : State → Event → Prop) :
    State → List Event → Prop
  | _, [] => True
  | s, e :: es => C s e ∧ Along step C (step s e) es

instance Along.decidable (step : State → Event → State) (C : State → Event → Prop)
    [∀ s, DecidablePred (C s)] :
    (s : State) → (events : List Event) → Decidable (Along step C s events)
  | _, [] => isTrue trivial
  | s, e :: es =>
      have := Along.decidable step C (step s e) es
      inferInstanceAs (Decidable (C s e ∧ Along step C (step s e) es))

/-! ## Lists that agree -/

/-- Two lists that agree but for hidden events. -/
inductive Agree (visible : Event → Prop) : List Event → List Event → Prop
  | nil : Agree visible [] []
  | left {e : Event} {events events' : List Event} (hidden : ¬visible e)
      (rest : Agree visible events events') : Agree visible (e :: events) events'
  | right {e : Event} {events events' : List Event} (hidden : ¬visible e)
      (rest : Agree visible events events') : Agree visible events (e :: events')
  | both {e : Event} {events events' : List Event} (shown : visible e)
      (rest : Agree visible events events') : Agree visible (e :: events) (e :: events')

/-- Lists with the same visible events agree. -/
theorem agree_of_filter_eq {visible : Event → Prop} [DecidablePred visible]
    {events events' : List Event}
    (h : events.filter (fun e => visible e) = events'.filter fun e => visible e) :
    Agree visible events events' := by
  induction events generalizing events' with
  | nil =>
      induction events' with
      | nil => exact .nil
      | cons e' rest' ih' =>
          have hhidden : ¬visible e' := by
            intro hshown
            simp [hshown] at h
          exact .right hhidden (ih' (by simpa [hhidden] using h))
  | cons e rest ih =>
      by_cases hshown : visible e
      · induction events' with
        | nil => simp [hshown] at h
        | cons e' rest' ih' =>
            by_cases hshown' : visible e'
            · simp only [List.filter_cons, hshown, hshown', decide_true, if_true,
                List.cons.injEq] at h
              rcases h with ⟨rfl, hrest⟩
              exact .both hshown (ih hrest)
            · exact .right hshown' (ih' (by simpa [hshown'] using h))
      · exact .left hshown (ih (by simpa [hshown] using h))

/-- A visible event of one list is an event of the other. -/
theorem Agree.mem {visible : Event → Prop} {events events' : List Event}
    (h : Agree visible events events') {e : Event} (he : e ∈ events) (hshown : visible e) :
    e ∈ events' := by
  induction h with
  | nil => exact he
  | left hidden rest ih =>
      rcases List.mem_cons.mp he with rfl | he
      · exact absurd hshown hidden
      · exact ih he
  | right hidden rest ih => exact List.mem_cons_of_mem _ (ih he)
  | both shown rest ih =>
      rcases List.mem_cons.mp he with rfl | he
      · exact List.mem_cons_self
      · exact List.mem_cons_of_mem _ (ih he)

/-! ## The rule -/

variable {Time : Type*} [LinearOrder Time]

/-- What a relation between two runs has to be kept by. -/
structure TwoRunRule (step : State → Event → State) (visible : Event → Prop)
    (time : Event → Time) (C : State → Event → Prop) (R : Time → State → State → Prop) :
    Prop where
  left : ∀ t s s' e, ¬visible e → C s e → R t s s' → R (max t (time e)) (step s e) s'
  right : ∀ t s s' e, ¬visible e → C s' e → R t s s' → R (max t (time e)) s (step s' e)
  both : ∀ t s s' e, visible e → t ≤ time e → C s e → C s' e → R t s s' →
    R (time e) (step s e) (step s' e)

variable {step : State → Event → State} {visible : Event → Prop} {time : Event → Time}
  {C : State → Event → Prop} {R : Time → State → State → Prop}

/-- The relation holds in the end if it holds up to some time before the next
visible event. -/
theorem TwoRunRule.related_of_le (hrule : TwoRunRule step visible time C R)
    {events events' : List Event} (h : Agree visible events events')
    (hsorted : events.Pairwise fun e f => time e ≤ time f)
    (hsorted' : events'.Pairwise fun e f => time e ≤ time f) {s s' : State} {t : Time}
    (hC : Along step C s events) (hC' : Along step C s' events')
    (ht : ∀ e ∈ events, visible e → t ≤ time e) (hR : R t s s') :
    ∃ t, R t (events.foldl step s) (events'.foldl step s') := by
  induction h generalizing s s' t with
  | nil => exact ⟨t, hR⟩
  | @left e events events' hidden rest ih =>
      rcases List.pairwise_cons.mp hsorted with ⟨hlater, hsorted⟩
      refine ih hsorted hsorted' hC.2 hC' ?_ (hrule.left t s s' e hidden hC.1 hR)
      intro f hf hshown
      exact max_le (ht f (List.mem_cons_of_mem _ hf) hshown) (hlater f hf)
  | @right e events events' hidden rest ih =>
      rcases List.pairwise_cons.mp hsorted' with ⟨hlater, hsorted'⟩
      refine ih hsorted hsorted' hC hC'.2 ?_ (hrule.right t s s' e hidden hC'.1 hR)
      intro f hf hshown
      exact max_le (ht f hf hshown) (hlater f (rest.mem hf hshown))
  | @both e events events' shown rest ih =>
      rcases List.pairwise_cons.mp hsorted with ⟨hlater, hsorted⟩
      rcases List.pairwise_cons.mp hsorted' with ⟨-, hsorted'⟩
      have hnow : t ≤ time e := ht e List.mem_cons_self shown
      refine ih hsorted hsorted' hC.2 hC'.2 ?_ (hrule.both t s s' e shown hnow hC.1 hC'.1 hR)
      intro f hf hshown
      exact hlater f hf

/-- The rule for two runs: a relation that holds at first holds in the end. -/
theorem TwoRunRule.related [Inhabited Time] (hrule : TwoRunRule step visible time C R)
    {events events' : List Event} (h : Agree visible events events')
    (hsorted : events.Pairwise fun e f => time e ≤ time f)
    (hsorted' : events'.Pairwise fun e f => time e ≤ time f) {s s' : State}
    (hC : Along step C s events) (hC' : Along step C s' events') (hR : ∀ t, R t s s') :
    ∃ t, R t (events.foldl step s) (events'.foldl step s') := by
  cases events with
  | nil => exact hrule.related_of_le h hsorted hsorted' hC hC' (by simp) (hR default)
  | cons e events =>
      refine hrule.related_of_le h hsorted hsorted' hC hC' ?_ (hR (time e))
      intro f hf hshown
      rcases List.mem_cons.mp hf with rfl | hf
      · exact le_rfl
      · exact (List.pairwise_cons.mp hsorted).1 f hf

end SctpConformance.Library
