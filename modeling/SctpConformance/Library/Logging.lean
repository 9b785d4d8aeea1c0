import SctpConformance.Library.Raising
import Mathlib.Data.List.Basic

/-!
# Computations that keep a log

A part of the state is a log, to which computations only append.  A computation that does the
same from every state is described by its outcome and by what it appends.

Main results:

- Definition `Raising.Logs`: the outcome of a computation, and what it appends to the log.
- Theorems `Logs.bind`, `Logs.bind_error` and `Logs.catch_error`: what a sequence appends,
  and what a handler adds.
- Definitions `Raising.Adds` and `Raising.Only`: how the outcome and the output are related,
  and which entries the output can have.
- Theorem `Logs.of_only`: what is left out of a log does not show in it.
-/

namespace SctpConformance.Library

namespace Raising

variable {ε σ ω α β : Type}

/-- The handler goes on in the state that the exception has left. -/
theorem run_catch (x : Raising ε σ α) (handler : ε → Raising ε σ α) (s : σ) :
    (tryCatch x handler).run.run s =
      match x.run.run s with
      | (.ok a, t) => (.ok a, t)
      | (.error e, t) => (handler e).run.run t := by
  unfold ExceptT.run StateT.run
  simp only [tryCatch, tryCatchThe, MonadExceptOf.tryCatch, ExceptT.tryCatch, ExceptT.mk, bind,
    StateT.bind]
  rcases x s with ⟨outcome, t⟩
  cases outcome <;> rfl

/-- From every state the computation has this outcome and appends this output. -/
def Logs (log : σ → List ω) (x : Raising ε σ α) (outcome : Except ε α) (output : List ω) : Prop :=
  ∀ s, (x.run.run s).1 = outcome ∧ log (x.run.run s).2 = log s ++ output

variable {log : σ → List ω}

/-- A value is returned without output. -/
theorem Logs.pure (a : α) : Logs log (pure a : Raising ε σ α) (.ok a) [] :=
  fun _ => ⟨rfl, (List.append_nil _).symm⟩

/-- An exception comes without output. -/
theorem Logs.throw (e : ε) : Logs log (throw e : Raising ε σ α) (.error e) [] :=
  fun _ => ⟨rfl, (List.append_nil _).symm⟩

/-- A step that appends to the log has that as its output. -/
theorem Logs.modify {f : σ → σ} {output : List ω} (h : ∀ s, log (f s) = log s ++ output) :
    Logs log (modify f : Raising ε σ Unit) (.ok ()) output :=
  fun s => ⟨rfl, h s⟩

variable {x : Raising ε σ α} {f : α → Raising ε σ β}

/-- A sequence appends what its parts do, one after the other. -/
theorem Logs.bind {a : α} {outcome : Except ε β} {output output' : List ω}
    (hx : Logs log x (.ok a) output) (hf : Logs log (f a) outcome output') :
    Logs log (x >>= f) outcome (output ++ output') := by
  intro s
  obtain ⟨houtcome, hlog⟩ := hx s
  rw [run_bind]
  rcases hrun : x.run.run s with ⟨outcome', t⟩
  rw [hrun] at houtcome hlog
  obtain rfl : outcome' = .ok a := houtcome
  obtain ⟨houtcome', hlog'⟩ := hf t
  refine ⟨houtcome', ?_⟩
  rw [← List.append_assoc, ← show log t = log s ++ output from hlog]
  exact hlog'

/-- What appends nothing does not show. -/
theorem Logs.after {a : α} {outcome : Except ε β} {output : List ω}
    (hx : Logs log x (.ok a) []) (hf : Logs log (f a) outcome output) :
    Logs log (x >>= f) outcome output := by
  have h := hx.bind hf
  rwa [List.nil_append] at h

/-- What follows may be silent. -/
theorem Logs.before {a : α} {outcome : Except ε β} {output : List ω}
    (hx : Logs log x (.ok a) output) (hf : Logs log (f a) outcome []) :
    Logs log (x >>= f) outcome output := by
  have h := hx.bind hf
  rwa [List.append_nil] at h

/-- After an error nothing more is done. -/
theorem Logs.bind_error {e : ε} {output : List ω} (hx : Logs log x (.error e) output) :
    Logs log (x >>= f) (.error e) output := by
  intro s
  obtain ⟨houtcome, hlog⟩ := hx s
  rw [run_bind]
  rcases hrun : x.run.run s with ⟨outcome, t⟩
  rw [hrun] at houtcome hlog
  obtain rfl : outcome = .error e := houtcome
  exact ⟨rfl, hlog⟩

/-- Without an exception the handler does not run. -/
theorem Logs.catch_ok {handler : ε → Raising ε σ α} {a : α} {output : List ω}
    (hx : Logs log x (.ok a) output) : Logs log (tryCatch x handler) (.ok a) output := by
  intro s
  obtain ⟨houtcome, hlog⟩ := hx s
  rw [run_catch]
  rcases hrun : x.run.run s with ⟨outcome, t⟩
  rw [hrun] at houtcome hlog
  obtain rfl : outcome = .ok a := houtcome
  exact ⟨rfl, hlog⟩

/-- After an exception the output of the handler follows. -/
theorem Logs.catch_error {handler : ε → Raising ε σ α} {e : ε} {outcome : Except ε α}
    {output output' : List ω} (hx : Logs log x (.error e) output)
    (hhandler : Logs log (handler e) outcome output') :
    Logs log (tryCatch x handler) outcome (output ++ output') := by
  intro s
  obtain ⟨houtcome, hlog⟩ := hx s
  rw [run_catch]
  rcases hrun : x.run.run s with ⟨outcome', t⟩
  rw [hrun] at houtcome hlog
  obtain rfl : outcome' = .error e := houtcome
  obtain ⟨houtcome', hlog'⟩ := hhandler t
  refine ⟨houtcome', ?_⟩
  rw [← List.append_assoc, ← show log t = log s ++ output from hlog]
  exact hlog'

/-! ## Related outcomes and outputs -/

/-- From every state the computation only appends, an output that goes with its outcome. -/
def Adds (log : σ → List ω) (x : Raising ε σ α) (Q : Except ε α → List ω → Prop) : Prop :=
  ∀ s, ∃ output, log (x.run.run s).2 = log s ++ output ∧ Q (x.run.run s).1 output

section Adds

variable {P Q : Except ε α → List ω → Prop} {R : Except ε β → List ω → Prop}

/-- A value, and nothing added. -/
theorem Adds.pure {a : α} (h : Q (.ok a) []) : Adds log (pure a : Raising ε σ α) Q :=
  fun _ => ⟨[], (List.append_nil _).symm, h⟩

/-- An exception, and nothing added. -/
theorem Adds.throw {e : ε} (h : Q (.error e) []) : Adds log (throw e : Raising ε σ α) Q :=
  fun _ => ⟨[], (List.append_nil _).symm, h⟩

/-- A step that appends to the log adds just that. -/
theorem Adds.modify {Q : Except ε Unit → List ω → Prop} {f : σ → σ} {output : List ω}
    (hlog : ∀ s, log (f s) = log s ++ output) (h : Q (.ok ()) output) :
    Adds log (modify f : Raising ε σ Unit) Q :=
  fun s => ⟨output, hlog s, h⟩

/-- A weaker condition holds, too. -/
theorem Adds.mono (hx : Adds log x P) (h : ∀ outcome output, P outcome output → Q outcome output) :
    Adds log x Q := by
  intro s
  obtain ⟨output, hlog, hP⟩ := hx s
  exact ⟨output, hlog, h _ _ hP⟩

/-- The second computation adds behind the first one, unless that one has raised. -/
theorem Adds.bind (hx : Adds log x P)
    (hok : ∀ a output, P (.ok a) output →
      Adds log (f a) fun outcome output' => R outcome (output ++ output'))
    (herror : ∀ e output, P (.error e) output → R (.error e) output) :
    Adds log (x >>= f) R := by
  intro s
  obtain ⟨output, hlog, hP⟩ := hx s
  rw [run_bind]
  rcases hrun : x.run.run s with ⟨outcome, t⟩
  rw [hrun] at hlog hP
  cases outcome with
  | error e => exact ⟨output, hlog, herror e output hP⟩
  | ok a =>
      obtain ⟨output', hlog', hR⟩ := hok a output hP t
      refine ⟨output ++ output', ?_, hR⟩
      rw [← List.append_assoc, ← show log t = log s ++ output from hlog]
      exact hlog'

/-- The handler adds behind what has been added before the exception. -/
theorem Adds.catch {handler : ε → Raising ε σ α} (hx : Adds log x P)
    (hok : ∀ a output, P (.ok a) output → Q (.ok a) output)
    (herror : ∀ e output, P (.error e) output →
      Adds log (handler e) fun outcome output' => Q outcome (output ++ output')) :
    Adds log (tryCatch x handler) Q := by
  intro s
  obtain ⟨output, hlog, hP⟩ := hx s
  rw [run_catch]
  rcases hrun : x.run.run s with ⟨outcome, t⟩
  rw [hrun] at hlog hP
  cases outcome with
  | ok a => exact ⟨output, hlog, hok a output hP⟩
  | error e =>
      obtain ⟨output', hlog', hQ⟩ := herror e output hP t
      refine ⟨output ++ output', ?_, hQ⟩
      rw [← List.append_assoc, ← show log t = log s ++ output from hlog]
      exact hlog'

end Adds

/-- The computation appends no other entries than these. -/
def Only (log : σ → List ω) (x : Raising ε σ α) (p : ω → Prop) : Prop :=
  Adds log x fun _ output => ∀ entry ∈ output, p entry

section Only

variable {p : ω → Prop}

theorem Only.pure (a : α) : Only log (pure a : Raising ε σ α) p :=
  Adds.pure (List.forall_mem_nil p)

theorem Only.throw (e : ε) : Only log (throw e : Raising ε σ α) p :=
  Adds.throw (List.forall_mem_nil p)

theorem Only.modify {f : σ → σ} {output : List ω} (hlog : ∀ s, log (f s) = log s ++ output)
    (h : ∀ entry ∈ output, p entry) : Only log (modify f : Raising ε σ Unit) p :=
  Adds.modify hlog h

/-- Both computations add only such entries. -/
theorem Only.bind (hx : Only log x p) (hf : ∀ a, Only log (f a) p) : Only log (x >>= f) p :=
  Adds.bind hx
    (fun a _ houtput => (hf a).mono fun _ _ houtput' =>
      List.forall_mem_append.mpr ⟨houtput, houtput'⟩)
    fun _ _ houtput => houtput

/-- A computation and the handler of its exceptions add only such entries. -/
theorem Only.catch {handler : ε → Raising ε σ α} (hx : Only log x p)
    (hhandler : ∀ e, Only log (handler e) p) : Only log (tryCatch x handler) p :=
  Adds.catch hx (fun _ _ houtput => houtput) fun e _ houtput =>
    (hhandler e).mono fun _ _ houtput' => List.forall_mem_append.mpr ⟨houtput, houtput'⟩

/-- Entries that another reading of the log leaves out do not show in it. -/
theorem Logs.of_only {ω' ω'' : Type} {log' : σ → List ω'} {read : ω → Option ω''}
    {outcome : Except ε α} {output : List ω'} (hx : Logs log' x outcome output)
    (honly : Only log x fun entry => read entry = none) :
    Logs (fun s => (log s).filterMap read) x outcome [] := by
  intro s
  obtain ⟨added, hlog, hnone⟩ := honly s
  refine ⟨(hx s).1, ?_⟩
  dsimp only
  rw [hlog, List.filterMap_append, List.filterMap_eq_nil_iff.mpr hnone]

end Only

end Raising

end SctpConformance.Library
