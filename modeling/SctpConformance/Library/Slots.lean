import Mathlib.Data.List.Basic

/-!
# Tables of reusable numbers

A table hands out the lowest number that is not in use and takes numbers back
one at a time, as a process descriptor table does.  Entries are stored under
their number; a number that has never been handed out, or has been handed
back, has no entry.

Main results:

- Theorem `Slots.lookup_acquire`: acquiring writes one entry, under a number
  that had none.
- Theorem `Slots.ne_lowestFree`: a number in use is not handed out.
- Theorem `Slots.lookup_release`: releasing removes one entry.
-/

namespace SctpConformance.Library

/-- The entries of a table, listed by number. -/
abbrev Slots (α : Type*) := List (Option α)

namespace Slots

variable {α : Type*}

/-- The entry stored under a number. -/
def lookup : Slots α → Nat → Option α
  | [], _ => none
  | entry :: _, 0 => entry
  | _ :: t, n + 1 => lookup t n

/-- The lowest number without an entry. -/
def lowestFree : Slots α → Nat
  | [] => 0
  | none :: _ => 0
  | some _ :: t => lowestFree t + 1

/-- Store an entry under the lowest free number. -/
def acquire : Slots α → α → Slots α
  | [], a => [some a]
  | none :: t, a => some a :: t
  | some b :: t, a => some b :: acquire t a

/-- Remove the entry stored under a number, if there is one. -/
def release : Slots α → Nat → Slots α
  | [], _ => []
  | _ :: t, 0 => none :: t
  | entry :: t, n + 1 => entry :: release t n

@[simp]
theorem lookup_nil (n : Nat) : lookup ([] : Slots α) n = none :=
  rfl

/-- The lowest free slot is free. -/
@[simp]
theorem lookup_lowestFree (t : Slots α) : t.lookup t.lowestFree = none := by
  induction t with
  | nil => rfl
  | cons entry t ih =>
      cases entry with
      | none => rfl
      | some _ => simpa [lowestFree, lookup] using ih

/-- Acquiring changes exactly the entry of the lowest free number. -/
theorem lookup_acquire (t : Slots α) (a : α) (n : Nat) :
    (t.acquire a).lookup n = if n = t.lowestFree then some a else t.lookup n := by
  induction t generalizing n with
  | nil => cases n <;> simp [acquire, lookup, lowestFree]
  | cons entry t ih =>
      cases entry with
      | none => cases n <;> simp [acquire, lookup, lowestFree]
      | some _ =>
          cases n with
          | zero => simp [acquire, lookup, lowestFree]
          | succ n => simpa [acquire, lookup, lowestFree] using ih n

/-- Releasing changes exactly the entry of the released number. -/
theorem lookup_release (t : Slots α) (m n : Nat) :
    (t.release m).lookup n = if n = m then none else t.lookup n := by
  induction t generalizing m n with
  | nil => simp [release]
  | cons entry t ih =>
      cases m with
      | zero => cases n <;> simp [release, lookup]
      | succ m =>
          cases n with
          | zero => simp [release, lookup]
          | succ n => simpa [release, lookup] using ih m n

/-- A number in use is never the lowest free one. -/
theorem ne_lowestFree {t : Slots α} {n : Nat} {a : α} (h : t.lookup n = some a) :
    n ≠ t.lowestFree := by
  intro hn
  rw [hn, lookup_lowestFree] at h
  contradiction

end Slots

end SctpConformance.Library
