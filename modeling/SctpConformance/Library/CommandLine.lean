import Mathlib.Data.List.Basic

/-!
# Command lines made of settings

A setting is a flag, with or without a value behind it.  A parser that takes one setting
after another from a command line, and keeps what it has found so far, does with a list of
settings what it does with each of them.

Main results:

- Definition `Reads`: a parser takes a setting in one step.
- Theorem `parse_settings`: a list of settings is read one after another.
-/

namespace SctpConformance.Library

variable {Arg Options Result : Type*}

/-- A flag, and the value that follows it. -/
structure Setting (Arg : Type*) where
  flag : Arg
  value : Option Arg := none

/-- The arguments of a setting. -/
def Setting.args (setting : Setting Arg) : List Arg :=
  setting.flag :: setting.value.toList

/-- What stands on the command line under a condition. -/
def settingIf (condition : Prop) [Decidable condition] (setting : Setting Arg) :
    List (Setting Arg) :=
  if condition then [setting] else []

/-- The parser takes the setting from the front of a command line. -/
def Reads (parse : List Arg → Options → Result) (setting : Setting Arg)
    (apply : Options → Options) : Prop :=
  ∀ rest options, parse (setting.args ++ rest) options = parse rest (apply options)

/-- Settings are read one after another. -/
theorem parse_settings {parse : List Arg → Options → Result}
    {apply : Setting Arg → Options → Options} {settings : List (Setting Arg)}
    (h : ∀ setting ∈ settings, Reads parse setting (apply setting)) (rest : List Arg)
    (options : Options) :
    parse (settings.flatMap Setting.args ++ rest) options =
      parse rest (settings.foldl (fun options setting => apply setting options) options) := by
  induction settings generalizing options with
  | nil => rfl
  | cons setting settings ih =>
      rw [List.flatMap_cons, List.append_assoc, h setting List.mem_cons_self,
        ih fun s hs => h s (List.mem_cons_of_mem _ hs), List.foldl_cons]

/-- An optional setting is there exactly if its condition holds. -/
theorem mem_settingIf {condition : Prop} [Decidable condition] {setting s : Setting Arg} :
    s ∈ settingIf condition setting ↔ condition ∧ s = setting := by
  unfold settingIf
  split <;> simp [*]

/-- A setting that may be missing changes the options or leaves them. -/
theorem foldl_settingIf {apply : Setting Arg → Options → Options} {condition : Prop}
    [Decidable condition] {setting : Setting Arg} {options : Options} :
    (settingIf condition setting).foldl (fun options setting => apply setting options) options =
      if condition then apply setting options else options := by
  unfold settingIf
  split <;> rfl

end SctpConformance.Library
