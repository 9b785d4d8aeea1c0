import SctpConformance.Helpers.Options
import SctpConformance.Helpers.GoMessages

/-!
# One command line, two helpers

`parseArgs` of `adapters/go_net/cmd/sctp-helper/main.go`, with what it takes from the
packages `flag` and `strconv`, and the same command line read by the C helper.

Main results:

- Definition `parseArgs`: the options of a command line.
- Theorem `parseArgs_commandFlags`: what the Go helper makes of the command line of an
  endpoint.
- Theorem `helpers_told_alike`: both helpers are told what the scenario says.
-/

namespace SctpConformance.GoHelper

open Library
open Runner (EndpointSpec Text commandFlags encodeMessages encodeUtf8 intText joinTexts joinValues)
open FreebsdHelper (FitsInt asGiven clientMessages encodeSetting endpointOptions parseOptions
  settings splitCsv strlcpy uint16)

/-! ## Numbers with a base -/

/-- The value of a digit in any base. -/
def digitValue (ch : UInt8) : Option Nat :=
  if isDigit ch then some (ch.toNat - 48)
  else if 97 ≤ ch ∧ ch ≤ 122 then some (ch.toNat - 97 + 10)
  else if 65 ≤ ch ∧ ch ≤ 90 then some (ch.toNat - 65 + 10)
  else none

/-- The base that the beginning of a number implies, and what stands behind it. -/
def impliedBase : CppString → Nat × CppString
  | 48 :: letter :: digit :: rest =>
      if letter = 98 ∨ letter = 66 then (2, digit :: rest)
      else if letter = 111 ∨ letter = 79 then (8, digit :: rest)
      else if letter = 120 ∨ letter = 88 then (16, digit :: rest)
      else (8, letter :: digit :: rest)
  | 48 :: rest => (8, rest)
  | text => (10, text)

/-- The number that digits of a base stand for; underscores are skipped. -/
def valueOfDigits (base : Nat) : CppString → Nat → Option Nat
  | [], n => some n
  | ch :: rest, n =>
      if ch = 95 then valueOfDigits base rest n
      else
        match digitValue ch with
        | some digit => if digit < base then valueOfDigits base rest (n * base + digit) else none
        | none => none

/-- Every underscore stands between two digits; `digit` says whether a digit or the prefix
of the base stands in front of the text. -/
def underscoresBetween (digit : Bool) : CppString → Bool
  | [] => true
  | ch :: rest =>
      if ch = 95 then digit && (rest.head?.any (· ≠ 95)) && underscoresBetween false rest
      else underscoresBetween true rest

/-- `strconv.ParseInt` with base 0, for 64 bits. -/
def parseInt (text : CppString) : Option Int :=
  let (negative, rest) := splitSign text
  let (base, digits) := impliedBase rest
  if rest = [] ∨ underscoresBetween (digits.length < rest.length) digits = false then none
  else
    match valueOfDigits base digits 0 with
    | none => none
    | some n =>
        let value : Int := if negative then -n else n
        if -2 ^ 63 ≤ value ∧ value < 2 ^ 63 then some value else none

/-- `strconv.ParseBool` -/
def parseBool (text : CppString) : Option Bool :=
  if text ∈ [str "1", str "t", str "T", str "true", str "TRUE", str "True"] then some true
  else if text ∈ [str "0", str "f", str "F", str "false", str "FALSE", str "False"] then some false
  else none

/-! ## The flag package -/

/-- The variables of `parseArgs` that the flags set. -/
structure FlagValues where
  bindAddrs : CppString := []
  connectAddrs : CppString := []
  subscribe : CppString := []
  messages : CppString := []
  readMessages : Int := 0
  setNoDelay : Bool := false
  emitLocal : Bool := false
  emitPeer : Bool := false
  expectFailure : CppString := []
  numOStreams : Int := 0
  maxInStreams : Int := 0
  maxAttempts : Int := 0
  maxInitTimeout : Int := 0
deriving DecidableEq

attribute [ext] FlagValues

/-- `fs.StringVar` -/
def stringVar (name : String) (set : FlagValues → CppString → FlagValues) :
    CppString × (FlagValues → CppString → Option FlagValues) :=
  (str name, fun values value => some (set values value))

/-- `fs.IntVar` -/
def intVar (name : String) (set : FlagValues → Int → FlagValues) :
    CppString × (FlagValues → CppString → Option FlagValues) :=
  (str name, fun values value => (parseInt value).map (set values))

/-- The flags with a value. -/
def valueFlags : List (CppString × (FlagValues → CppString → Option FlagValues)) := [
  stringVar "bind-addrs" fun values value => { values with bindAddrs := value },
  stringVar "connect-addrs" fun values value => { values with connectAddrs := value },
  stringVar "subscribe" fun values value => { values with subscribe := value },
  stringVar "messages" fun values value => { values with messages := value },
  intVar "read-messages" fun values value => { values with readMessages := value },
  stringVar "expect-failure" fun values value => { values with expectFailure := value },
  intVar "init-ostreams" fun values value => { values with numOStreams := value },
  intVar "init-instreams" fun values value => { values with maxInStreams := value },
  intVar "init-attempts" fun values value => { values with maxAttempts := value },
  intVar "init-timeout" fun values value => { values with maxInitTimeout := value }]

/-- The flags of `fs.BoolVar`. -/
def boolFlags : List (CppString × (FlagValues → Bool → FlagValues)) := [
  (str "set-nodelay", fun values value => { values with setNoDelay := value }),
  (str "emit-local-addrs", fun values value => { values with emitLocal := value }),
  (str "emit-peer-addrs", fun values value => { values with emitPeer := value })]

/-- What an argument is: the end of the flags, no flag, or the name of a flag, with what
stands behind an equals sign. -/
inductive Argument where
  | ends
  | bad
  | flag (name : CppString) (value : Option CppString)
deriving DecidableEq

/-- The name of a flag begins with something else than a hyphen or an equals sign. -/
def flagArgument (text : CppString) : Argument :=
  if text = [] ∨ text.head? = some 45 ∨ text.head? = some 61 then .bad
  else
    match splitFirst 61 text with
    | some (name, value) => .flag name (some value)
    | none => .flag text none

/-- An argument as `fs.parseOne` takes it. -/
def classify : CppString → Argument
  | [45, 45] => .ends
  | 45 :: 45 :: name => flagArgument name
  | [45] => .ends
  | 45 :: name => flagArgument name
  | _ => .ends

/-- `fs.Parse`; the arguments behind the flags are not looked at. -/
def parseFlags : List CppString → FlagValues → Option FlagValues
  | [], values => some values
  | arg :: rest, values =>
      match classify arg with
      | .ends => some values
      | .bad => none
      | .flag name value =>
          match boolFlags.lookup name, value with
          | some set, none => parseFlags rest (set values true)
          | some set, some text =>
              match parseBool text with
              | some value => parseFlags rest (set values value)
              | none => none
          | none, some text =>
              match (valueFlags.lookup name).bind fun set => set values text with
              | some values => parseFlags rest values
              | none => none
          | none, none =>
              match rest with
              | [] => none
              | text :: rest =>
                  match (valueFlags.lookup name).bind fun set => set values text with
                  | some values => parseFlags rest values
                  | none => none

/-! ## The options -/

/-- The INIT options of the Go helper. -/
structure InitOptions where
  numOStreams : Int := 0
  maxInStreams : Int := 0
  maxAttempts : Int := 0
  maxInitTimeout : Int := 0
deriving DecidableEq

/-- The options of the Go helper. -/
structure HelperOptions where
  mode : CppString
  bindAddrs : List CppString := []
  connectAddrs : List CppString := []
  subscribe : List CppString := []
  readMessages : Int := 0
  setNoDelay : Bool := false
  emitLocal : Bool := false
  emitPeer : Bool := false
  expectFailure : CppString := []
  messages : List FreebsdHelper.MessageSpec := []
  init : InitOptions := {}
deriving DecidableEq

/-- The options that `parseArgs` returns, for the values of the flags. -/
def FlagValues.options (values : FlagValues) (mode : CppString)
    (messages : List FreebsdHelper.MessageSpec) : HelperOptions where
  mode := mode
  bindAddrs := splitCSV values.bindAddrs
  connectAddrs := splitCSV values.connectAddrs
  subscribe := splitCSV values.subscribe
  readMessages := values.readMessages
  setNoDelay := values.setNoDelay
  emitLocal := values.emitLocal
  emitPeer := values.emitPeer
  expectFailure := values.expectFailure
  messages := messages
  init := {
    numOStreams := values.numOStreams
    maxInStreams := values.maxInStreams
    maxAttempts := values.maxAttempts
    maxInitTimeout := values.maxInitTimeout }

/-- `parseArgs`, for the arguments behind the name of the program. -/
def parseArgs : List CppString → Option HelperOptions
  | [] => none
  | mode :: args =>
      (parseFlags args {}).bind fun values =>
        (parseMessages values.messages).map (values.options mode)

/-! ## Numbers that the runner writes -/

/-- A decimal digit has its value in any base from ten on. -/
theorem digitValue_of_isDigit {ch : UInt8} (h : isDigit ch = true) :
    ch ≠ 95 ∧ digitValue ch = some (ch.toNat - 48) ∧ ch.toNat - 48 < 10 := by
  have hrange : 48 ≤ ch.toNat ∧ ch.toNat ≤ 57 := by
    simpa [isDigit, UInt8.le_iff_toNat_le] using h
  refine ⟨?_, ?_, by omega⟩
  · rintro rfl
    exact absurd h (by decide)
  · rw [digitValue, if_pos h]

/-- Decimal digits have the value of their number. -/
theorem valueOfDigits_ten {digits : CppString} (h : ∀ ch ∈ digits, isDigit ch = true) (n : Nat) :
    valueOfDigits 10 digits n =
      some (digits.foldl (fun n digit => n * 10 + (digit.toNat - 48)) n) := by
  induction digits generalizing n with
  | nil => rfl
  | cons ch digits ih =>
      rcases digitValue_of_isDigit (h ch List.mem_cons_self) with ⟨hne, hvalue, hlt⟩
      rw [valueOfDigits, if_neg hne, hvalue]
      dsimp only
      rw [if_pos hlt, ih fun ch hch => h ch (List.mem_cons_of_mem _ hch), List.foldl_cons]

/-- There are no underscores among digits. -/
theorem underscoresBetween_digits {digits : CppString} (h : ∀ ch ∈ digits, isDigit ch = true)
    (digit : Bool) : underscoresBetween digit digits = true := by
  induction digits generalizing digit with
  | nil => rfl
  | cons ch digits ih =>
      rw [underscoresBetween, if_neg (digitValue_of_isDigit (h ch List.mem_cons_self)).1]
      exact ih (fun ch hch => h ch (List.mem_cons_of_mem _ hch)) true

/-- A number without a leading zero is read in base ten. -/
theorem impliedBase_decimal {n : Nat} (hn : n ≠ 0) : impliedBase (decimal n) = (10, decimal n) := by
  rcases decimal_head n with hzero | ⟨ch, rest, hdecimal, hne⟩
  · have hvalue := natOfDigits_decimal n
    rw [hzero] at hvalue
    exact absurd hvalue.symm hn
  · rw [hdecimal]
    unfold impliedBase
    split <;> simp_all

/-- The sign of a number, and what stands behind it. -/
theorem splitSign_decimalInt (n : Int) :
    splitSign (decimalInt n) = (decide (n < 0), decimal n.natAbs) := by
  by_cases hn : n < 0
  · simp [decimalInt, hn, splitSign]
  · rw [decimalInt, if_neg hn]
    cases hdecimal : decimal n.natAbs with
    | nil => exact absurd hdecimal (decimal_ne_nil _)
    | cons ch rest =>
        have hdigit := decimal_digits n.natAbs ch (by simp [hdecimal])
        have hch := isDigit_ne hdigit
        rw [splitSign, if_neg hch.2.1, if_neg hch.2.2]
        simp [hn]

/-- A number of 64 bits is read back. -/
theorem parseInt_intText {n : Int} (hlow : -2 ^ 63 ≤ n) (hhigh : n < 2 ^ 63) :
    parseInt (encodeUtf8 (intText n)) = some n := by
  rw [FreebsdHelper.encodeUtf8_intText_eq]
  by_cases hzero : n = 0
  · subst hzero
    decide
  · have hbase := impliedBase_decimal (n := n.natAbs) (by omega)
    have hdigits := decimal_digits n.natAbs
    have hvalue : valueOfDigits 10 (decimal n.natAbs) 0 = some n.natAbs := by
      rw [valueOfDigits_ten hdigits]
      exact congrArg some (natOfDigits_decimal n.natAbs)
    unfold parseInt
    simp only [splitSign_decimalInt, hbase, underscoresBetween_digits hdigits, decimal_ne_nil,
      hvalue, or_self, if_false, Bool.true_eq_false]
    have hsign : (if decide (n < 0) = true then -(n.natAbs : Int) else n.natAbs) = n := by
      by_cases hn : n < 0
      · rw [if_pos (decide_eq_true hn)]
        omega
      · rw [if_neg (by simpa using hn)]
        omega
    rw [hsign, if_pos ⟨hlow, hhigh⟩]

/-! ## The command line of an endpoint -/

/-- The name of a flag, without the hyphens. -/
def flagName (flag : CppString) : CppString :=
  flag.drop 2

/-- What a setting does to the values. -/
def applyFlag (setting : Setting CppString) (values : FlagValues) : FlagValues :=
  match setting.value with
  | some value =>
      ((valueFlags.lookup (flagName setting.flag)).bind fun set => set values value).getD values
  | none => ((boolFlags.lookup (flagName setting.flag)).map fun set => set values true).getD values

/-- A setting that the helper knows, with a value that it accepts. -/
def Known (setting : Setting CppString) : Prop :=
  classify setting.flag = .flag (flagName setting.flag) none ∧
    match setting.value with
    | some value => boolFlags.lookup (flagName setting.flag) = none ∧ ∀ values,
        ((valueFlags.lookup (flagName setting.flag)).bind fun set => set values value).isSome = true
    | none => (boolFlags.lookup (flagName setting.flag)).isSome = true

/-- The parser reads a known setting. -/
theorem reads_known {setting : Setting CppString} (h : Known setting) :
    Reads parseFlags setting (applyFlag setting) := by
  intro rest values
  rcases setting with ⟨flag, value⟩
  rcases h with ⟨hclass, hknown⟩
  cases value with
  | some value =>
      rcases hknown with ⟨hbool, hset⟩
      rcases Option.isSome_iff_exists.mp (hset values) with ⟨next, hnext⟩
      simp only [Setting.args, Option.toList_some, List.cons_append, List.nil_append, parseFlags,
        hclass, hbool, hnext, applyFlag, Option.getD_some]
  | none =>
      rcases Option.isSome_iff_exists.mp hknown with ⟨set, hset⟩
      simp only [Setting.args, Option.toList_none, List.cons_append, List.nil_append, parseFlags,
        hclass, hset, applyFlag, Option.map_some, Option.getD_some]

/-- The flags of the runner whose value is a text. -/
def textFlags : List String :=
  ["--bind-addrs", "--connect-addrs", "--subscribe", "--expect-failure", "--messages"]

/-- The flags of the runner whose value is a number. -/
def numberFlags : List String :=
  ["--read-messages", "--init-ostreams", "--init-instreams", "--init-attempts", "--init-timeout"]

/-- The flags of the runner without a value. -/
def switchFlags : List String :=
  ["--set-nodelay", "--emit-local-addrs", "--emit-peer-addrs"]

/-- A flag that takes a value is recognised as one. -/
theorem classify_valued {flag : String} (h : flag ∈ textFlags ++ numberFlags) :
    classify (encodeUtf8 flag.toList) = .flag (flagName (encodeUtf8 flag.toList)) none ∧
      boolFlags.lookup (flagName (encodeUtf8 flag.toList)) = none := by
  have hall : ∀ flag ∈ textFlags ++ numberFlags,
      classify (encodeUtf8 flag.toList) = .flag (flagName (encodeUtf8 flag.toList)) none ∧
        (boolFlags.lookup (flagName (encodeUtf8 flag.toList))).isSome = false := by
    decide
  rcases hall flag h with ⟨hclass, hnone⟩
  exact ⟨hclass, Option.isNone_iff_eq_none.mp (Option.isSome_eq_false_iff.mp hnone)⟩

/-- A setting with a text is known. -/
theorem known_text {flag : String} (h : flag ∈ textFlags) (value : Text) :
    Known (encodeSetting ⟨flag.toList, some value⟩) := by
  rcases classify_valued (List.mem_append_left _ h) with ⟨hclass, hbool⟩
  refine ⟨hclass, hbool, fun values => ?_⟩
  simp only [textFlags, List.mem_cons, List.not_mem_nil, or_false] at h
  rcases h with rfl | rfl | rfl | rfl | rfl <;> rfl

/-- So is one with a number of 32 bits. -/
theorem known_number {flag : String} (h : flag ∈ numberFlags) {n : Int} (hlow : -2 ^ 31 ≤ n)
    (hhigh : n < 2 ^ 31) : Known (encodeSetting ⟨flag.toList, some (intText n)⟩) := by
  rcases classify_valued (List.mem_append_right _ h) with ⟨hclass, hbool⟩
  refine ⟨hclass, hbool, fun values => ?_⟩
  have hset : ∀ set : Int → FlagValues,
      ((parseInt (encodeUtf8 (intText n))).map set).isSome = true := by
    intro set
    rw [parseInt_intText (by omega) (by omega)]
    rfl
  simp only [numberFlags, List.mem_cons, List.not_mem_nil, or_false] at h
  rcases h with rfl | rfl | rfl | rfl | rfl <;> exact hset _

/-- So is a switch. -/
theorem known_switch {flag : String} (h : flag ∈ switchFlags) :
    Known (encodeSetting { flag := flag.toList }) := by
  have hall : ∀ flag ∈ switchFlags,
      classify (encodeUtf8 flag.toList) = .flag (flagName (encodeUtf8 flag.toList)) none ∧
        (boolFlags.lookup (flagName (encodeUtf8 flag.toList))).isSome = true := by
    decide
  exact hall flag h

/-- Every setting of an endpoint is known to the helper, which accepts its value. -/
theorem known_settings {endpoint : EndpointSpec} (h : FitsInt endpoint) (connectAddrs : List Text) :
    ∀ setting ∈ (settings endpoint connectAddrs).map encodeSetting, Known setting := by
  intro setting hsetting
  simp only [settings, List.map_append, FreebsdHelper.map_settingIf, List.mem_append,
    mem_settingIf, or_assoc] at hsetting
  rcases hsetting with ⟨-, rfl⟩ | ⟨-, rfl⟩ | ⟨-, rfl⟩ | ⟨-, rfl⟩ | ⟨-, rfl⟩ | ⟨-, rfl⟩ | ⟨-, rfl⟩ |
    ⟨-, rfl⟩ | ⟨-, rfl⟩ | ⟨-, rfl⟩ | ⟨-, rfl⟩ | ⟨-, rfl⟩ | ⟨-, rfl⟩
  all_goals first
    | refine known_switch ?_
      decide
    | refine known_text ?_ _
      decide
    | refine known_number ?_ h.readMessages.1 h.readMessages.2
      decide
    | refine known_number ?_ h.numOstreams.1 h.numOstreams.2
      decide
    | refine known_number ?_ h.maxInstreams.1 h.maxInstreams.2
      decide
    | refine known_number ?_ h.maxAttempts.1 h.maxAttempts.2
      decide
    | refine known_number ?_ h.maxInitTimeout.1 h.maxInitTimeout.2
      decide

/-- A text among the values; an empty one where the flag is missing. -/
def givenText (condition : Prop) [Decidable condition] (text : Text) : CppString :=
  if condition then encodeUtf8 text else []

/-- The values that the flags should have for an endpoint. -/
def endpointValues (endpoint : EndpointSpec) (connectAddrs : List Text) : FlagValues where
  bindAddrs := givenText (endpoint.bindAddrs ≠ []) (joinTexts ",".toList endpoint.bindAddrs)
  connectAddrs := givenText (connectAddrs ≠ []) (joinTexts ",".toList connectAddrs)
  subscribe := givenText (endpoint.subscribe ≠ []) (joinTexts ",".toList endpoint.subscribe)
  messages := givenText (endpoint.messages ≠ []) (encodeMessages endpoint.messages)
  expectFailure :=
    givenText (endpoint.expectFailure.getD [] ≠ []) (endpoint.expectFailure.getD [])
  readMessages := endpoint.readMessages
  setNoDelay := endpoint.setNodelay
  emitLocal := endpoint.emitLocalAddrs
  emitPeer := endpoint.emitPeerAddrs
  numOStreams := endpoint.initOptions.numOstreams
  maxInStreams := endpoint.initOptions.maxInstreams
  maxAttempts := endpoint.initOptions.maxAttempts
  maxInitTimeout := endpoint.initOptions.maxInitTimeout

/-- One setting after another makes the values of the endpoint. -/
theorem foldl_settings {endpoint : EndpointSpec} (h : FitsInt endpoint) (connectAddrs : List Text) :
    ((settings endpoint connectAddrs).map encodeSetting).foldl
      (fun values setting => applyFlag setting values) {} =
        endpointValues endpoint connectAddrs := by
  have hbind : ∀ v values, applyFlag (encodeSetting ⟨"--bind-addrs".toList, some v⟩) values =
    { values with bindAddrs := encodeUtf8 v } := fun _ _ => rfl
  have hconnect : ∀ v values, applyFlag (encodeSetting ⟨"--connect-addrs".toList, some v⟩) values =
    { values with connectAddrs := encodeUtf8 v } := fun _ _ => rfl
  have hsubscribe : ∀ v values, applyFlag (encodeSetting ⟨"--subscribe".toList, some v⟩) values =
    { values with subscribe := encodeUtf8 v } := fun _ _ => rfl
  have hmessages : ∀ v values, applyFlag (encodeSetting ⟨"--messages".toList, some v⟩) values =
    { values with messages := encodeUtf8 v } := fun _ _ => rfl
  have hfailure : ∀ v values,
      applyFlag (encodeSetting ⟨"--expect-failure".toList, some v⟩) values =
    { values with expectFailure := encodeUtf8 v } := fun _ _ => rfl
  have hnodelay : ∀ values, applyFlag (encodeSetting { flag := "--set-nodelay".toList }) values =
    { values with setNoDelay := true } := fun _ => rfl
  have hlocal : ∀ values,
      applyFlag (encodeSetting { flag := "--emit-local-addrs".toList }) values =
    { values with emitLocal := true } := fun _ => rfl
  have hpeer : ∀ values, applyFlag (encodeSetting { flag := "--emit-peer-addrs".toList }) values =
    { values with emitPeer := true } := fun _ => rfl
  have hnumber : ∀ (set : FlagValues → Int → FlagValues) (n : Int) (values : FlagValues),
      -2 ^ 31 ≤ n ∧ n < 2 ^ 31 →
        ((parseInt (encodeUtf8 (intText n))).map (set values)).getD values = set values n := by
    intro set n values hn
    rw [parseInt_intText (by omega) (by omega)]
    rfl
  have hread : ∀ values, applyFlag
      (encodeSetting ⟨"--read-messages".toList, some (intText endpoint.readMessages)⟩) values =
    { values with readMessages := endpoint.readMessages } := fun values =>
      hnumber (fun values n => { values with readMessages := n }) _ values h.readMessages
  have hostreams : ∀ values, applyFlag (encodeSetting
      ⟨"--init-ostreams".toList, some (intText endpoint.initOptions.numOstreams)⟩) values =
    { values with numOStreams := endpoint.initOptions.numOstreams } := fun values =>
      hnumber (fun values n => { values with numOStreams := n }) _ values h.numOstreams
  have hinstreams : ∀ values, applyFlag (encodeSetting
      ⟨"--init-instreams".toList, some (intText endpoint.initOptions.maxInstreams)⟩) values =
    { values with maxInStreams := endpoint.initOptions.maxInstreams } := fun values =>
      hnumber (fun values n => { values with maxInStreams := n }) _ values h.maxInstreams
  have hattempts : ∀ values, applyFlag (encodeSetting
      ⟨"--init-attempts".toList, some (intText endpoint.initOptions.maxAttempts)⟩) values =
    { values with maxAttempts := endpoint.initOptions.maxAttempts } := fun values =>
      hnumber (fun values n => { values with maxAttempts := n }) _ values h.maxAttempts
  have htimeout : ∀ values, applyFlag (encodeSetting
      ⟨"--init-timeout".toList, some (intText endpoint.initOptions.maxInitTimeout)⟩) values =
    { values with maxInitTimeout := endpoint.initOptions.maxInitTimeout } := fun values =>
      hnumber (fun values n => { values with maxInitTimeout := n }) _ values h.maxInitTimeout
  have hflag : ∀ flag : Bool, (if flag = true then true else false) = flag := by decide
  have hzero : ∀ (condition : Prop) [Decidable condition] (n : Int), (¬condition → n = 0) →
      (if condition then n else 0) = n := by
    intro condition _ n hn
    split
    · rfl
    · rename_i hnot
      exact (hn hnot).symm
  simp only [settings, List.map_append, FreebsdHelper.map_settingIf, List.foldl_append,
    foldl_settingIf, hbind, hconnect, hsubscribe, hread, hnodelay, hlocal, hpeer, hfailure,
    hmessages, hostreams, hinstreams, hattempts, htimeout]
  -- Every field is changed by one setting, which stands there or not.
  apply FlagValues.ext <;>
    simp only [apply_ite FlagValues.bindAddrs, apply_ite FlagValues.connectAddrs,
      apply_ite FlagValues.subscribe, apply_ite FlagValues.messages,
      apply_ite FlagValues.readMessages, apply_ite FlagValues.setNoDelay,
      apply_ite FlagValues.emitLocal, apply_ite FlagValues.emitPeer,
      apply_ite FlagValues.expectFailure, apply_ite FlagValues.numOStreams,
      apply_ite FlagValues.maxInStreams, apply_ite FlagValues.maxAttempts,
      apply_ite FlagValues.maxInitTimeout, ite_self, hflag, endpointValues, givenText]
  all_goals
    apply hzero
    intro hnot
    simp only [not_or, not_not] at hnot
    first
      | exact hnot
      | exact hnot.1
      | exact hnot.2.1
      | exact hnot.2.2.1
      | exact hnot.2.2.2

/-- What the Go helper makes of the command line of an endpoint. -/
theorem parseArgs_commandFlags {endpoint : EndpointSpec} (h : FitsInt endpoint) (mode : Text)
    {flags : List Text} (hflags : commandFlags endpoint mode = .ok flags) :
    ∃ connectAddrs, joinValues endpoint.connectAddrs = .ok connectAddrs ∧
      parseArgs (flags.map encodeUtf8) =
        (parseMessages (endpointValues endpoint connectAddrs).messages).map
          ((endpointValues endpoint connectAddrs).options (encodeUtf8 mode)) := by
  rcases FreebsdHelper.args_commandFlags hflags with ⟨connectAddrs, hjoin, hargs⟩
  refine ⟨connectAddrs, hjoin, ?_⟩
  have hparse := parse_settings (fun setting hsetting =>
    reads_known (known_settings h connectAddrs setting hsetting)) [] {}
  rw [List.append_nil, foldl_settings h] at hparse
  rw [hargs, parseArgs, hparse]
  rfl

/-! ## What both helpers are told -/

/-- An item of a list that survives both ways of splitting it. -/
structure Splittable (item : CppString) : Prop where
  ne_nil : item ≠ []
  no_comma : 44 ∉ item
  no_zero : 0 ∉ item
  trimmed : trimSpace item = item

/-- Items with commas between them are the fields for the C helper. -/
theorem fields_intercalate {items : List CppString} (h : ∀ item ∈ items, Splittable item) :
    fields 44 ([44].intercalate items) = items := by
  rcases List.eq_nil_or_concat' items with rfl | ⟨front, last, rfl⟩
  · rfl
  · have hlast := h last (by simp)
    have hfront : ∀ item ∈ front, Splittable item := fun item hitem => h item (by simp [hitem])
    rw [intercalate_concat, fields_terminated (fun item hitem => (hfront item hitem).ne_nil)
      (fun item hitem => (hfront item hitem).no_comma), fields_whole hlast.ne_nil hlast.no_comma]

/-- They are the items for the Go helper, too. -/
theorem splitCSV_intercalate {items : List CppString} (h : ∀ item ∈ items, Splittable item) :
    splitCSV ([44].intercalate items) = items := by
  have hfields := fields_intercalate h
  rw [splitCSV_eq, hfields]
  · exact List.map_congr_left (fun item hitem => (h item hitem).trimmed) |>.trans (List.map_id items)
  · intro item hitem
    rw [hfields] at hitem
    rw [(h item hitem).trimmed]
    exact (h item hitem).ne_nil

/-- There is no NUL among such items. -/
theorem zero_not_mem_intercalate {items : List CppString} (h : ∀ item ∈ items, (0 : UInt8) ∉ item) :
    (0 : UInt8) ∉ [(44 : UInt8)].intercalate items := by
  induction items with
  | nil => simp
  | cons item items ih =>
      have hrest := ih fun item hitem => h item (List.mem_cons_of_mem _ hitem)
      have hitem := h item List.mem_cons_self
      cases items with
      | nil => simpa using hitem
      | cons next items =>
          rw [List.intercalate_cons_cons]
          simp [hitem, hrest]

/-- The list that `split_csv` makes of the copy of an argument. -/
theorem splitCsv_intercalate {items : List CppString} (h : ∀ item ∈ items, Splittable item)
    {size : Nat} (hlength : ([(44 : UInt8)].intercalate items).length ≤ size - 1) :
    splitCsv (strlcpy size ([44].intercalate items)) = items := by
  rw [FreebsdHelper.strlcpy_of_fits
    (zero_not_mem_intercalate fun item hitem => (h item hitem).no_zero) hlength,
    FreebsdHelper.splitCsv_eq, fields_intercalate h]

/-- A number of 63 bits is read back. -/
theorem atoi_decimal {n : Nat} (hn : n < 2 ^ 63) : atoi (decimal n) = some (n : Int) := by
  have hsplit := splitSign_decimalInt (n : Int)
  have hdecimal : decimalInt (n : Int) = decimal n := by
    rw [decimalInt, if_neg (by omega)]
    rfl
  rw [hdecimal] at hsplit
  have hdigits : (decimal n).all isDigit = true := List.all_eq_true.mpr (decimal_digits n)
  unfold atoi
  simp only [hsplit, Int.natAbs_natCast, decimal_ne_nil, hdigits, natOfDigits_decimal,
    not_true_eq_false, or_self, if_false, decide_eq_true_eq]
  rw [if_neg (show ¬(n : Int) < 0 by omega), if_pos (by omega)]

/-- A message is read back. -/
theorem parseMessage_item {message : Runner.MessageSpec}
    (h : FreebsdHelper.Sendable message) :
    parseMessage (FreebsdHelper.item message) = some (asGiven message) := by
  have hcolon : ∀ n, (58 : UInt8) ∉ decimal n := fun n =>
    FreebsdHelper.not_digit_of_mem_decimal (by decide)
  have hparts : FreebsdHelper.item message = [(58 : UInt8)].intercalate
      [encodeUtf8 message.payload, decimal message.stream.toNat, decimal message.ppid.toNat] := by
    simp [FreebsdHelper.item]
  have hsplit : (FreebsdHelper.item message).splitOn 58 =
      [encodeUtf8 message.payload, decimal message.stream.toNat, decimal message.ppid.toNat] := by
    rw [hparts]
    refine List.splitOn_intercalate 58 ?_ (by simp)
    intro part hpart
    simp only [List.mem_cons, List.not_mem_nil, or_false] at hpart
    rcases hpart with rfl | rfl | rfl
    · exact (FreebsdHelper.parse_payload h).1
    · exact hcolon _
    · exact hcolon _
  have hstream := h.stream
  have hppid := h.ppid
  unfold parseMessage
  rw [hsplit]
  dsimp only
  rw [atoi_decimal (by omega), atoi_decimal (by omega)]
  dsimp only
  rw [asGiven]
  congr 2
  · omega
  · omega

/-- What the two helpers have when both have been told what the scenario says: each of them has
the mode, the lists, the messages, the switches and the numbers of the endpoint.  The C helper
keeps its INIT options in 16 bits. -/
structure ToldAlike (endpoint : EndpointSpec) (connectAddrs : List Text)
    (mode : Text) (opts : FreebsdHelper.Options) (goOpts : HelperOptions) : Prop where
  mode : opts.mode = encodeUtf8 mode ∧ goOpts.mode = encodeUtf8 mode
  bindAddrs : splitCsv (strlcpy 256 (opts.bindAddrs.getD [])) = endpoint.bindAddrs.map encodeUtf8 ∧
    goOpts.bindAddrs = endpoint.bindAddrs.map encodeUtf8
  connectAddrs : splitCsv (strlcpy 256 (opts.connectAddrs.getD [])) =
      connectAddrs.map encodeUtf8 ∧
    goOpts.connectAddrs = connectAddrs.map encodeUtf8
  subscribe : splitCsv (strlcpy 256 (opts.subscribe.getD [])) = endpoint.subscribe.map encodeUtf8 ∧
    goOpts.subscribe = endpoint.subscribe.map encodeUtf8
  messages : clientMessages (opts.messages.getD []) = some (endpoint.messages.map asGiven) ∧
    goOpts.messages = endpoint.messages.map asGiven
  expectFailure : opts.expectFailure.getD [] = encodeUtf8 (endpoint.expectFailure.getD []) ∧
    goOpts.expectFailure = encodeUtf8 (endpoint.expectFailure.getD [])
  readMessages : opts.readMessages = endpoint.readMessages ∧
    goOpts.readMessages = endpoint.readMessages
  setNodelay : opts.setNodelay = endpoint.setNodelay ∧ goOpts.setNoDelay = endpoint.setNodelay
  emitLocalAddrs : opts.emitLocalAddrs = endpoint.emitLocalAddrs ∧
    goOpts.emitLocal = endpoint.emitLocalAddrs
  emitPeerAddrs : opts.emitPeerAddrs = endpoint.emitPeerAddrs ∧
    goOpts.emitPeer = endpoint.emitPeerAddrs
  numOstreams : opts.initmsg.numOstreams = uint16 endpoint.initOptions.numOstreams ∧
    goOpts.init.numOStreams = endpoint.initOptions.numOstreams
  maxInstreams : opts.initmsg.maxInstreams = uint16 endpoint.initOptions.maxInstreams ∧
    goOpts.init.maxInStreams = endpoint.initOptions.maxInstreams
  maxAttempts : opts.initmsg.maxAttempts = uint16 endpoint.initOptions.maxAttempts ∧
    goOpts.init.maxAttempts = endpoint.initOptions.maxAttempts
  maxInitTimeout : opts.initmsg.maxInitTimeo = uint16 endpoint.initOptions.maxInitTimeout ∧
    goOpts.init.maxInitTimeout = endpoint.initOptions.maxInitTimeout

/-- A list that a command line carries: items that survive splitting, in the room that
`run_server` and `run_client` have for the copy. -/
structure CarriedList (items : List Text) : Prop where
  splittable : ∀ item ∈ items, Splittable (encodeUtf8 item)
  room : (encodeUtf8 (joinTexts ",".toList items)).length ≤ 255

/-- An endpoint that a command line carries. -/
structure CarriedEndpoint (endpoint : EndpointSpec) (connectAddrs : List Text) : Prop where
  fits : FitsInt endpoint
  bindAddrs : CarriedList endpoint.bindAddrs
  connectAddrs : CarriedList connectAddrs
  subscribe : CarriedList endpoint.subscribe
  sendable : ∀ message ∈ endpoint.messages, FreebsdHelper.Sendable message
  trimmed : ∀ message ∈ endpoint.messages,
    trimSpace (FreebsdHelper.item message) = FreebsdHelper.item message
  messageCount : endpoint.messages.length ≤ FreebsdHelper.maxMessages
  messageRoom : (encodeUtf8 (encodeMessages endpoint.messages)).length ≤ 511

/-- Both helpers split a list alike. -/
theorem CarriedList.split {items : List Text} (h : CarriedList items) :
    splitCsv (strlcpy 256 ((FreebsdHelper.given (items ≠ []) (joinTexts ",".toList items)).getD
      [])) = items.map encodeUtf8 ∧
    splitCSV (givenText (items ≠ []) (joinTexts ",".toList items)) = items.map encodeUtf8 := by
  by_cases hitems : items = []
  · subst hitems
    exact ⟨by decide, by decide⟩
  · have hcomma : encodeUtf8 ",".toList = [44] := by decide
    have hbytes : encodeUtf8 (joinTexts ",".toList items) =
        [44].intercalate (items.map encodeUtf8) := by
      rw [joinTexts, FreebsdHelper.encodeUtf8_intercalate, hcomma]
    have hall : ∀ item ∈ items.map encodeUtf8, Splittable item := by
      intro item hitem
      rcases List.mem_map.mp hitem with ⟨text, htext, rfl⟩
      exact h.splittable text htext
    have hroom := h.room
    rw [hbytes] at hroom
    rw [FreebsdHelper.given, if_pos hitems, givenText, if_pos hitems, hbytes]
    exact ⟨splitCsv_intercalate hall hroom, splitCSV_intercalate hall⟩

/-- Both helpers read the messages of the scenario. -/
theorem CarriedEndpoint.messages_read {endpoint : EndpointSpec} {connectAddrs : List Text}
    (h : CarriedEndpoint endpoint connectAddrs) :
    clientMessages ((endpointOptions endpoint connectAddrs []).messages.getD []) =
        some (endpoint.messages.map asGiven) ∧
      parseMessages (endpointValues endpoint connectAddrs).messages =
        some (endpoint.messages.map asGiven) := by
  by_cases hmessages : endpoint.messages = []
  · simp only [endpointOptions, FreebsdHelper.given, endpointValues, givenText, hmessages]
    exact ⟨by decide, by decide⟩
  · simp only [endpointOptions, FreebsdHelper.given, endpointValues, givenText, ne_eq, hmessages,
      not_false_eq_true, if_true, Option.getD_some]
    constructor
    · rcases List.eq_nil_or_concat' endpoint.messages with hnil | ⟨front, last, hconcat⟩
      · contradiction
      · have hcount := h.messageCount
        have hroom := h.messageRoom
        have hsendable := h.sendable
        rw [hconcat] at hcount hroom hsendable ⊢
        rw [List.length_append, List.length_singleton] at hcount
        refine (FreebsdHelper.clientMessages_concat_iff ?_ ?_ hcount).mpr (Or.inl hroom)
        · exact fun message hm => hsendable message (List.mem_append_left [last] hm)
        · exact hsendable last (List.mem_append_right front List.mem_cons_self)
    · have hbytes := FreebsdHelper.encodeUtf8_encodeMessages
        (fun message hmessage => (h.sendable message hmessage).stream.1)
        fun message hmessage => (h.sendable message hmessage).ppid.1
      have hall : ∀ item ∈ endpoint.messages.map FreebsdHelper.item, Splittable item := by
        intro item hitem
        rcases List.mem_map.mp hitem with ⟨message, hmessage, rfl⟩
        have hsendable := h.sendable message hmessage
        exact {
          ne_nil := FreebsdHelper.item_ne_nil message
          no_comma := FreebsdHelper.item_free hsendable (Or.inl rfl)
          no_zero := FreebsdHelper.item_free hsendable (Or.inr rfl)
          trimmed := h.trimmed message hmessage }
      rw [parseMessages_eq, hbytes, splitCSV_intercalate hall, readAll_eq_some_iff,
        List.forall₂_map_left_iff, List.forall₂_map_right_iff, List.forall₂_same]
      exact fun message hmessage => parseMessage_item (h.sendable message hmessage)

/-- Both helpers are told what the scenario says: the C helper, with its buffers and
`strtok`, and the Go helper, with its flags and `strings.Split`, get the same addresses,
events, messages and numbers out of the same command line. -/
theorem helpers_told_alike {endpoint : EndpointSpec} {mode : Text} {flags : List Text}
    (hflags : commandFlags endpoint mode = .ok flags) {connectAddrs : List Text}
    (hjoin : joinValues endpoint.connectAddrs = .ok connectAddrs)
    (h : CarriedEndpoint endpoint connectAddrs) :
    ∃ opts goOpts, parseOptions (flags.map encodeUtf8) = some opts ∧
      parseArgs (flags.map encodeUtf8) = some goOpts ∧
      ToldAlike endpoint connectAddrs mode opts goOpts := by
  rcases FreebsdHelper.parseOptions_commandFlags h.fits mode hflags with ⟨addrs, haddrs, hopts⟩
  rcases parseArgs_commandFlags h.fits mode hflags with ⟨goAddrs, hgoAddrs, hgoOpts⟩
  cases hjoin.symm.trans haddrs
  cases hjoin.symm.trans hgoAddrs
  rcases h.messages_read with ⟨hmessages, hgoMessages⟩
  rw [hgoMessages] at hgoOpts
  refine ⟨_, _, hopts, hgoOpts, ?_⟩
  exact {
    mode := ⟨rfl, rfl⟩
    bindAddrs := h.bindAddrs.split
    connectAddrs := h.connectAddrs.split
    subscribe := h.subscribe.split
    messages := ⟨hmessages, rfl⟩
    expectFailure := by
      simp only [endpointOptions, FreebsdHelper.given, endpointValues, givenText,
        FlagValues.options]
      split
      · exact ⟨rfl, rfl⟩
      · rename_i hnone
        rw [not_not.mp hnone]
        exact ⟨rfl, rfl⟩
    readMessages := ⟨rfl, rfl⟩
    setNodelay := ⟨rfl, rfl⟩
    emitLocalAddrs := ⟨rfl, rfl⟩
    emitPeerAddrs := ⟨rfl, rfl⟩
    numOstreams := ⟨rfl, rfl⟩
    maxInstreams := ⟨rfl, rfl⟩
    maxAttempts := ⟨rfl, rfl⟩
    maxInitTimeout := ⟨rfl, rfl⟩ }

/-- The client of the scenario with two addresses, with a message that has a space in it. -/
def twoAddresses : EndpointSpec where
  connectAddrs := [.str "127.0.0.1:9899".toList, .str "127.0.0.2:9899".toList]
  subscribe := ["association".toList, "dataio".toList]
  setNodelay := true
  emitPeerAddrs := true
  messages := [⟨"multi home".toList, 6, 606⟩, ⟨"two".toList, 65535, 4294967295⟩]
  initOptions := { numOstreams := 8, maxInstreams := 8 }

theorem helpers_told_alike_twoAddresses : ∃ flags opts goOpts,
    commandFlags twoAddresses "client".toList = .ok flags ∧
      parseOptions (flags.map encodeUtf8) = some opts ∧
      parseArgs (flags.map encodeUtf8) = some goOpts ∧
      ToldAlike twoAddresses ["127.0.0.1:9899".toList, "127.0.0.2:9899".toList] "client".toList
        opts goOpts := by
  have hlist : ∀ items : List Text, (∀ item ∈ items, encodeUtf8 item ≠ [] ∧
      44 ∉ encodeUtf8 item ∧ 0 ∉ encodeUtf8 item ∧
        trimSpace (encodeUtf8 item) = encodeUtf8 item) →
      (encodeUtf8 (joinTexts ",".toList items)).length ≤ 255 → CarriedList items := by
    intro items hitems hroom
    refine ⟨fun item hitem => ?_, hroom⟩
    rcases hitems item hitem with ⟨hne, hcomma, hzero, htrimmed⟩
    exact ⟨hne, hcomma, hzero, htrimmed⟩
  have hsendable : ∀ message ∈ twoAddresses.messages, FreebsdHelper.Sendable message := by
    intro message hmessage
    simp only [twoAddresses, List.mem_cons, List.not_mem_nil, or_false] at hmessage
    rcases hmessage with rfl | rfl
    · exact ⟨by decide, by decide, by decide, by decide⟩
    · exact ⟨by decide, by decide, by decide, by decide⟩
  have hcarried : CarriedEndpoint twoAddresses
      ["127.0.0.1:9899".toList, "127.0.0.2:9899".toList] := {
    fits := ⟨by decide, by decide, by decide, by decide, by decide⟩
    bindAddrs := hlist _ (by decide) (by decide)
    connectAddrs := hlist _ (by decide) (by decide)
    subscribe := hlist _ (by decide) (by decide)
    sendable := hsendable
    trimmed := by decide
    messageCount := by decide
    messageRoom := by decide }
  have hflags := FreebsdHelper.commandFlags_eq twoAddresses "client".toList
  rcases helpers_told_alike hflags rfl hcarried with ⟨opts, goOpts, hopts, hgoOpts, halike⟩
  exact ⟨_, opts, goOpts, hflags, hopts, hgoOpts, halike⟩

end SctpConformance.GoHelper
