import SctpConformance.Library.CommandLine
import SctpConformance.Helpers.Addresses
import SctpConformance.Helpers.ClientMessages

/-!
# The command line of the C helper

`parse_options` of `adapters/freebsd_c/helper.c`, and the command line that the runner makes
of an endpoint of a scenario.

Main results:

- Definition `parseOptions`: the options of a command line.
- Theorem `commandFlags_eq`: the command line of an endpoint is a list of settings.
- Theorem `parseOptions_commandFlags`: the helper gets the options that the endpoint has.
-/

namespace SctpConformance.FreebsdHelper

open Library
open Runner (EndpointSpec Text commandFlags encodeMessages encodeUtf8 encodeUtf8_append flagIf
  intText joinTexts joinValues)

/-! ## The parser -/

/-- `struct sctp_initmsg` -/
@[ext]
structure SctpInitmsg where
  numOstreams : Nat := 0
  maxInstreams : Nat := 0
  maxAttempts : Nat := 0
  maxInitTimeo : Nat := 0
deriving DecidableEq

/-- `struct options` -/
@[ext]
structure Options where
  mode : CppString
  bindAddrs : Option CppString := none
  connectAddrs : Option CppString := none
  subscribe : Option CppString := none
  messages : Option CppString := none
  expectFailure : Option CppString := none
  readMessages : Int := 0
  setNodelay : Bool := false
  emitLocalAddrs : Bool := false
  emitPeerAddrs : Bool := false
  initmsg : SctpInitmsg := {}
deriving DecidableEq

/-- `atoi`, for an `int` of 32 bits. -/
def atoi (text : CppString) : Int :=
  (strtol text).bmod (2 ^ 32)

/-- The conversion of an `int` to `uint16_t`. -/
def uint16 (n : Int) : Nat :=
  (n % 2 ^ 16).toNat

/-- The options with a value. -/
def valueOptions : List (CppString × (Options → CppString → Options)) := [
  (str "--bind-addrs", fun opts value => { opts with bindAddrs := some value }),
  (str "--connect-addrs", fun opts value => { opts with connectAddrs := some value }),
  (str "--subscribe", fun opts value => { opts with subscribe := some value }),
  (str "--messages", fun opts value => { opts with messages := some value }),
  (str "--expect-failure", fun opts value => { opts with expectFailure := some value }),
  (str "--read-messages", fun opts value => { opts with readMessages := atoi value }),
  (str "--init-ostreams", fun opts value =>
    { opts with initmsg := { opts.initmsg with numOstreams := uint16 (atoi value) } }),
  (str "--init-instreams", fun opts value =>
    { opts with initmsg := { opts.initmsg with maxInstreams := uint16 (atoi value) } }),
  (str "--init-attempts", fun opts value =>
    { opts with initmsg := { opts.initmsg with maxAttempts := uint16 (atoi value) } }),
  (str "--init-timeout", fun opts value =>
    { opts with initmsg := { opts.initmsg with maxInitTimeo := uint16 (atoi value) } })]

/-- The options without a value. -/
def switches : List (CppString × (Options → Options)) := [
  (str "--set-nodelay", fun opts => { opts with setNodelay := true }),
  (str "--emit-local-addrs", fun opts => { opts with emitLocalAddrs := true }),
  (str "--emit-peer-addrs", fun opts => { opts with emitPeerAddrs := true })]

/-- The loop of `parse_options`. -/
def parseArguments : List CppString → Options → Option Options
  | [], opts => some opts
  | arg :: rest, opts =>
      match valueOptions.lookup arg with
      | some set =>
          match rest with
          | value :: rest => parseArguments rest (set opts value)
          | [] => none
      | none =>
          match switches.lookup arg with
          | some set => parseArguments rest (set opts)
          | none => none

/-- `parse_options`, for the arguments behind the name of the program. -/
def parseOptions : List CppString → Option Options
  | [] => none
  | mode :: args => parseArguments args { mode := mode }

/-! ## Numbers -/

/-- A number is written in decimal. -/
theorem encodeUtf8_intText_eq (n : Int) : encodeUtf8 (intText n) = decimalInt n := by
  cases n with
  | ofNat n => exact encodeUtf8_intText (Int.natCast_nonneg n)
  | negSucc n =>
      have hrepr := str_ofList ("-".toList ++ (Nat.repr (n + 1)).toList)
      have hdecimal := str_ofList (Nat.repr (n + 1)).toList
      rw [String.ofList_toList] at hdecimal
      have htext : intText (Int.negSucc n) = "-".toList ++ (Nat.repr (n + 1)).toList := by
        simp [intText, Int.repr]
      have hminus : encodeUtf8 "-".toList = [45] := by decide
      rw [htext, encodeUtf8_append, hminus, decimalInt, if_pos (Int.negSucc_lt_zero n)]
      exact congrArg ([45] ++ ·) hdecimal.symm

/-- A number of 64 bits is read back. -/
theorem strtol_decimalInt {n : Int} (hlow : -2 ^ 63 ≤ n) (hhigh : n < 2 ^ 63) :
    strtol (decimalInt n) = n := by
  have hdigits := decimal_digits n.natAbs
  by_cases hn : n < 0
  · have htake : (decimal n.natAbs).takeWhile isDigit = decimal n.natAbs :=
      List.takeWhile_eq_self_iff.mpr hdigits
    have hspace : isSpace 45 = false := by decide
    simp only [decimalInt, if_pos hn, strtol, List.singleton_append, List.dropWhile_cons, hspace,
      splitSign, htake, natOfDigits_decimal, if_true, Bool.false_eq_true, if_false]
    rw [if_neg (by omega), if_neg (by omega)]
    omega
  · have hdecimal : IsDecimal (decimal n.natAbs) := ⟨decimal_ne_nil _, hdigits⟩
    rw [decimalInt, if_neg hn, strtol_decimal hdecimal, natOfDigits_decimal, if_neg (by omega)]
    omega

/-- A number of 32 bits is read back. -/
theorem atoi_intText {n : Int} (hlow : -2 ^ 31 ≤ n) (hhigh : n < 2 ^ 31) :
    atoi (encodeUtf8 (intText n)) = n := by
  rw [encodeUtf8_intText_eq, atoi, strtol_decimalInt (by omega) (by omega)]
  exact Int.bmod_eq_of_le (by omega) (by omega)

/-! ## The command line of an endpoint -/

/-- The settings of an endpoint whose addresses to connect to are texts. -/
def settings (endpoint : EndpointSpec) (connectAddrs : List Text) : List (Setting Text) :=
  let init := endpoint.initOptions
  let anyInit := init.numOstreams ≠ 0 ∨ init.maxInstreams ≠ 0 ∨ init.maxAttempts ≠ 0 ∨
    init.maxInitTimeout ≠ 0
  settingIf (endpoint.bindAddrs ≠ [])
      ⟨"--bind-addrs".toList, some (joinTexts ",".toList endpoint.bindAddrs)⟩ ++
    settingIf (connectAddrs ≠ [])
      ⟨"--connect-addrs".toList, some (joinTexts ",".toList connectAddrs)⟩ ++
    settingIf (endpoint.subscribe ≠ [])
      ⟨"--subscribe".toList, some (joinTexts ",".toList endpoint.subscribe)⟩ ++
    settingIf (endpoint.readMessages ≠ 0)
      ⟨"--read-messages".toList, some (intText endpoint.readMessages)⟩ ++
    settingIf endpoint.setNodelay { flag := "--set-nodelay".toList } ++
    settingIf endpoint.emitLocalAddrs { flag := "--emit-local-addrs".toList } ++
    settingIf endpoint.emitPeerAddrs { flag := "--emit-peer-addrs".toList } ++
    settingIf (endpoint.expectFailure.getD [] ≠ [])
      ⟨"--expect-failure".toList, some (endpoint.expectFailure.getD [])⟩ ++
    settingIf (endpoint.messages ≠ [])
      ⟨"--messages".toList, some (encodeMessages endpoint.messages)⟩ ++
    settingIf anyInit ⟨"--init-ostreams".toList, some (intText init.numOstreams)⟩ ++
    settingIf anyInit ⟨"--init-instreams".toList, some (intText init.maxInstreams)⟩ ++
    settingIf anyInit ⟨"--init-attempts".toList, some (intText init.maxAttempts)⟩ ++
    settingIf anyInit ⟨"--init-timeout".toList, some (intText init.maxInitTimeout)⟩

/-- The arguments of a setting under a condition. -/
theorem flatMap_settingIf (condition : Prop) [Decidable condition] (setting : Setting Text) :
    (settingIf condition setting).flatMap Setting.args =
      if condition then setting.args else [] := by
  unfold settingIf
  split <;> simp

/-- A flag under a condition is such a setting. -/
theorem flagIf_decide (condition : Prop) [Decidable condition] (flag : String) (value : Text) :
    flagIf condition flag value =
      (settingIf condition ⟨flag.toList, some value⟩).flatMap Setting.args := by
  rw [flatMap_settingIf, flagIf]
  simp only [decide_eq_true_eq]
  rfl

/-- So is the flag of a list that is not empty. -/
theorem flagIf_isEmpty {α : Type} (items : List α) (flag : String) (value : Text) :
    flagIf (!items.isEmpty) flag value =
      (settingIf (items ≠ []) ⟨flag.toList, some value⟩).flatMap Setting.args := by
  cases items <;> rfl

/-- So is a switch. -/
theorem switch_eq (condition : Bool) (flag : String) :
    (if condition then [flag.toList] else []) =
      (settingIf (condition = true) { flag := flag.toList }).flatMap Setting.args := by
  rw [flatMap_settingIf]
  rfl

/-- The command line of an endpoint is a list of settings. -/
theorem commandFlags_eq (endpoint : EndpointSpec) (mode : Text) :
    commandFlags endpoint mode = (joinValues endpoint.connectAddrs).map fun connectAddrs =>
      mode :: (settings endpoint connectAddrs).flatMap Setting.args := by
  unfold commandFlags settings
  cases joinValues endpoint.connectAddrs with
  | error exception => rfl
  | ok connectAddrs =>
      have hinit : ∀ (condition : Prop) [Decidable condition] (a b c d : Text)
          (i j k l : Text), (if condition then [a, i, b, j, c, k, d, l] else []) =
            (settingIf condition ⟨a, some i⟩).flatMap Setting.args ++
              (settingIf condition ⟨b, some j⟩).flatMap Setting.args ++
              (settingIf condition ⟨c, some k⟩).flatMap Setting.args ++
              (settingIf condition ⟨d, some l⟩).flatMap Setting.args := by
        intro condition _ a b c d i j k l
        simp only [flatMap_settingIf]
        split <;> rfl
      simp only [List.flatMap_append, flagIf_isEmpty, flagIf_decide, switch_eq, hinit,
        Except.map, List.append_assoc, List.singleton_append]
      rfl

/-! ## What the helper is told -/

/-- A text among the options. -/
def given (condition : Prop) [Decidable condition] (text : Text) : Option CppString :=
  if condition then some (encodeUtf8 text) else none

/-- The options that the helper should have for an endpoint. -/
def endpointOptions (endpoint : EndpointSpec) (connectAddrs : List Text) (mode : Text) :
    Options where
  mode := encodeUtf8 mode
  bindAddrs := given (endpoint.bindAddrs ≠ []) (joinTexts ",".toList endpoint.bindAddrs)
  connectAddrs := given (connectAddrs ≠ []) (joinTexts ",".toList connectAddrs)
  subscribe := given (endpoint.subscribe ≠ []) (joinTexts ",".toList endpoint.subscribe)
  messages := given (endpoint.messages ≠ []) (encodeMessages endpoint.messages)
  expectFailure := given (endpoint.expectFailure.getD [] ≠ []) (endpoint.expectFailure.getD [])
  readMessages := endpoint.readMessages
  setNodelay := endpoint.setNodelay
  emitLocalAddrs := endpoint.emitLocalAddrs
  emitPeerAddrs := endpoint.emitPeerAddrs
  initmsg := {
    numOstreams := uint16 endpoint.initOptions.numOstreams
    maxInstreams := uint16 endpoint.initOptions.maxInstreams
    maxAttempts := uint16 endpoint.initOptions.maxAttempts
    maxInitTimeo := uint16 endpoint.initOptions.maxInitTimeout }

/-- What a setting does to the options. -/
def applySetting (setting : Setting CppString) (opts : Options) : Options :=
  match setting.value with
  | some value =>
      match valueOptions.lookup setting.flag with
      | some set => set opts value
      | none => opts
  | none =>
      match switches.lookup setting.flag with
      | some set => set opts
      | none => opts

/-- The bytes of a setting. -/
def encodeSetting (setting : Setting Text) : Setting CppString where
  flag := encodeUtf8 setting.flag
  value := setting.value.map encodeUtf8

/-- A setting that the helper knows. -/
def Known (setting : Setting CppString) : Prop :=
  match setting.value with
  | some _ => (valueOptions.lookup setting.flag).isSome = true
  | none => valueOptions.lookup setting.flag = none ∧ (switches.lookup setting.flag).isSome = true

/-- The parser reads a known setting. -/
theorem reads_known {setting : Setting CppString} (h : Known setting) :
    Reads parseArguments setting (applySetting setting) := by
  intro rest opts
  rcases setting with ⟨flag, value⟩
  cases value with
  | some value =>
      rcases Option.isSome_iff_exists.mp h with ⟨set, hset⟩
      simp [Setting.args, parseArguments, applySetting, hset]
  | none =>
      rcases Option.isSome_iff_exists.mp h.2 with ⟨set, hset⟩
      simp [Setting.args, parseArguments, applySetting, h.1, hset]

/-- A setting under a condition is encoded as one. -/
theorem map_settingIf (condition : Prop) [Decidable condition] (setting : Setting Text) :
    (settingIf condition setting).map encodeSetting =
      settingIf condition (encodeSetting setting) := by
  unfold settingIf
  split <;> rfl

/-- Every setting of an endpoint is known to the helper. -/
theorem known_settings (endpoint : EndpointSpec) (connectAddrs : List Text) :
    ∀ setting ∈ (settings endpoint connectAddrs).map encodeSetting, Known setting := by
  have hvalue : ∀ flag ∈ ["--bind-addrs", "--connect-addrs", "--subscribe", "--read-messages",
      "--expect-failure", "--messages", "--init-ostreams", "--init-instreams", "--init-attempts",
      "--init-timeout"], (valueOptions.lookup (encodeUtf8 flag.toList)).isSome = true := by
    decide
  have hswitch : ∀ flag ∈ ["--set-nodelay", "--emit-local-addrs", "--emit-peer-addrs"],
      (valueOptions.lookup (encodeUtf8 flag.toList)).isSome = false ∧
        (switches.lookup (encodeUtf8 flag.toList)).isSome = true := by
    decide
  have hvalued : ∀ (flag : String) (value : Text), flag ∈ ["--bind-addrs", "--connect-addrs",
      "--subscribe", "--read-messages", "--expect-failure", "--messages", "--init-ostreams",
      "--init-instreams", "--init-attempts", "--init-timeout"] →
        Known (encodeSetting ⟨flag.toList, some value⟩) :=
    fun flag value hflag => hvalue flag hflag
  have hplain : ∀ flag ∈ ["--set-nodelay", "--emit-local-addrs", "--emit-peer-addrs"],
      Known (encodeSetting { flag := flag.toList }) := by
    intro flag hflag
    exact ⟨Option.isSome_eq_false_iff.mp (hswitch flag hflag).1 |> Option.isNone_iff_eq_none.mp,
      (hswitch flag hflag).2⟩
  intro setting hsetting
  simp only [settings, List.map_append, map_settingIf, List.mem_append, mem_settingIf,
    or_assoc] at hsetting
  rcases hsetting with ⟨-, rfl⟩ | ⟨-, rfl⟩ | ⟨-, rfl⟩ | ⟨-, rfl⟩ | ⟨-, rfl⟩ | ⟨-, rfl⟩ | ⟨-, rfl⟩ |
    ⟨-, rfl⟩ | ⟨-, rfl⟩ | ⟨-, rfl⟩ | ⟨-, rfl⟩ | ⟨-, rfl⟩ | ⟨-, rfl⟩
  all_goals first
    | exact hplain _ (by simp)
    | exact hvalued _ _ (by simp)

/-- The numbers of an endpoint fit into an `int`. -/
structure FitsInt (endpoint : EndpointSpec) : Prop where
  readMessages : -2 ^ 31 ≤ endpoint.readMessages ∧ endpoint.readMessages < 2 ^ 31
  numOstreams : -2 ^ 31 ≤ endpoint.initOptions.numOstreams ∧
    endpoint.initOptions.numOstreams < 2 ^ 31
  maxInstreams : -2 ^ 31 ≤ endpoint.initOptions.maxInstreams ∧
    endpoint.initOptions.maxInstreams < 2 ^ 31
  maxAttempts : -2 ^ 31 ≤ endpoint.initOptions.maxAttempts ∧
    endpoint.initOptions.maxAttempts < 2 ^ 31
  maxInitTimeout : -2 ^ 31 ≤ endpoint.initOptions.maxInitTimeout ∧
    endpoint.initOptions.maxInitTimeout < 2 ^ 31

/-- One setting after another makes the options of the endpoint. -/
theorem foldl_settings {endpoint : EndpointSpec} (h : FitsInt endpoint) (connectAddrs : List Text)
    (mode : Text) :
    ((settings endpoint connectAddrs).map encodeSetting).foldl
      (fun opts setting => applySetting setting opts) { mode := encodeUtf8 mode } =
        endpointOptions endpoint connectAddrs mode := by
  have hbind : ∀ v opts, applySetting (encodeSetting ⟨"--bind-addrs".toList, some v⟩) opts =
    { opts with bindAddrs := some (encodeUtf8 v) } := fun _ _ => rfl
  have hconnect : ∀ v opts, applySetting (encodeSetting ⟨"--connect-addrs".toList, some v⟩) opts =
    { opts with connectAddrs := some (encodeUtf8 v) } := fun _ _ => rfl
  have hsubscribe : ∀ v opts, applySetting (encodeSetting ⟨"--subscribe".toList, some v⟩) opts =
    { opts with subscribe := some (encodeUtf8 v) } := fun _ _ => rfl
  have hread : ∀ v opts, applySetting (encodeSetting ⟨"--read-messages".toList, some v⟩) opts =
    { opts with readMessages := atoi (encodeUtf8 v) } := fun _ _ => rfl
  have hnodelay : ∀ opts, applySetting (encodeSetting { flag := "--set-nodelay".toList }) opts =
    { opts with setNodelay := true } := fun _ => rfl
  have hlocal : ∀ opts, applySetting (encodeSetting { flag := "--emit-local-addrs".toList }) opts =
    { opts with emitLocalAddrs := true } := fun _ => rfl
  have hpeer : ∀ opts, applySetting (encodeSetting { flag := "--emit-peer-addrs".toList }) opts =
    { opts with emitPeerAddrs := true } := fun _ => rfl
  have hfailure : ∀ v opts, applySetting (encodeSetting ⟨"--expect-failure".toList, some v⟩) opts =
    { opts with expectFailure := some (encodeUtf8 v) } := fun _ _ => rfl
  have hmessages : ∀ v opts, applySetting (encodeSetting ⟨"--messages".toList, some v⟩) opts =
    { opts with messages := some (encodeUtf8 v) } := fun _ _ => rfl
  have hostreams : ∀ v opts, applySetting (encodeSetting ⟨"--init-ostreams".toList, some v⟩) opts =
    { opts with initmsg := { opts.initmsg with numOstreams := uint16 (atoi (encodeUtf8 v)) } } :=
      fun _ _ => rfl
  have hinstreams : ∀ v opts,
      applySetting (encodeSetting ⟨"--init-instreams".toList, some v⟩) opts =
    { opts with initmsg := { opts.initmsg with maxInstreams := uint16 (atoi (encodeUtf8 v)) } } :=
      fun _ _ => rfl
  have hattempts : ∀ v opts, applySetting (encodeSetting ⟨"--init-attempts".toList, some v⟩) opts =
    { opts with initmsg := { opts.initmsg with maxAttempts := uint16 (atoi (encodeUtf8 v)) } } :=
      fun _ _ => rfl
  have htimeout : ∀ v opts, applySetting (encodeSetting ⟨"--init-timeout".toList, some v⟩) opts =
    { opts with initmsg := { opts.initmsg with maxInitTimeo := uint16 (atoi (encodeUtf8 v)) } } :=
      fun _ _ => rfl
  simp only [settings, List.map_append, map_settingIf, List.foldl_append, foldl_settingIf, hbind,
    hconnect, hsubscribe, hread, hnodelay, hlocal, hpeer, hfailure, hmessages, hostreams,
    hinstreams, hattempts, htimeout,
    atoi_intText h.readMessages.1 h.readMessages.2, atoi_intText h.numOstreams.1 h.numOstreams.2,
    atoi_intText h.maxInstreams.1 h.maxInstreams.2, atoi_intText h.maxAttempts.1 h.maxAttempts.2,
    atoi_intText h.maxInitTimeout.1 h.maxInitTimeout.2]
  have hflag : ∀ flag : Bool, (if flag = true then true else false) = flag := by decide
  -- Every field is changed by settings of its own, which stand there together or not at all.
  apply Options.ext <;>
    simp only [apply_ite Options.mode, apply_ite Options.bindAddrs, apply_ite Options.connectAddrs,
      apply_ite Options.subscribe, apply_ite Options.messages, apply_ite Options.expectFailure,
      apply_ite Options.readMessages, apply_ite Options.setNodelay,
      apply_ite Options.emitLocalAddrs, apply_ite Options.emitPeerAddrs, apply_ite Options.initmsg,
      ite_self, hflag, endpointOptions, given]
  case readMessages =>
    split
    · rfl
    · rename_i hzero
      exact (not_not.mp hzero).symm
  case initmsg =>
    split
    · rfl
    · rename_i hzero
      simp only [not_or, not_not] at hzero
      rcases hzero with ⟨hostreams, hinstreams, hattempts, htimeout⟩
      rw [hostreams, hinstreams, hattempts, htimeout]
      rfl

/-- The arguments of an endpoint are the bytes of its settings. -/
theorem args_commandFlags {endpoint : EndpointSpec} {mode : Text} {flags : List Text}
    (hflags : commandFlags endpoint mode = .ok flags) :
    ∃ connectAddrs, joinValues endpoint.connectAddrs = .ok connectAddrs ∧
      flags.map encodeUtf8 = encodeUtf8 mode ::
        ((settings endpoint connectAddrs).map encodeSetting).flatMap Setting.args := by
  rw [commandFlags_eq] at hflags
  cases hjoin : joinValues endpoint.connectAddrs with
  | error exception =>
      rw [hjoin] at hflags
      contradiction
  | ok connectAddrs =>
      rw [hjoin] at hflags
      cases hflags
      refine ⟨connectAddrs, rfl, ?_⟩
      rw [List.map_cons, List.map_flatMap, List.flatMap_map]
      congr 2
      funext setting
      cases hvalue : setting.value <;> simp [Setting.args, encodeSetting, hvalue]

/-- The helper gets the options that the endpoint has. -/
theorem parseOptions_commandFlags {endpoint : EndpointSpec} (h : FitsInt endpoint) (mode : Text)
    {flags : List Text} (hflags : commandFlags endpoint mode = .ok flags) :
    ∃ connectAddrs, joinValues endpoint.connectAddrs = .ok connectAddrs ∧
      parseOptions (flags.map encodeUtf8) = some (endpointOptions endpoint connectAddrs mode) := by
  rcases args_commandFlags hflags with ⟨connectAddrs, hjoin, hargs⟩
  refine ⟨connectAddrs, hjoin, ?_⟩
  have hparse := parse_settings
    (fun setting hsetting => reads_known (known_settings endpoint connectAddrs setting hsetting))
    [] { mode := encodeUtf8 mode }
  rw [List.append_nil, foldl_settings h] at hparse
  rw [hargs, parseOptions, hparse]
  rfl

end SctpConformance.FreebsdHelper
