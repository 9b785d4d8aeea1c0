import SctpConformance.Server.Data

/-!
# JSON texts written by the server

The emitters of `main.cpp`, from `json_escape` to `build_contract` and
`FeatureJsonLocked`.  Each writes its text piece by piece in the order of the
source, with the same handling of commas and of members that are left out.

Main results:

- Definition `buildContract`: the scenario contract returned by a start.
- Definition `featureJsonLocked`: the JSON view of one feature execution.
- Theorem `jsonError_injective`: error bodies with different messages differ.
-/

namespace SctpConformance

/-! ## Strings, numbers and flags -/

/-- One lower-case hexadecimal digit. -/
def hexDigit (n : Nat) : UInt8 :=
  if n < 10 then UInt8.ofNat (48 + n) else UInt8.ofNat (87 + n)

/-- The escape that `json_escape` writes for one byte. -/
def jsonEscapeByte (ch : UInt8) : CppString :=
  if ch = 92 then [92, 92]
  else if ch = 34 then [92, 34]
  else if ch = 10 then [92, 110]
  else if ch = 13 then [92, 114]
  else if ch = 9 then [92, 116]
  else if ch < 32 then
    -- `\u` and four hexadecimal digits, filled with zeros
    [92, 117, 48, 48, hexDigit (ch.toNat / 16), hexDigit (ch.toNat % 16)]
  else [ch]

/-- `json_escape` -/
def jsonEscape (value : CppString) : CppString :=
  value.flatMap jsonEscapeByte

/-- `json_quote` -/
def jsonQuote (value : CppString) : CppString :=
  [34] ++ jsonEscape value ++ [34]

/-- An unsigned integer as an output stream writes it. -/
def decimal (n : Nat) : CppString :=
  str (Nat.repr n)

/-- A signed integer as an output stream writes it. -/
def decimalInt (n : Int) : CppString :=
  if n < 0 then [45] ++ decimal n.natAbs else decimal n.natAbs

/-- The mode as it is sent. -/
def CompletionMode.toCppString : CompletionMode → CppString
  | .serverObserved => str "server_observed"
  | .agentReported => str "agent_reported"
  | .hybrid => str "hybrid"

/-- The state as it is sent. -/
def FeatureState.toCppString : FeatureState → CppString
  | .pending => str "pending"
  | .active => str "active"
  | .passed => str "passed"
  | .failed => str "failed"
  | .unsupported => str "unsupported"
  | .timedOut => str "timed_out"

/-- The elements of a JSON array or the members of an object, with commas between. -/
def commaSeparated : List CppString → CppString
  | [] => []
  | [value] => value
  | value :: values => value ++ [44] ++ commaSeparated values

/-- An array of strings. -/
def jsonArrayStrings (values : List CppString) : CppString :=
  [91] ++ commaSeparated (values.map jsonQuote) ++ [93]

/-- An array of numbers. -/
def jsonArrayUint8 (values : List UInt8) : CppString :=
  [91] ++ commaSeparated (values.map fun value => decimal value.toNat) ++ [93]

/-- `true` or `false` -/
def jsonBool (value : Bool) : CppString :=
  if value then str "true" else str "false"

/-- The body of a response to a request that is refused. -/
def jsonError (message : CppString) : CppString :=
  str "\x7b\"error\":" ++ jsonQuote message ++ str "\x7d"

/-! ## Error bodies -/

/-- The value of a hexadecimal digit that `hexDigit` has written. -/
def writtenDigit (digit : UInt8) : Nat :=
  if digit < 58 then digit.toNat - 48 else digit.toNat - 87

/-- The byte that an escape of `jsonEscapeByte` stands for, and what follows it. -/
def unescapeFirst : CppString → Option (UInt8 × CppString)
  | [] => none
  | 92 :: 92 :: rest => some (92, rest)
  | 92 :: 34 :: rest => some (34, rest)
  | 92 :: 110 :: rest => some (10, rest)
  | 92 :: 114 :: rest => some (13, rest)
  | 92 :: 116 :: rest => some (9, rest)
  | 92 :: 117 :: 48 :: 48 :: high :: low :: rest =>
      some (UInt8.ofNat (writtenDigit high * 16 + writtenDigit low), rest)
  | ch :: rest => some (ch, rest)

/-- A hexadecimal digit stands for the number it was written for. -/
theorem writtenDigit_hexDigit {n : Nat} (h : n < 16) : writtenDigit (hexDigit n) = n := by
  have hall : ∀ n < 16, writtenDigit (hexDigit n) = n := by decide
  exact hall n h

/-- The escape of a byte is read back, whatever follows. -/
theorem unescapeFirst_append (ch : UInt8) (rest : CppString) :
    unescapeFirst (jsonEscapeByte ch ++ rest) = some (ch, rest) := by
  unfold jsonEscapeByte
  split
  · rename_i h
    subst h
    rfl
  · split
    · rename_i h
      subst h
      rfl
    · split
      · rename_i h
        subst h
        rfl
      · split
        · rename_i h
          subst h
          rfl
        · split
          · rename_i h
            subst h
            rfl
          · split
            · rename_i hcontrol
              have hlt : ch.toNat < 32 := by simpa [UInt8.lt_iff_toNat_lt] using hcontrol
              have hhigh : writtenDigit (hexDigit (ch.toNat / 16)) = ch.toNat / 16 := by
                apply writtenDigit_hexDigit
                omega
              have hlow : writtenDigit (hexDigit (ch.toNat % 16)) = ch.toNat % 16 := by
                apply writtenDigit_hexDigit
                omega
              have hvalue : ch.toNat / 16 * 16 + ch.toNat % 16 = ch.toNat := by omega
              simp [unescapeFirst, hhigh, hlow, hvalue]
            · rename_i hplain _ _ _ _ _
              simp [unescapeFirst, hplain]

/-- An escaped text is read back byte by byte. -/
theorem unescapeFirst_jsonEscape (ch : UInt8) (rest : CppString) :
    unescapeFirst (jsonEscape (ch :: rest)) = some (ch, jsonEscape rest) :=
  unescapeFirst_append ch (jsonEscape rest)

/-- Different strings have different escaped forms. -/
theorem jsonEscape_injective : Function.Injective jsonEscape := by
  intro value value' h
  induction value generalizing value' with
  | nil =>
      cases value' with
      | nil => rfl
      | cons ch' rest' =>
          have hread := congrArg unescapeFirst h
          rw [unescapeFirst_jsonEscape] at hread
          contradiction
  | cons ch rest ih =>
      have hread := congrArg unescapeFirst h
      cases value' with
      | nil =>
          rw [unescapeFirst_jsonEscape] at hread
          contradiction
      | cons ch' rest' =>
          rw [unescapeFirst_jsonEscape, unescapeFirst_jsonEscape, Option.some.injEq,
            Prod.mk.injEq] at hread
          rw [hread.1, ih hread.2]

/-- Error bodies with different messages differ. -/
theorem jsonError_injective : Function.Injective jsonError := by
  intro message message' h
  apply jsonEscape_injective
  have hquoted := List.append_cancel_left (List.append_cancel_right h)
  exact List.append_cancel_left (List.append_cancel_right hquoted)

/-! ## Times -/

/-- Two decimal digits. -/
def twoDigits (n : Nat) : CppString :=
  [UInt8.ofNat (48 + n / 10 % 10), UInt8.ofNat (48 + n % 10)]

/-- Year, month and day of a count of days since 1970-01-01, as `gmtime_r` gives them. -/
def civilFromDays (days : Int) : Int × Nat × Nat :=
  let z := days + 719468
  let era := z / 146097
  let dayOfEra := (z % 146097).toNat
  let yearOfEra := (dayOfEra - dayOfEra / 1460 + dayOfEra / 36524 - dayOfEra / 146096) / 365
  let dayOfYear := dayOfEra - (365 * yearOfEra + yearOfEra / 4 - yearOfEra / 100)
  let shifted := (5 * dayOfYear + 2) / 153
  let day := dayOfYear - (153 * shifted + 2) / 5 + 1
  let month := if shifted < 10 then shifted + 3 else shifted - 9
  let year := (yearOfEra : Int) + era * 400
  (if month ≤ 2 then year + 1 else year, month, day)

/-- The time in the format of ISO 8601; nothing for a time that was never set. -/
def isoTime (point : TimePoint) : CppString :=
  if point = 0 then []
  else
    let secs := point.tdiv 1000000
    let (year, month, day) := civilFromDays (secs / 86400)
    let rest := (secs % 86400).toNat
    decimalInt year ++ [45] ++ twoDigits month ++ [45] ++ twoDigits day ++ [84] ++
      twoDigits (rest / 3600) ++ [58] ++ twoDigits (rest / 60 % 60) ++ [58] ++
      twoDigits (rest % 60) ++ [90]

/-! ## The parts of a contract -/

/-- The object of a reference. -/
def jsonRfcReference (value : RfcReference) : CppString :=
  str "\x7b\"rfc\":" ++ jsonQuote value.rfc ++ str ",\"section\":" ++ jsonQuote value.section_ ++
    str ",\"title\":" ++ jsonQuote value.title ++ str ",\"url\":" ++ jsonQuote value.url ++
    str "\x7d"

/-- The array of references. -/
def jsonRfcReferences (values : List RfcReference) : CppString :=
  [91] ++ commaSeparated (values.map jsonRfcReference) ++ [93]

/-- One element of `json_messages`; members with their default value are left out. -/
def jsonMessage (value : MessageSpec) : CppString :=
  str "\x7b\"payload\":" ++ jsonQuote value.payload ++
    str ",\"stream\":" ++ decimal value.stream.toNat ++
    str ",\"ppid\":" ++ decimal value.ppid.toNat ++
    (if value.sizeBytes ≠ 0 then str ",\"size_bytes\":" ++ decimal value.sizeBytes else []) ++
    (if value.unordered then str ",\"unordered\":true" else []) ++
    (if value.prPolicy ≠ [] then str ",\"pr_policy\":" ++ jsonQuote value.prPolicy else []) ++
    (if value.prValue ≠ 0 then str ",\"pr_value\":" ++ decimal value.prValue.toNat else []) ++
    (if value.authKeyId ≠ 0 then str ",\"auth_key_id\":" ++ decimal value.authKeyId.toNat
      else []) ++
    str "\x7d"

/-- The array of messages. -/
def jsonMessages (values : List MessageSpec) : CppString :=
  [91] ++ commaSeparated (values.map jsonMessage) ++ [93]

/-- The object of the authentication of a feature. -/
def jsonAuthContract (auth : AuthContract) : CppString :=
  str "\x7b\"chunk_types\":" ++ jsonArrayUint8 auth.chunkTypes ++
    str ",\"primary_key_id\":" ++ decimal auth.primaryKeyId.toNat ++
    str ",\"primary_secret\":" ++ jsonQuote auth.primarySecret ++
    str ",\"secondary_key_id\":" ++ decimal auth.secondaryKeyId.toNat ++
    str ",\"secondary_secret\":" ++ jsonQuote auth.secondarySecret ++ str "\x7d"

/-- The object of the addresses that change. -/
def jsonAddressReconfigContract (config : AddressReconfigContract) : CppString :=
  str "\x7b\"add_addresses\":" ++ jsonArrayStrings config.addAddresses ++
    str ",\"remove_addresses\":" ++ jsonArrayStrings config.removeAddresses ++ str "\x7d"

/-- The object of the interleaved messages. -/
def jsonInterleavingContract (config : InterleavingContract) : CppString :=
  str "\x7b\"fragment_interleave_level\":" ++ decimalInt config.fragmentInterleaveLevel ++
    str ",\"large_message_size\":" ++ decimal config.largeMessageSize ++
    str ",\"large_stream\":" ++ decimal config.largeStream.toNat ++
    str ",\"large_ppid\":" ++ decimal config.largePpid.toNat ++
    str ",\"small_stream\":" ++ decimal config.smallStream.toNat ++
    str ",\"small_ppid\":" ++ decimal config.smallPpid.toNat ++
    str ",\"small_message_count\":" ++ decimalInt config.smallMessageCount ++ str "\x7d"

/-- The object of the scheduling policy. -/
def jsonSchedulerContract (config : SchedulerContract) : CppString :=
  str "\x7b\"policy\":" ++ jsonQuote config.policy ++
    str ",\"primary_stream\":" ++ decimal config.primaryStream.toNat ++
    str ",\"secondary_stream\":" ++ decimal config.secondaryStream.toNat ++
    str ",\"primary_value\":" ++ decimal config.primaryValue.toNat ++
    str ",\"secondary_value\":" ++ decimal config.secondaryValue.toNat ++
    str ",\"message_count\":" ++ decimalInt config.messageCount ++ str "\x7d"

/-- The `append` lambda of `json_socket_tuning_contract`: the text so far and
whether the next member is the first. -/
def appendTuningMember (out : CppString × Bool) (key : CppString) (value : UInt32) :
    CppString × Bool :=
  if value = 0 then out
  else
    (out.1 ++ (if out.2 then [] else [44]) ++ jsonQuote key ++ [58] ++ decimal value.toNat, false)

/-- The object of the socket options that are set. -/
def jsonSocketTuningContract (config : SocketTuningContract) : CppString :=
  let out := (str "\x7b", true)
  let out := appendTuningMember out (str "delayed_sack_delay_ms") config.delayedSackDelayMs
  let out := appendTuningMember out (str "delayed_sack_freq") config.delayedSackFreq
  let out := appendTuningMember out (str "max_burst") config.maxBurst
  let out := appendTuningMember out (str "maxseg") config.maxseg
  out.1 ++ str "\x7d"

/-- The object of the expected associations. -/
def jsonOneToManyContract (config : OneToManyContract) : CppString :=
  str "\x7b\"expected_associations\":" ++ decimal config.expectedAssociations ++
    str ",\"same_socket_required\":" ++ jsonBool config.sameSocketRequired ++
    str ",\"require_distinct_assoc_ids\":" ++ jsonBool config.requireDistinctAssocIds ++
    str "\x7d"

/-- An optional member of the contract, with the comma before it. -/
def optionalMember {α : Type} (key : CppString) (emit : α → CppString) :
    Option α → CppString
  | none => []
  | some value => [44, 34] ++ key ++ [34, 58] ++ emit value

/-- `build_contract`: what an agent is told of a feature that it starts. -/
def buildContract (feature : FeatureDefinition) (connectAddrs : List CppString) : CppString :=
  str "\x7b\"feature_id\":" ++ jsonQuote feature.id ++
    str ",\"completion_mode\":" ++ jsonQuote feature.completionMode.toCppString ++
    str ",\"transport\":\"sctp4\"" ++
    str ",\"connect_addresses\":" ++ jsonArrayStrings connectAddrs ++
    str ",\"client_socket_options\":" ++ jsonArrayStrings feature.clientSocketOptions ++
    str ",\"client_subscriptions\":" ++ jsonArrayStrings feature.clientSubscriptions ++
    str ",\"client_send_messages\":" ++ jsonMessages feature.clientSendMessages ++
    str ",\"server_send_messages\":" ++ jsonMessages feature.serverSendMessages ++
    str ",\"trigger_payload\":" ++ jsonQuote feature.triggerPayload ++
    str ",\"negative_connect_target\":" ++ jsonQuote feature.negativeConnectTarget ++
    str ",\"timeout_seconds\":" ++ decimalInt feature.timeoutSeconds ++
    str ",\"manual_setup_required\":" ++ jsonBool feature.manualSetupRequired ++
    str ",\"manual_setup_instructions\":" ++ jsonArrayStrings feature.manualSetupInstructions ++
    str ",\"report_prompt\":" ++ jsonQuote feature.reportPrompt ++
    str ",\"instructions_text\":" ++ jsonQuote feature.instructionsText ++
    optionalMember (str "auth") jsonAuthContract feature.auth ++
    optionalMember (str "address_reconfig") jsonAddressReconfigContract
      feature.addressReconfig ++
    optionalMember (str "interleaving") jsonInterleavingContract feature.interleaving ++
    optionalMember (str "scheduler") jsonSchedulerContract feature.scheduler ++
    optionalMember (str "socket_tuning") jsonSocketTuningContract feature.socketTuning ++
    optionalMember (str "one_to_many") jsonOneToManyContract feature.oneToMany ++
    str "\x7d"

/-! ## The view of one execution -/

/-- `feature_json_locked`: an execution of a feature, with its contract if asked for. -/
def featureJsonLocked (feature : FeatureDefinition) (execution : FeatureExecution)
    (includeContract : Bool) : CppString :=
  str "\x7b\"id\":" ++ jsonQuote feature.id ++
    str ",\"title\":" ++ jsonQuote feature.title ++
    str ",\"category\":" ++ jsonQuote feature.category ++
    str ",\"completion_mode\":" ++ jsonQuote feature.completionMode.toCppString ++
    str ",\"manual_setup_required\":" ++ jsonBool feature.manualSetupRequired ++
    str ",\"manual_setup_instructions\":" ++ jsonArrayStrings feature.manualSetupInstructions ++
    str ",\"rfc_references\":" ++ jsonRfcReferences feature.rfcReferences ++
    str ",\"state\":" ++ jsonQuote execution.state.toCppString ++
    str ",\"message\":" ++ jsonQuote execution.message ++
    str ",\"started_at\":" ++ jsonQuote (isoTime execution.startedAt) ++
    str ",\"deadline_at\":" ++ jsonQuote (isoTime execution.deadlineAt) ++
    str ",\"finished_at\":" ++ jsonQuote (isoTime execution.finishedAt) ++
    str ",\"evidence_kind\":" ++ jsonQuote execution.evidenceKind ++
    str ",\"evidence_text\":" ++ jsonQuote execution.evidenceText ++
    str ",\"report_text\":" ++ jsonQuote execution.reportText ++
    str ",\"assoc_ids\":" ++ jsonArrayStrings execution.assocIds ++
    (if includeContract ∧ execution.contractJson ≠ [] then
      str ",\"contract\":" ++ execution.contractJson
    else []) ++
    str "\x7d"

end SctpConformance
