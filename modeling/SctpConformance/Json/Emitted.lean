import SctpConformance.Library.Json
import SctpConformance.Server.Views

/-!
# The texts of the server as JSON values

Each emitter writes the compact text of a JSON value.  The values are given here
one by one, beside the equality with what the emitter of the source writes.

Main results:

- Theorem `decimal_eq`: the decimal digits of a number, from the last one on.
- Theorem `buildContract_text`: the scenario contract is the text of a JSON object.
- Theorems `sessionJson_text` and `summaryJson_text`: so are the two session views.
-/

namespace SctpConformance

open Library

/-! ## Numbers -/

/-- The bytes of a text are those of its characters. -/
theorem str_ofList (chars : List Char) :
    str (String.ofList chars) = chars.flatMap String.utf8EncodeChar := by
  simp [str, String.toUTF8, List.utf8Encode]

/-- The decimal digits of a number, from the last one on. -/
theorem decimal_eq (n : Nat) :
    decimal n =
      if n < 10 then [UInt8.ofNat (48 + n)]
      else decimal (n / 10) ++ [UInt8.ofNat (48 + n % 10)] := by
  have hdigit : ∀ d < 10, String.utf8EncodeChar d.digitChar = [UInt8.ofNat (48 + d)] := by
    decide
  simp only [decimal, Nat.repr_eq_ofList_toDigits, str_ofList]
  rw [Nat.toDigits_eq_if (by omega)]
  split
  · rename_i h
    simp [hdigit n h]
  · simp [hdigit (n % 10) (Nat.mod_lt _ (by omega))]

/-- A digit is written as one. -/
theorem digit_range {d : Nat} (h : d < 10) : isDigit (UInt8.ofNat (48 + d)) = true := by
  have hall : ∀ d < 10, isDigit (UInt8.ofNat (48 + d)) = true := by decide
  exact hall d h

/-- A number is written in digits. -/
theorem decimal_digits (n : Nat) : ∀ ch ∈ decimal n, isDigit ch = true := by
  induction n using Nat.strongRecOn with
  | ind n ih =>
      rw [decimal_eq]
      split
      · rename_i h
        intro ch hch
        rw [List.mem_singleton.mp hch]
        exact digit_range h
      · intro ch hch
        rcases List.mem_append.mp hch with hmem | hlast
        · exact ih (n / 10) (Nat.div_lt_self (by omega) (by omega)) ch hmem
        · rw [List.mem_singleton.mp hlast]
          exact digit_range (Nat.mod_lt _ (by omega))

/-- Only the number zero is written with a leading zero. -/
theorem decimal_head (n : Nat) :
    decimal n = [48] ∨ ∃ ch rest, decimal n = ch :: rest ∧ ch ≠ 48 := by
  induction n using Nat.strongRecOn with
  | ind n ih =>
      rw [decimal_eq]
      split
      · rename_i h
        have hall : ∀ n < 10, [UInt8.ofNat (48 + n)] = [48] ∨ UInt8.ofNat (48 + n) ≠ 48 := by
          decide
        rcases hall n h with hzero | hne
        · exact Or.inl hzero
        · exact Or.inr ⟨_, _, rfl, hne⟩
      · rename_i h
        rcases ih (n / 10) (Nat.div_lt_self (by omega) (by omega)) with hzero | hhead
        · -- Ten or more has a whole tenth part, whose digits are not a single zero.
          rw [decimal_eq] at hzero
          split at hzero
          · rename_i hsmall
            have hall : ∀ n < 10, [UInt8.ofNat (48 + n)] = [48] → n = 0 := by decide
            have htenth := hall (n / 10) hsmall hzero
            omega
          · have hlength := congrArg List.length hzero
            rcases List.eq_nil_or_concat (decimal (n / 10 / 10)) with hnil | ⟨_, _, hconcat⟩
            · rw [decimal_eq] at hnil
              split at hnil <;> simp at hnil
            · rw [hconcat] at hlength
              simp at hlength
        · rcases hhead with ⟨ch, rest, hdecimal, hne⟩
          rw [hdecimal]
          exact Or.inr ⟨ch, rest ++ [_], rfl, hne⟩

/-- A digit more makes ten times as much and the digit. -/
theorem natOfDigits_append (digits : CppString) (digit : UInt8) :
    natOfDigits (digits ++ [digit]) = natOfDigits digits * 10 + (digit.toNat - 48) := by
  simp [natOfDigits]

/-- A number is read back from its digits. -/
theorem natOfDigits_decimal (n : Nat) : natOfDigits (decimal n) = n := by
  have hdigit : ∀ d < 10, (UInt8.ofNat (48 + d)).toNat - 48 = d := by decide
  induction n using Nat.strongRecOn with
  | ind n ih =>
      rw [decimal_eq]
      split
      · rename_i h
        have hsingle := natOfDigits_append [] (UInt8.ofNat (48 + n))
        rw [List.nil_append, hdigit n h] at hsingle
        rw [hsingle]
        exact Nat.zero_add n
      · rw [natOfDigits_append, ih (n / 10) (Nat.div_lt_self (by omega) (by omega)),
          hdigit (n % 10) (Nat.mod_lt _ (by omega))]
        omega

/-- A number has at least one digit. -/
theorem decimal_ne_nil (n : Nat) : decimal n ≠ [] := by
  rcases decimal_head n with hzero | ⟨ch, rest, hdecimal, -⟩
  · simp [hzero]
  · simp [hdecimal]

/-- A natural number is written as JSON has it, without leading zeros. -/
theorem isUnsigned_decimal (n : Nat) : isUnsigned (decimal n) = true := by
  have hdigits := decimal_digits n
  have htake : (decimal n).takeWhile isDigit = decimal n :=
    List.takeWhile_eq_self_iff.mpr hdigits
  have hdrop : (decimal n).dropWhile isDigit = [] := List.dropWhile_eq_nil_iff.mpr hdigits
  simp only [isUnsigned, htake, hdrop]
  rcases decimal_head n with hzero | ⟨ch, rest, hdecimal, hne⟩
  · rw [hzero]
    rfl
  · rw [hdecimal]
    simp [hne, isFraction]

/-- A natural number is a JSON number. -/
theorem isNumber_decimal (n : Nat) : isNumber (decimal n) = true := by
  have hunsigned := isUnsigned_decimal n
  have hdigits := decimal_digits n
  cases hdecimal : decimal n with
  | nil =>
      rw [hdecimal] at hunsigned
      contradiction
  | cons ch rest =>
      rw [hdecimal] at hunsigned hdigits
      have hch : ch ≠ 45 := by
        rintro rfl
        exact absurd (hdigits 45 List.mem_cons_self) (by decide)
      rw [isNumber, if_neg hch]
      exact hunsigned

/-- So is a whole number. -/
theorem isNumber_decimalInt (n : Int) : isNumber (decimalInt n) = true := by
  unfold decimalInt
  split
  · exact isUnsigned_decimal n.natAbs
  · exact isNumber_decimal n.natAbs

/-- A number as the server writes it. -/
def numeral (n : Nat) : Json :=
  .number ⟨decimal n, isNumber_decimal n⟩

/-- A whole number as a JSON value. -/
def intNumeral (n : Int) : Json :=
  .number ⟨decimalInt n, isNumber_decimalInt n⟩

/-- The text of a natural number. -/
@[simp]
theorem numeral_text (n : Nat) : (numeral n).text = decimal n :=
  Json.text.eq_def _

/-- The text of a whole number. -/
@[simp]
theorem intNumeral_text (n : Int) : (intNumeral n).text = decimalInt n :=
  Json.text.eq_def _

/-! ## Strings, flags and arrays -/

/-- The quoted strings of the program are JSON strings. -/
theorem jsonQuote_eq (value : CppString) : jsonQuote value = quoted value := by
  have hescape : jsonEscapeByte = escaped := rfl
  rw [jsonQuote, jsonEscape, hescape]
  rfl

/-- Truth values are written as JSON has them. -/
theorem jsonBool_text (value : Bool) : jsonBool value = (Json.bool value).text := by
  cases value <;> decide

/-- Each value but the first comes after a comma. -/
theorem commaSeparated_cons (first : CppString) (values : List CppString) :
    commaSeparated (first :: values) = first ++ values.flatMap fun value => 44 :: value := by
  induction values generalizing first with
  | nil => simp [commaSeparated]
  | cons value values ih =>
      rw [commaSeparated, ih]
      · simp
      · simp

/-- The elements of an array behind the first. -/
theorem moreElements_map {α : Type} (value : α → Json) (values : List α) :
    Json.moreElements (values.map value) =
      ((values.map fun a => (value a).text).flatMap fun text => 44 :: text) ++ [93] := by
  induction values with
  | nil => rfl
  | cons a values ih =>
      rw [List.map_cons, Json.moreElements, ih]
      simp

/-- A comma-separated list in brackets is the text of an array. -/
theorem commaSeparated_text {α : Type} (emit : α → CppString) (value : α → Json)
    (h : ∀ a, emit a = (value a).text) (values : List α) :
    [91] ++ commaSeparated (values.map emit) ++ [93] = (Json.array (values.map value)).text := by
  cases values with
  | nil => rfl
  | cons a values =>
      have hemit : emit = fun a => (value a).text := funext h
      rw [List.map_cons, List.map_cons, commaSeparated_cons, Json.text, moreElements_map, hemit]
      simp

/-- A list of strings as a JSON value. -/
def stringsValue (values : List CppString) : Json :=
  .array (values.map .string)

/-- The text of a string. -/
@[simp]
theorem string_text (value : CppString) : (Json.string value).text = quoted value := by
  rw [Json.text]

/-- The brace that closes an object. -/
@[simp]
theorem str_close : str "\x7d" = [125] := by
  decide

/-- A list of strings is written as its JSON value. -/
@[simp]
theorem jsonArrayStrings_text (values : List CppString) :
    jsonArrayStrings values = (stringsValue values).text := by
  have hquote : ∀ value, jsonQuote value = (Json.string value).text := by
    intro value
    rw [jsonQuote_eq, string_text]
  exact commaSeparated_text jsonQuote .string hquote values

/-- A list of small numbers as a JSON value. -/
def bytesValue (values : List UInt8) : Json :=
  .array (values.map fun value => numeral value.toNat)

/-- A list of small numbers is written as its JSON value. -/
@[simp]
theorem jsonArrayUint8_text (values : List UInt8) :
    jsonArrayUint8 values = (bytesValue values).text := by
  apply commaSeparated_text (fun value : UInt8 => decimal value.toNat)
  intro value
  rw [numeral_text]

/-! ## The parts of a contract -/

/-- A member that is written only under a condition. -/
def memberIf (condition : Prop) [Decidable condition] (key : String) (value : Json) :
    List (CppString × Json) :=
  if condition then [(str key, value)] else []

/-- A member that is left out under a condition, between others. -/
theorem following_memberIf (condition : Prop) [Decidable condition] (key : String)
    (value : Json) (text : CppString)
    (h : text = 44 :: (quoted (str key) ++ 58 :: value.text)) :
    Json.following (memberIf condition key value) = if condition then text else [] := by
  unfold memberIf
  split
  · rw [h, Json.following_cons]
    exact List.append_nil _
  · rfl

/-- A message as a JSON value. -/
def messageValue (value : MessageSpec) : Json :=
  .object ((str "payload", .string value.payload) ::
    ([(str "stream", numeral value.stream.toNat), (str "ppid", numeral value.ppid.toNat)] ++
      memberIf (value.sizeBytes ≠ 0) "size_bytes" (numeral value.sizeBytes) ++
      memberIf (value.unordered = true) "unordered" (.bool true) ++
      memberIf (value.prPolicy ≠ []) "pr_policy" (.string value.prPolicy) ++
      memberIf (value.prValue ≠ 0) "pr_value" (numeral value.prValue.toNat) ++
      memberIf (value.authKeyId ≠ 0) "auth_key_id" (numeral value.authKeyId.toNat)))

/-- The literals of the program around the members of a message. -/
theorem messageKeys :
    str "\x7b\"payload\":" = 123 :: (quoted (str "payload") ++ [58]) ∧
    str ",\"stream\":" = 44 :: (quoted (str "stream") ++ [58]) ∧
    str ",\"ppid\":" = 44 :: (quoted (str "ppid") ++ [58]) ∧
    str ",\"size_bytes\":" = 44 :: (quoted (str "size_bytes") ++ [58]) ∧
    str ",\"pr_policy\":" = 44 :: (quoted (str "pr_policy") ++ [58]) ∧
    str ",\"pr_value\":" = 44 :: (quoted (str "pr_value") ++ [58]) ∧
    str ",\"auth_key_id\":" = 44 :: (quoted (str "auth_key_id") ++ [58]) ∧
    str ",\"unordered\":true" = 44 :: (quoted (str "unordered") ++ 58 :: (Json.bool true).text) := by
  decide

/-- A message is written as its JSON value. -/
theorem jsonMessage_text (value : MessageSpec) :
    jsonMessage value = (messageValue value).text := by
  rcases messageKeys with ⟨hpayload, hstream, hppid, hsize, hpolicy, hvalue, hkey, hunordered⟩
  rw [messageValue, Json.text_object_cons]
  simp only [Json.following_append, Json.following_cons]
  rw [following_memberIf _ _ _ (str ",\"size_bytes\":" ++ decimal value.sizeBytes) (by
      rw [hsize, numeral_text]; simp),
    following_memberIf _ _ _ (str ",\"unordered\":true") (by rw [hunordered]),
    following_memberIf _ _ _ (str ",\"pr_policy\":" ++ jsonQuote value.prPolicy) (by
      rw [hpolicy, jsonQuote_eq, string_text]; simp),
    following_memberIf _ _ _ (str ",\"pr_value\":" ++ decimal value.prValue.toNat) (by
      rw [hvalue, numeral_text]; simp),
    following_memberIf _ _ _ (str ",\"auth_key_id\":" ++ decimal value.authKeyId.toNat) (by
      rw [hkey, numeral_text]; simp)]
  rw [jsonMessage, hpayload, hstream, hppid, jsonQuote_eq]
  simp [Json.following]

/-- A list of messages as a JSON value. -/
def messagesValue (values : List MessageSpec) : Json :=
  .array (values.map messageValue)

/-- A list of messages is written as its JSON value. -/
@[simp]
theorem jsonMessages_text (values : List MessageSpec) :
    jsonMessages values = (messagesValue values).text :=
  commaSeparated_text jsonMessage messageValue jsonMessage_text values

/-- The authentication of a feature as a JSON value. -/
def authValue (auth : AuthContract) : Json :=
  .object [(str "chunk_types", bytesValue auth.chunkTypes),
    (str "primary_key_id", numeral auth.primaryKeyId.toNat),
    (str "primary_secret", .string auth.primarySecret),
    (str "secondary_key_id", numeral auth.secondaryKeyId.toNat),
    (str "secondary_secret", .string auth.secondarySecret)]

/-- The literals around its members. -/
theorem authKeys :
    str "\x7b\"chunk_types\":" = 123 :: (quoted (str "chunk_types") ++ [58]) ∧
    str ",\"primary_key_id\":" = 44 :: (quoted (str "primary_key_id") ++ [58]) ∧
    str ",\"primary_secret\":" = 44 :: (quoted (str "primary_secret") ++ [58]) ∧
    str ",\"secondary_key_id\":" = 44 :: (quoted (str "secondary_key_id") ++ [58]) ∧
    str ",\"secondary_secret\":" = 44 :: (quoted (str "secondary_secret") ++ [58]) := by
  decide

/-- It is written as its JSON value. -/
theorem jsonAuthContract_text (auth : AuthContract) :
    jsonAuthContract auth = (authValue auth).text := by
  rw [authValue, Json.text_object_cons]
  simp only [jsonAuthContract, authKeys, jsonQuote_eq, Json.following_cons]
  simp [Json.following]

/-- The addresses that change as a JSON value. -/
def addressReconfigValue (config : AddressReconfigContract) : Json :=
  .object [(str "add_addresses", stringsValue config.addAddresses),
    (str "remove_addresses", stringsValue config.removeAddresses)]

/-- The literals around their members. -/
theorem addressReconfigKeys :
    str "\x7b\"add_addresses\":" = 123 :: (quoted (str "add_addresses") ++ [58]) ∧
    str ",\"remove_addresses\":" = 44 :: (quoted (str "remove_addresses") ++ [58]) := by
  decide

/-- They are written as their JSON value. -/
theorem jsonAddressReconfigContract_text (config : AddressReconfigContract) :
    jsonAddressReconfigContract config = (addressReconfigValue config).text := by
  rw [addressReconfigValue, Json.text_object_cons]
  simp only [jsonAddressReconfigContract, addressReconfigKeys, Json.following_cons]
  simp [Json.following]

/-- The interleaved messages as a JSON value. -/
def interleavingValue (config : InterleavingContract) : Json :=
  .object [(str "fragment_interleave_level", intNumeral config.fragmentInterleaveLevel),
    (str "large_message_size", numeral config.largeMessageSize),
    (str "large_stream", numeral config.largeStream.toNat),
    (str "large_ppid", numeral config.largePpid.toNat),
    (str "small_stream", numeral config.smallStream.toNat),
    (str "small_ppid", numeral config.smallPpid.toNat),
    (str "small_message_count", intNumeral config.smallMessageCount)]

/-- The literals around their members. -/
theorem interleavingKeys :
    str "\x7b\"fragment_interleave_level\":" = 123 :: (quoted (str "fragment_interleave_level") ++ [58]) ∧
    str ",\"large_message_size\":" = 44 :: (quoted (str "large_message_size") ++ [58]) ∧
    str ",\"large_stream\":" = 44 :: (quoted (str "large_stream") ++ [58]) ∧
    str ",\"large_ppid\":" = 44 :: (quoted (str "large_ppid") ++ [58]) ∧
    str ",\"small_stream\":" = 44 :: (quoted (str "small_stream") ++ [58]) ∧
    str ",\"small_ppid\":" = 44 :: (quoted (str "small_ppid") ++ [58]) ∧
    str ",\"small_message_count\":" = 44 :: (quoted (str "small_message_count") ++ [58]) := by
  decide

/-- They are written as their JSON value. -/
theorem jsonInterleavingContract_text (config : InterleavingContract) :
    jsonInterleavingContract config = (interleavingValue config).text := by
  rw [interleavingValue, Json.text_object_cons]
  simp only [jsonInterleavingContract, interleavingKeys, Json.following_cons]
  simp [Json.following]

/-- The scheduling policy as a JSON value. -/
def schedulerValue (config : SchedulerContract) : Json :=
  .object [(str "policy", .string config.policy),
    (str "primary_stream", numeral config.primaryStream.toNat),
    (str "secondary_stream", numeral config.secondaryStream.toNat),
    (str "primary_value", numeral config.primaryValue.toNat),
    (str "secondary_value", numeral config.secondaryValue.toNat),
    (str "message_count", intNumeral config.messageCount)]

/-- The literals around its members. -/
theorem schedulerKeys :
    str "\x7b\"policy\":" = 123 :: (quoted (str "policy") ++ [58]) ∧
    str ",\"primary_stream\":" = 44 :: (quoted (str "primary_stream") ++ [58]) ∧
    str ",\"secondary_stream\":" = 44 :: (quoted (str "secondary_stream") ++ [58]) ∧
    str ",\"primary_value\":" = 44 :: (quoted (str "primary_value") ++ [58]) ∧
    str ",\"secondary_value\":" = 44 :: (quoted (str "secondary_value") ++ [58]) ∧
    str ",\"message_count\":" = 44 :: (quoted (str "message_count") ++ [58]) := by
  decide

/-- It is written as its JSON value. -/
theorem jsonSchedulerContract_text (config : SchedulerContract) :
    jsonSchedulerContract config = (schedulerValue config).text := by
  rw [schedulerValue, Json.text_object_cons]
  simp only [jsonSchedulerContract, schedulerKeys, jsonQuote_eq, Json.following_cons]
  simp [Json.following]

/-- The expected associations as a JSON value. -/
def oneToManyValue (config : OneToManyContract) : Json :=
  .object [(str "expected_associations", numeral config.expectedAssociations),
    (str "same_socket_required", .bool config.sameSocketRequired),
    (str "require_distinct_assoc_ids", .bool config.requireDistinctAssocIds)]

/-- The literals around their members. -/
theorem oneToManyKeys :
    str "\x7b\"expected_associations\":" = 123 :: (quoted (str "expected_associations") ++ [58]) ∧
    str ",\"same_socket_required\":" = 44 :: (quoted (str "same_socket_required") ++ [58]) ∧
    str ",\"require_distinct_assoc_ids\":" = 44 :: (quoted (str "require_distinct_assoc_ids") ++ [58]) := by
  decide

/-- They are written as their JSON value. -/
theorem jsonOneToManyContract_text (config : OneToManyContract) :
    jsonOneToManyContract config = (oneToManyValue config).text := by
  rw [oneToManyValue, Json.text_object_cons]
  simp only [jsonOneToManyContract, oneToManyKeys, jsonBool_text, Json.following_cons]
  simp [Json.following]

/-! ### Socket tuning -/

/-- The member of a socket option that is set. -/
def tuningMember (key : String) (value : UInt32) : List (CppString × Json) :=
  memberIf (value ≠ 0) key (numeral value.toNat)

/-- The socket options as a JSON value. -/
def socketTuningValue (config : SocketTuningContract) : Json :=
  .object (tuningMember "delayed_sack_delay_ms" config.delayedSackDelayMs ++
    tuningMember "delayed_sack_freq" config.delayedSackFreq ++
    tuningMember "max_burst" config.maxBurst ++ tuningMember "maxseg" config.maxseg)

/-- The text of an object up to its closing brace, and whether it has no members yet. -/
def openObject : List (CppString × Json) → CppString × Bool
  | [] => (str "\x7b", true)
  | (key, value) :: members =>
      (123 :: (quoted key ++ 58 :: (value.text ++ Json.following members)), false)

/-- One more option goes behind the members that are written already. -/
theorem appendTuningMember_open (members : List (CppString × Json)) (key : String)
    (value : UInt32) :
    appendTuningMember (openObject members) (str key) value =
      openObject (members ++ tuningMember key value) := by
  unfold appendTuningMember tuningMember memberIf
  by_cases hzero : value = 0
  · simp [hzero]
  · rw [if_neg hzero, if_pos hzero]
    have hbrace : str "\x7b" = [123] := by decide
    cases members with
    | nil => simp [openObject, jsonQuote_eq, hbrace, Json.following]
    | cons member members =>
        simp [openObject, jsonQuote_eq, Json.following_append, Json.following_cons]
        simp [Json.following]

/-- They are written as their JSON value. -/
theorem jsonSocketTuningContract_text (config : SocketTuningContract) :
    jsonSocketTuningContract config = (socketTuningValue config).text := by
  have hopen : (str "\x7b", true) = openObject [] := rfl
  have hclose : ∀ members : List (CppString × Json),
      (openObject members).1 ++ [125] = (Json.object members).text := by
    intro members
    cases members with
    | nil => decide
    | cons member members =>
        rw [Json.text_object_cons]
        simp [openObject]
  simp only [jsonSocketTuningContract, hopen, appendTuningMember_open, str_close, hclose,
    List.nil_append]
  rfl

/-! ### The whole contract -/

/-- A member for an optional part. -/
def memberOf {α : Type} (key : String) (value : α → Json) (part : Option α) :
    List (CppString × Json) :=
  part.elim [] fun a => [(str key, value a)]

/-- A member that is there when its part of the contract is, between others. -/
theorem following_memberOf {α : Type} (key : String) (value : α → Json) (emit : α → CppString)
    (hemit : ∀ a, emit a = (value a).text) (hkey : quoted (str key) = 34 :: (str key ++ [34]))
    (part : Option α) :
    Json.following (memberOf key value part) = optionalMember (str key) emit part := by
  cases part with
  | none => rfl
  | some a =>
      simp only [memberOf, Option.elim_some, Json.following_cons, optionalMember, hemit, hkey]
      simp [Json.following]

/-- A contract as a JSON value. -/
def contractValue (feature : FeatureDefinition) (connectAddrs : List CppString) : Json :=
  .object ((str "feature_id", .string feature.id) ::
    ([(str "completion_mode", .string feature.completionMode.toCppString),
      (str "transport", .string (str "sctp4")),
      (str "connect_addresses", stringsValue connectAddrs),
      (str "client_socket_options", stringsValue feature.clientSocketOptions),
      (str "client_subscriptions", stringsValue feature.clientSubscriptions),
      (str "client_send_messages", messagesValue feature.clientSendMessages),
      (str "server_send_messages", messagesValue feature.serverSendMessages),
      (str "trigger_payload", .string feature.triggerPayload),
      (str "negative_connect_target", .string feature.negativeConnectTarget),
      (str "timeout_seconds", intNumeral feature.timeoutSeconds),
      (str "manual_setup_required", .bool feature.manualSetupRequired),
      (str "manual_setup_instructions", stringsValue feature.manualSetupInstructions),
      (str "report_prompt", .string feature.reportPrompt),
      (str "instructions_text", .string feature.instructionsText)] ++
      memberOf "auth" authValue feature.auth ++
      memberOf "address_reconfig" addressReconfigValue feature.addressReconfig ++
      memberOf "interleaving" interleavingValue feature.interleaving ++
      memberOf "scheduler" schedulerValue feature.scheduler ++
      memberOf "socket_tuning" socketTuningValue feature.socketTuning ++
      memberOf "one_to_many" oneToManyValue feature.oneToMany))

/-- The literals around the members of a contract. -/
theorem contractKeys :
    str "\x7b\"feature_id\":" = 123 :: (quoted (str "feature_id") ++ [58]) ∧
    str ",\"completion_mode\":" = 44 :: (quoted (str "completion_mode") ++ [58]) ∧
    str ",\"connect_addresses\":" = 44 :: (quoted (str "connect_addresses") ++ [58]) ∧
    str ",\"client_socket_options\":" = 44 :: (quoted (str "client_socket_options") ++ [58]) ∧
    str ",\"client_subscriptions\":" = 44 :: (quoted (str "client_subscriptions") ++ [58]) ∧
    str ",\"client_send_messages\":" = 44 :: (quoted (str "client_send_messages") ++ [58]) ∧
    str ",\"server_send_messages\":" = 44 :: (quoted (str "server_send_messages") ++ [58]) ∧
    str ",\"trigger_payload\":" = 44 :: (quoted (str "trigger_payload") ++ [58]) ∧
    str ",\"negative_connect_target\":" = 44 :: (quoted (str "negative_connect_target") ++ [58]) ∧
    str ",\"timeout_seconds\":" = 44 :: (quoted (str "timeout_seconds") ++ [58]) ∧
    str ",\"manual_setup_required\":" = 44 :: (quoted (str "manual_setup_required") ++ [58]) ∧
    str ",\"manual_setup_instructions\":" = 44 :: (quoted (str "manual_setup_instructions") ++ [58]) ∧
    str ",\"report_prompt\":" = 44 :: (quoted (str "report_prompt") ++ [58]) ∧
    str ",\"instructions_text\":" = 44 :: (quoted (str "instructions_text") ++ [58]) ∧
    str ",\"transport\":\"sctp4\"" =
      44 :: (quoted (str "transport") ++ 58 :: quoted (str "sctp4")) := by
  decide

/-- The scenario contract is the text of a JSON object. -/
theorem buildContract_text (feature : FeatureDefinition) (connectAddrs : List CppString) :
    buildContract feature connectAddrs = (contractValue feature connectAddrs).text := by
  rw [contractValue, Json.text_object_cons]
  simp only [Json.following_append, Json.following_cons]
  rw [following_memberOf _ _ _ jsonAuthContract_text (by decide),
    following_memberOf _ _ _ jsonAddressReconfigContract_text (by decide),
    following_memberOf _ _ _ jsonInterleavingContract_text (by decide),
    following_memberOf _ _ _ jsonSchedulerContract_text (by decide),
    following_memberOf _ _ _ jsonSocketTuningContract_text (by decide),
    following_memberOf _ _ _ jsonOneToManyContract_text (by decide)]
  unfold buildContract
  simp only [contractKeys, jsonQuote_eq, jsonBool_text]
  simp [Json.following]

/-! ## Views -/

/-- A reference as a JSON value. -/
def rfcReferenceValue (value : RfcReference) : Json :=
  .object [(str "rfc", .string value.rfc), (str "section", .string value.section_),
    (str "title", .string value.title), (str "url", .string value.url)]

/-- The literals around its members. -/
theorem rfcReferenceKeys :
    str "\x7b\"rfc\":" = 123 :: (quoted (str "rfc") ++ [58]) ∧
    str ",\"section\":" = 44 :: (quoted (str "section") ++ [58]) ∧
    str ",\"title\":" = 44 :: (quoted (str "title") ++ [58]) ∧
    str ",\"url\":" = 44 :: (quoted (str "url") ++ [58]) := by
  decide

/-- It is written as its JSON value. -/
theorem jsonRfcReference_text (value : RfcReference) :
    jsonRfcReference value = (rfcReferenceValue value).text := by
  rw [rfcReferenceValue, Json.text_object_cons]
  simp only [jsonRfcReference, rfcReferenceKeys, jsonQuote_eq, Json.following_cons]
  simp [Json.following]

/-- A list of references as a JSON value. -/
def rfcReferencesValue (values : List RfcReference) : Json :=
  .array (values.map rfcReferenceValue)

/-- A list of references is written as its JSON value. -/
@[simp]
theorem jsonRfcReferences_text (values : List RfcReference) :
    jsonRfcReferences values = (rfcReferencesValue values).text :=
  commaSeparated_text jsonRfcReference rfcReferenceValue jsonRfcReference_text values

/-- The view of an execution; its contract is given as a value, if it is included. -/
def featureValue (feature : FeatureDefinition) (execution : FeatureExecution)
    (contract : Option Json) : Json :=
  .object ((str "id", .string feature.id) ::
    ([(str "title", .string feature.title),
      (str "category", .string feature.category),
      (str "completion_mode", .string feature.completionMode.toCppString),
      (str "manual_setup_required", .bool feature.manualSetupRequired),
      (str "manual_setup_instructions", stringsValue feature.manualSetupInstructions),
      (str "rfc_references", rfcReferencesValue feature.rfcReferences),
      (str "state", .string execution.state.toCppString),
      (str "message", .string execution.message),
      (str "started_at", .string (isoTime execution.startedAt)),
      (str "deadline_at", .string (isoTime execution.deadlineAt)),
      (str "finished_at", .string (isoTime execution.finishedAt)),
      (str "evidence_kind", .string execution.evidenceKind),
      (str "evidence_text", .string execution.evidenceText),
      (str "report_text", .string execution.reportText),
      (str "assoc_ids", stringsValue execution.assocIds)] ++
      memberOf "contract" id contract))

/-- The literals around the members of a feature. -/
theorem featureKeys :
    str "\x7b\"id\":" = 123 :: (quoted (str "id") ++ [58]) ∧
    str ",\"title\":" = 44 :: (quoted (str "title") ++ [58]) ∧
    str ",\"category\":" = 44 :: (quoted (str "category") ++ [58]) ∧
    str ",\"completion_mode\":" = 44 :: (quoted (str "completion_mode") ++ [58]) ∧
    str ",\"manual_setup_required\":" = 44 :: (quoted (str "manual_setup_required") ++ [58]) ∧
    str ",\"manual_setup_instructions\":" = 44 :: (quoted (str "manual_setup_instructions") ++ [58]) ∧
    str ",\"rfc_references\":" = 44 :: (quoted (str "rfc_references") ++ [58]) ∧
    str ",\"state\":" = 44 :: (quoted (str "state") ++ [58]) ∧
    str ",\"message\":" = 44 :: (quoted (str "message") ++ [58]) ∧
    str ",\"started_at\":" = 44 :: (quoted (str "started_at") ++ [58]) ∧
    str ",\"deadline_at\":" = 44 :: (quoted (str "deadline_at") ++ [58]) ∧
    str ",\"finished_at\":" = 44 :: (quoted (str "finished_at") ++ [58]) ∧
    str ",\"evidence_kind\":" = 44 :: (quoted (str "evidence_kind") ++ [58]) ∧
    str ",\"evidence_text\":" = 44 :: (quoted (str "evidence_text") ++ [58]) ∧
    str ",\"report_text\":" = 44 :: (quoted (str "report_text") ++ [58]) ∧
    str ",\"assoc_ids\":" = 44 :: (quoted (str "assoc_ids") ++ [58]) ∧
    str ",\"contract\":" = 44 :: (quoted (str "contract") ++ [58]) := by
  decide

/-- The view of an execution whose contract is the text of a value. -/
theorem featureJsonLocked_text (feature : FeatureDefinition) (execution : FeatureExecution)
    (includeContract : Bool) (contract : Option Json)
    (hcontract : (if includeContract ∧ execution.contractJson ≠ [] then
      str ",\"contract\":" ++ execution.contractJson else []) =
        Json.following (memberOf "contract" id contract)) :
    featureJsonLocked feature execution includeContract =
      (featureValue feature execution contract).text := by
  rw [featureValue, Json.text_object_cons]
  simp only [Json.following_append, ← hcontract, Json.following_cons]
  unfold featureJsonLocked
  simp only [featureKeys, jsonQuote_eq, jsonBool_text]
  simp [Json.following]

variable {c : Catalog}

/-- An entry of a session is written as the JSON value of its feature. -/
theorem entryJson_text (entry : Entry c) :
    entryJson entry = (featureValue (c.definition entry.1) entry.2 none).text := by
  apply featureJsonLocked_text
  rw [if_neg (by simp)]
  rfl

/-- The entries of a session as a JSON value. -/
def entriesValue (entries : List (Entry c)) : Json :=
  .array (entries.map fun entry => featureValue (c.definition entry.1) entry.2 none)

/-- They are written as their JSON value. -/
theorem entries_text (entries : List (Entry c)) :
    [91] ++ commaSeparated (entries.map entryJson) ++ [93] = (entriesValue entries).text :=
  commaSeparated_text entryJson _ entryJson_text entries

/-- A session as a JSON value. -/
def sessionValue (session : Session c) (entries : List (Entry c)) : Json :=
  .object [(str "session_id", .string session.id),
    (str "agent_name", .string session.agentName),
    (str "environment_name", .string session.environmentName),
    (str "created_at", .string (isoTime session.createdAt)),
    (str "active_feature_id", .string session.activeFeatureId),
    (str "dashboard_path", .string (dashboardPath session.id)),
    (str "features", entriesValue entries)]

/-- The literals around the members of a session. -/
theorem sessionKeys :
    str "\x7b\"session_id\":" = 123 :: (quoted (str "session_id") ++ [58]) ∧
    str ",\"agent_name\":" = 44 :: (quoted (str "agent_name") ++ [58]) ∧
    str ",\"environment_name\":" = 44 :: (quoted (str "environment_name") ++ [58]) ∧
    str ",\"created_at\":" = 44 :: (quoted (str "created_at") ++ [58]) ∧
    str ",\"active_feature_id\":" = 44 :: (quoted (str "active_feature_id") ++ [58]) ∧
    str ",\"dashboard_path\":" = 44 :: (quoted (str "dashboard_path") ++ [58]) ∧
    str ",\"features\":[" = 44 :: (quoted (str "features") ++ [58, 91]) ∧
    str "]\x7d" = [93, 125] := by
  decide

/-- A session is written as its JSON value. -/
theorem sessionJson_text (session : Session c) (entries : List (Entry c)) :
    sessionJson session entries = (sessionValue session entries).text := by
  rw [sessionValue, Json.text_object_cons]
  simp only [Json.following_cons, ← entries_text]
  simp only [sessionJson, sessionKeys, jsonQuote_eq]
  simp [Json.following]

/-- A summary as a JSON value. -/
def summaryValue (sessionId : CppString) (entries : List (Entry c)) : Json :=
  let count := countState entries
  .object [(str "session_id", .string sessionId),
    (str "passed", numeral (count .passed)),
    (str "failed", numeral (count .failed)),
    (str "unsupported", numeral (count .unsupported)),
    (str "timed_out", numeral (count .timedOut)),
    (str "pending", numeral (count .pending)),
    (str "active", numeral (count .active)),
    (str "pending_or_active", numeral (count .pending + count .active)),
    (str "complete", .bool (count .pending = 0 ∧ count .active = 0)),
    (str "features", entriesValue entries)]

/-- The literals around the members of a summary. -/
theorem summaryKeys :
    str "\x7b\"session_id\":" = 123 :: (quoted (str "session_id") ++ [58]) ∧
    str ",\"passed\":" = 44 :: (quoted (str "passed") ++ [58]) ∧
    str ",\"failed\":" = 44 :: (quoted (str "failed") ++ [58]) ∧
    str ",\"unsupported\":" = 44 :: (quoted (str "unsupported") ++ [58]) ∧
    str ",\"timed_out\":" = 44 :: (quoted (str "timed_out") ++ [58]) ∧
    str ",\"pending\":" = 44 :: (quoted (str "pending") ++ [58]) ∧
    str ",\"active\":" = 44 :: (quoted (str "active") ++ [58]) ∧
    str ",\"pending_or_active\":" = 44 :: (quoted (str "pending_or_active") ++ [58]) ∧
    str ",\"complete\":" = 44 :: (quoted (str "complete") ++ [58]) ∧
    str ",\"features\":[" = 44 :: (quoted (str "features") ++ [58, 91]) ∧
    str "]\x7d" = [93, 125] := by
  decide

/-- A summary is written as its JSON value. -/
theorem summaryJson_text (sessionId : CppString) (entries : List (Entry c)) :
    summaryJson sessionId entries = (summaryValue sessionId entries).text := by
  dsimp only [summaryValue]
  rw [Json.text_object_cons]
  simp only [Json.following_cons, ← entries_text]
  unfold summaryJson
  simp only [summaryKeys, jsonQuote_eq, jsonBool_text]
  simp [Json.following]

end SctpConformance
