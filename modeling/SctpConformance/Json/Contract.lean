import SctpConformance.Json.Emitted

/-!
# Reading the scenario contract

The client's side of `build_contract`: a decoder for the JSON object, in which the
members that the server leaves out have the default of the field they stand for.

Main results:

- Structure `ScenarioContract`: what a contract says.
- Definition `ScenarioContract.read`: what a client reads from a text.
- Theorem `buildContract_read`: the text that the server builds is one JSON object, and
  the client reads from it all that the feature definition says.
-/

namespace SctpConformance

open Library

/-! ## The contract -/

/-- What a contract tells the client. -/
structure ScenarioContract where
  featureId : CppString
  completionMode : CompletionMode
  transport : CppString
  connectAddresses : List CppString
  clientSocketOptions : List CppString
  clientSubscriptions : List CppString
  clientSendMessages : List MessageSpec
  serverSendMessages : List MessageSpec
  triggerPayload : CppString
  negativeConnectTarget : CppString
  timeoutSeconds : Int
  manualSetupRequired : Bool
  manualSetupInstructions : List CppString
  reportPrompt : CppString
  instructionsText : CppString
  auth : Option AuthContract
  addressReconfig : Option AddressReconfigContract
  interleaving : Option InterleavingContract
  scheduler : Option SchedulerContract
  socketTuning : Option SocketTuningContract
  oneToMany : Option OneToManyContract
deriving DecidableEq

/-- What the contract of a feature is to say. -/
def ScenarioContract.ofFeature (feature : FeatureDefinition) (connectAddrs : List CppString) :
    ScenarioContract where
  featureId := feature.id
  completionMode := feature.completionMode
  transport := str "sctp4"
  connectAddresses := connectAddrs
  clientSocketOptions := feature.clientSocketOptions
  clientSubscriptions := feature.clientSubscriptions
  clientSendMessages := feature.clientSendMessages
  serverSendMessages := feature.serverSendMessages
  triggerPayload := feature.triggerPayload
  negativeConnectTarget := feature.negativeConnectTarget
  timeoutSeconds := feature.timeoutSeconds
  manualSetupRequired := feature.manualSetupRequired
  manualSetupInstructions := feature.manualSetupInstructions
  reportPrompt := feature.reportPrompt
  instructionsText := feature.instructionsText
  auth := feature.auth
  addressReconfig := feature.addressReconfig
  interleaving := feature.interleaving
  scheduler := feature.scheduler
  socketTuning := feature.socketTuning
  oneToMany := feature.oneToMany

/-! ## Decoding -/

/-- A number below 2 ^ 8. -/
def decodeUInt8 (value : Json) : Option UInt8 :=
  (value.toNatBelow UInt8.size).map UInt8.ofNat

/-- A number below 2 ^ 16. -/
def decodeUInt16 (value : Json) : Option UInt16 :=
  (value.toNatBelow UInt16.size).map UInt16.ofNat

/-- A number below 2 ^ 32. -/
def decodeUInt32 (value : Json) : Option UInt32 :=
  (value.toNatBelow UInt32.size).map UInt32.ofNat

/-- An array of strings. -/
def decodeStrings (value : Json) : Option (List CppString) :=
  value.toList Json.toBytes

/-- The mode with this text. -/
def decodeCompletionMode (value : Json) : Option CompletionMode :=
  match value.toBytes with
  | none => none
  | some text =>
      [CompletionMode.serverObserved, .agentReported, .hybrid].find? fun mode =>
        mode.toCppString = text

/-- A message, with defaults for the members that can be left out. -/
def decodeMessage : Json → Option MessageSpec
  | .object members => do
      let payload ← Json.field members (str "payload") Json.toBytes
      let stream ← Json.field members (str "stream") decodeUInt16
      let ppid ← Json.field members (str "ppid") decodeUInt32
      let sizeBytes ← Json.fieldOr members (str "size_bytes") 0 Json.toNat
      let unordered ← Json.fieldOr members (str "unordered") false Json.toBool
      let prPolicy ← Json.fieldOr members (str "pr_policy") [] Json.toBytes
      let prValue ← Json.fieldOr members (str "pr_value") 0 decodeUInt32
      let authKeyId ← Json.fieldOr members (str "auth_key_id") 0 decodeUInt16
      some { payload, stream, ppid, sizeBytes, unordered, prPolicy, prValue, authKeyId }
  | _ => none

/-- The authentication of a feature. -/
def decodeAuth : Json → Option AuthContract
  | .object members => do
      let chunkTypes ← Json.field members (str "chunk_types") (Json.toList decodeUInt8)
      let primaryKeyId ← Json.field members (str "primary_key_id") decodeUInt16
      let primarySecret ← Json.field members (str "primary_secret") Json.toBytes
      let secondaryKeyId ← Json.field members (str "secondary_key_id") decodeUInt16
      let secondarySecret ← Json.field members (str "secondary_secret") Json.toBytes
      some { chunkTypes, primaryKeyId, primarySecret, secondaryKeyId, secondarySecret }
  | _ => none

/-- The addresses that change. -/
def decodeAddressReconfig : Json → Option AddressReconfigContract
  | .object members => do
      let addAddresses ← Json.field members (str "add_addresses") decodeStrings
      let removeAddresses ← Json.field members (str "remove_addresses") decodeStrings
      some { addAddresses, removeAddresses }
  | _ => none

/-- The interleaved messages. -/
def decodeInterleaving : Json → Option InterleavingContract
  | .object members => do
      let fragmentInterleaveLevel ←
        Json.field members (str "fragment_interleave_level") Json.toInt
      let largeMessageSize ← Json.field members (str "large_message_size") Json.toNat
      let largeStream ← Json.field members (str "large_stream") decodeUInt16
      let largePpid ← Json.field members (str "large_ppid") decodeUInt32
      let smallStream ← Json.field members (str "small_stream") decodeUInt16
      let smallPpid ← Json.field members (str "small_ppid") decodeUInt32
      let smallMessageCount ← Json.field members (str "small_message_count") Json.toInt
      some { fragmentInterleaveLevel, largeMessageSize, largeStream, largePpid, smallStream,
             smallPpid, smallMessageCount }
  | _ => none

/-- The scheduling policy. -/
def decodeScheduler : Json → Option SchedulerContract
  | .object members => do
      let policy ← Json.field members (str "policy") Json.toBytes
      let primaryStream ← Json.field members (str "primary_stream") decodeUInt16
      let secondaryStream ← Json.field members (str "secondary_stream") decodeUInt16
      let primaryValue ← Json.field members (str "primary_value") decodeUInt16
      let secondaryValue ← Json.field members (str "secondary_value") decodeUInt16
      let messageCount ← Json.field members (str "message_count") Json.toInt
      some { policy, primaryStream, secondaryStream, primaryValue, secondaryValue, messageCount }
  | _ => none

/-- The socket options; one that is left out is zero. -/
def decodeSocketTuning : Json → Option SocketTuningContract
  | .object members => do
      let delayedSackDelayMs ←
        Json.fieldOr members (str "delayed_sack_delay_ms") 0 decodeUInt32
      let delayedSackFreq ← Json.fieldOr members (str "delayed_sack_freq") 0 decodeUInt32
      let maxBurst ← Json.fieldOr members (str "max_burst") 0 decodeUInt32
      let maxseg ← Json.fieldOr members (str "maxseg") 0 decodeUInt32
      some { delayedSackDelayMs, delayedSackFreq, maxBurst, maxseg }
  | _ => none

/-- The expected associations. -/
def decodeOneToMany : Json → Option OneToManyContract
  | .object members => do
      let expectedAssociations ← Json.field members (str "expected_associations") Json.toNat
      let sameSocketRequired ← Json.field members (str "same_socket_required") Json.toBool
      let requireDistinctAssocIds ←
        Json.field members (str "require_distinct_assoc_ids") Json.toBool
      some { expectedAssociations, sameSocketRequired, requireDistinctAssocIds }
  | _ => none

/-- A contract, with the parts that its feature has. -/
def decodeContract : Json → Option ScenarioContract
  | .object members => do
      let featureId ← Json.field members (str "feature_id") Json.toBytes
      let completionMode ← Json.field members (str "completion_mode") decodeCompletionMode
      let transport ← Json.field members (str "transport") Json.toBytes
      let connectAddresses ← Json.field members (str "connect_addresses") decodeStrings
      let clientSocketOptions ← Json.field members (str "client_socket_options") decodeStrings
      let clientSubscriptions ← Json.field members (str "client_subscriptions") decodeStrings
      let clientSendMessages ←
        Json.field members (str "client_send_messages") (Json.toList decodeMessage)
      let serverSendMessages ←
        Json.field members (str "server_send_messages") (Json.toList decodeMessage)
      let triggerPayload ← Json.field members (str "trigger_payload") Json.toBytes
      let negativeConnectTarget ←
        Json.field members (str "negative_connect_target") Json.toBytes
      let timeoutSeconds ← Json.field members (str "timeout_seconds") Json.toInt
      let manualSetupRequired ← Json.field members (str "manual_setup_required") Json.toBool
      let manualSetupInstructions ←
        Json.field members (str "manual_setup_instructions") decodeStrings
      let reportPrompt ← Json.field members (str "report_prompt") Json.toBytes
      let instructionsText ← Json.field members (str "instructions_text") Json.toBytes
      let auth ← Json.fieldIf members (str "auth") decodeAuth
      let addressReconfig ←
        Json.fieldIf members (str "address_reconfig") decodeAddressReconfig
      let interleaving ← Json.fieldIf members (str "interleaving") decodeInterleaving
      let scheduler ← Json.fieldIf members (str "scheduler") decodeScheduler
      let socketTuning ← Json.fieldIf members (str "socket_tuning") decodeSocketTuning
      let oneToMany ← Json.fieldIf members (str "one_to_many") decodeOneToMany
      some { featureId, completionMode, transport, connectAddresses, clientSocketOptions,
             clientSubscriptions, clientSendMessages, serverSendMessages, triggerPayload,
             negativeConnectTarget, timeoutSeconds, manualSetupRequired,
             manualSetupInstructions, reportPrompt, instructionsText, auth, addressReconfig,
             interleaving, scheduler, socketTuning, oneToMany }
  | _ => none

/-- What a client reads from a text. -/
def ScenarioContract.read (text : CppString) : Option ScenarioContract :=
  (readJson text).bind decodeContract

/-! ## Numbers are decoded -/

/-- A natural number is read back as a whole one. -/
@[simp]
theorem toInt_numeral (n : Nat) : (numeral n).toInt = some (n : Int) := by
  rw [numeral, Json.toInt, intOfToken_digits (decimal_ne_nil n) (decimal_digits n),
    natOfDigits_decimal]
  rfl

/-- A whole number is read back. -/
@[simp]
theorem toInt_intNumeral (n : Int) : (intNumeral n).toInt = some n := by
  rw [intNumeral, Json.toInt]
  by_cases hneg : n < 0
  · have hdecimal : decimalInt n = 45 :: decimal n.natAbs := if_pos hneg
    have habs : -Int.ofNat n.natAbs = n := by
      change -(n.natAbs : Int) = n
      omega
    simp only [hdecimal]
    rw [intOfToken_minus (decimal_digits _), natOfDigits_decimal, habs]
  · have hdecimal : decimalInt n = decimal n.natAbs := if_neg hneg
    have habs : Int.ofNat n.natAbs = n := by
      change (n.natAbs : Int) = n
      omega
    simp only [hdecimal]
    rw [intOfToken_digits (decimal_ne_nil _) (decimal_digits _), natOfDigits_decimal, habs]

/-- A natural number is read back. -/
@[simp]
theorem toNat_numeral (n : Nat) : (numeral n).toNat = some n := by
  simp [Json.toNat]

/-- A natural number is read back below any bound that it keeps to. -/
theorem toNatBelow_numeral {bound n : Nat} (h : n < bound) :
    (numeral n).toNatBelow bound = some n := by
  simp [Json.toNatBelow, h]

/-- A number of 8 bits is read back. -/
@[simp]
theorem decodeUInt8_numeral (n : UInt8) : decodeUInt8 (numeral n.toNat) = some n := by
  rw [decodeUInt8, toNatBelow_numeral n.toNat_lt]
  simp

/-- A number of 16 bits is read back. -/
@[simp]
theorem decodeUInt16_numeral (n : UInt16) : decodeUInt16 (numeral n.toNat) = some n := by
  rw [decodeUInt16, toNatBelow_numeral n.toNat_lt]
  simp

/-- A number of 32 bits is read back. -/
@[simp]
theorem decodeUInt32_numeral (n : UInt32) : decodeUInt32 (numeral n.toNat) = some n := by
  rw [decodeUInt32, toNatBelow_numeral n.toNat_lt]
  simp

/-! ## Members are found -/

/-- Texts with the same bytes are the same. -/
@[simp]
theorem str_inj {a b : String} : str a = str b ↔ a = b := by
  constructor
  · intro h
    apply String.toByteArray_inj.mp
    apply ByteArray.ext
    exact Array.toList_inj.mp h
  · rintro rfl
    rfl

/-- A member that may be left out is found if it is there. -/
theorem lookup_memberIf (key k : String) (condition : Prop) [Decidable condition]
    (value : Json) :
    lookup (str key) (memberIf condition k value) =
      if k = key then if condition then some value else none else none := by
  unfold memberIf
  by_cases hcondition : condition
  · simp [hcondition, lookup]
  · simp [hcondition, lookup]

/-- The same for a part of the contract. -/
theorem lookup_memberOf {α : Type} (key k : String) (value : α → Json) (part : Option α) :
    lookup (str key) (memberOf k value part) = if k = key then part.map value else none := by
  cases part with
  | none => simp [memberOf, lookup]
  | some a => simp [memberOf, lookup]

/-- A member that is left out when its field has the default value. -/
theorem fieldOr_of_lookup {α : Type} {members : List (CppString × Json)} {key : CppString}
    (condition : Prop) [Decidable condition] {value : Json} {a default : α}
    {decode : Json → Option α} (hdecode : condition → decode value = some a)
    (hdefault : ¬condition → default = a)
    (hlookup : lookup key members = if condition then some value else none) :
    Json.fieldOr members key default decode = some a := by
  unfold Json.fieldOr
  rw [hlookup]
  by_cases hcondition : condition
  · rw [if_pos hcondition]
    exact hdecode hcondition
  · rw [if_neg hcondition, hdefault hcondition]

/-- A member for an optional part. -/
theorem fieldIf_of_lookup {α : Type} {members : List (CppString × Json)} {key : CppString}
    {value : α → Json} {decode : Json → Option α} {part : Option α}
    (hdecode : ∀ a, decode (value a) = some a) (hlookup : lookup key members = part.map value) :
    Json.fieldIf members key decode = some part := by
  unfold Json.fieldIf
  rw [hlookup]
  cases part with
  | none => rfl
  | some a => simp [hdecode]

/-! ## What is emitted is decoded -/

/-- A list of strings is read back. -/
@[simp]
theorem decodeStrings_stringsValue (values : List CppString) :
    decodeStrings (stringsValue values) = some values := by
  apply Json.toList_map
  intro value
  rfl

/-- A list of small numbers is read back. -/
@[simp]
theorem decodeBytes_bytesValue (values : List UInt8) :
    Json.toList decodeUInt8 (bytesValue values) = some values :=
  Json.toList_map decodeUInt8_numeral values

/-- A mode is read back. -/
@[simp]
theorem decodeCompletionMode_string (mode : CompletionMode) :
    decodeCompletionMode (.string mode.toCppString) = some mode := by
  cases mode <;> decide

/-- A string is read back. -/
@[simp]
theorem toBytes_string (value : CppString) : Json.toBytes (.string value) = some value :=
  rfl

/-- A truth value is read back. -/
@[simp]
theorem toBool_bool (value : Bool) : Json.toBool (.bool value) = some value :=
  rfl

/-- A message is read back. -/
theorem decodeMessage_messageValue (value : MessageSpec) :
    decodeMessage (messageValue value) = some value := by
  unfold messageValue decodeMessage
  dsimp only
  -- The members that may be missing have the default of their field then.
  rw [fieldOr_of_lookup (value.sizeBytes ≠ 0) (fun _ => toNat_numeral value.sizeBytes)
      (fun h => (not_ne_iff.mp h).symm) (by simp [lookup, lookup_append, lookup_memberIf]),
    fieldOr_of_lookup (value.unordered = true) (fun h => (toBool_bool true).trans (congrArg some h.symm))
      (fun h => (eq_false_of_ne_true h).symm) (by simp [lookup, lookup_append, lookup_memberIf]),
    fieldOr_of_lookup (value.prPolicy ≠ []) (fun _ => toBytes_string value.prPolicy)
      (fun h => (not_ne_iff.mp h).symm) (by simp [lookup, lookup_append, lookup_memberIf]),
    fieldOr_of_lookup (value.prValue ≠ 0) (fun _ => decodeUInt32_numeral value.prValue)
      (fun h => (not_ne_iff.mp h).symm) (by simp [lookup, lookup_append, lookup_memberIf]),
    fieldOr_of_lookup (value.authKeyId ≠ 0) (fun _ => decodeUInt16_numeral value.authKeyId)
      (fun h => (not_ne_iff.mp h).symm) (by simp [lookup, lookup_append, lookup_memberIf])]
  simp [Json.field, lookup, lookup_append, lookup_memberIf]

/-- A list of messages is read back. -/
@[simp]
theorem decodeMessages_messagesValue (values : List MessageSpec) :
    Json.toList decodeMessage (messagesValue values) = some values :=
  Json.toList_map decodeMessage_messageValue values

/-- The authentication of a feature is read back. -/
theorem decodeAuth_authValue (auth : AuthContract) :
    decodeAuth (authValue auth) = some auth := by
  simp [decodeAuth, authValue, Json.field, lookup]

/-- The addresses that change are read back. -/
theorem decodeAddressReconfig_addressReconfigValue (config : AddressReconfigContract) :
    decodeAddressReconfig (addressReconfigValue config) = some config := by
  simp [decodeAddressReconfig, addressReconfigValue, Json.field, lookup]

/-- The interleaved messages are read back. -/
theorem decodeInterleaving_interleavingValue (config : InterleavingContract) :
    decodeInterleaving (interleavingValue config) = some config := by
  simp [decodeInterleaving, interleavingValue, Json.field, lookup]

/-- The scheduling policy is read back. -/
theorem decodeScheduler_schedulerValue (config : SchedulerContract) :
    decodeScheduler (schedulerValue config) = some config := by
  simp [decodeScheduler, schedulerValue, Json.field, lookup]

/-- The expected associations are read back. -/
theorem decodeOneToMany_oneToManyValue (config : OneToManyContract) :
    decodeOneToMany (oneToManyValue config) = some config := by
  simp [decodeOneToMany, oneToManyValue, Json.field, lookup]

/-- The socket options are read back. -/
theorem decodeSocketTuning_socketTuningValue (config : SocketTuningContract) :
    decodeSocketTuning (socketTuningValue config) = some config := by
  unfold socketTuningValue decodeSocketTuning tuningMember
  dsimp only
  rw [fieldOr_of_lookup (config.delayedSackDelayMs ≠ 0)
      (fun _ => decodeUInt32_numeral config.delayedSackDelayMs)
      (fun h => (not_ne_iff.mp h).symm) (by simp [lookup_append, lookup_memberIf]),
    fieldOr_of_lookup (config.delayedSackFreq ≠ 0) (fun _ => decodeUInt32_numeral config.delayedSackFreq)
      (fun h => (not_ne_iff.mp h).symm) (by simp [lookup_append, lookup_memberIf]),
    fieldOr_of_lookup (config.maxBurst ≠ 0) (fun _ => decodeUInt32_numeral config.maxBurst)
      (fun h => (not_ne_iff.mp h).symm) (by simp [lookup_append, lookup_memberIf]),
    fieldOr_of_lookup (config.maxseg ≠ 0) (fun _ => decodeUInt32_numeral config.maxseg)
      (fun h => (not_ne_iff.mp h).symm) (by simp [lookup_append, lookup_memberIf])]
  rfl

/-- A contract is read back as what the feature asks for. -/
theorem decodeContract_contractValue (feature : FeatureDefinition)
    (connectAddrs : List CppString) :
    decodeContract (contractValue feature connectAddrs) =
      some (.ofFeature feature connectAddrs) := by
  unfold contractValue decodeContract
  dsimp only
  rw [fieldIf_of_lookup decodeAuth_authValue
      (by simp [lookup, lookup_append, lookup_memberOf]; rfl),
    fieldIf_of_lookup decodeAddressReconfig_addressReconfigValue
      (by simp [lookup, lookup_append, lookup_memberOf]; rfl),
    fieldIf_of_lookup decodeInterleaving_interleavingValue
      (by simp [lookup, lookup_append, lookup_memberOf]; rfl),
    fieldIf_of_lookup decodeScheduler_schedulerValue
      (by simp [lookup, lookup_append, lookup_memberOf]; rfl),
    fieldIf_of_lookup decodeSocketTuning_socketTuningValue
      (by simp [lookup, lookup_append, lookup_memberOf]; rfl),
    fieldIf_of_lookup decodeOneToMany_oneToManyValue
      (by simp [lookup, lookup_append, lookup_memberOf]; rfl)]
  simp [Json.field, lookup, lookup_append, lookup_memberOf]
  rfl

/-! ## The round trip -/

/-- For every feature definition and every list of addresses, the contract that the
server builds is one JSON object, and a client reads from it all that the definition
says. -/
theorem buildContract_read (feature : FeatureDefinition) (connectAddrs : List CppString) :
    (∃ members, readJson (buildContract feature connectAddrs) = some (.object members)) ∧
    ScenarioContract.read (buildContract feature connectAddrs) =
      some (.ofFeature feature connectAddrs) := by
  have hread : readJson (buildContract feature connectAddrs) =
      some (contractValue feature connectAddrs) := by
    rw [buildContract_text, readJson_text]
  constructor
  · exact ⟨_, hread⟩
  · rw [ScenarioContract.read, hread]
    exact decodeContract_contractValue feature connectAddrs

end SctpConformance
