import SctpConformance.Json.Emitted
import SctpConformance.Server.Routing

/-!
# When the texts of the server are valid

Every body that the server writes is a JSON text whatever bytes its strings hold, and
it is in UTF-8 if these strings are.  The strings of a record are listed once, so that a
condition on all of them is one statement.

Main results:

- Definitions `FeatureDefinition.texts` and `FeatureExecution.texts`: the strings of a
  record.
- Definition `FeatureExecution.Readable`: what a stored execution has to satisfy.
- Theorems `featureJsonLocked_valid`, `sessionJson_valid`, `summaryJson_valid`,
  `featuresJson_valid` and `jsonError_valid`: the bodies are valid.
-/

namespace SctpConformance

open Library

/-! ## Literals, numbers and times -/

/-- A literal of the source is in UTF-8. -/
@[simp]
theorem isUtf8_str (literal : String) : IsUtf8 (str literal) := by
  refine ⟨literal.toList, ?_⟩
  rw [← str_ofList, String.ofList_toList]

/-- Digits are UTF-8. -/
@[simp]
theorem isUtf8_decimal (n : Nat) : IsUtf8 (decimal n) :=
  isUtf8_str _

/-- So is a whole number. -/
theorem isUtf8_decimalInt (n : Int) : IsUtf8 (decimalInt n) := by
  unfold decimalInt
  split
  · exact IsUtf8.cons (by decide) (isUtf8_decimal _)
  · exact isUtf8_decimal _

/-- So are two digits. -/
theorem isUtf8_twoDigits (n : Nat) : IsUtf8 (twoDigits n) := by
  have hdigit : ∀ d < 10, UInt8.ofNat (48 + d) < 0x80 := by decide
  apply isUtf8_ascii
  intro b hb
  simp only [twoDigits, List.mem_cons, List.not_mem_nil, or_false] at hb
  rcases hb with rfl | rfl
  · exact hdigit _ (Nat.mod_lt _ (by omega))
  · exact hdigit _ (Nat.mod_lt _ (by omega))

/-- Two digits behind a mark, which is how a date and a clock go on. -/
theorem isUtf8_markedDigits {s : CppString} (hs : IsUtf8 s) {mark : UInt8} (hmark : mark < 0x80)
    (n : Nat) : IsUtf8 (s ++ [mark] ++ twoDigits n) := by
  have hone : IsUtf8 [mark] := IsUtf8.cons hmark isUtf8_nil
  exact (hs.append hone).append (isUtf8_twoDigits n)

/-- So is a time. -/
@[simp]
theorem isUtf8_isoTime (point : TimePoint) : IsUtf8 (isoTime point) := by
  have hdash : (45 : UInt8) < 0x80 := by decide
  have hcolon : (58 : UInt8) < 0x80 := by decide
  have hz : IsUtf8 [90] := IsUtf8.cons (by decide) isUtf8_nil
  unfold isoTime
  split
  · exact isUtf8_nil
  · apply IsUtf8.append _ hz
    refine isUtf8_markedDigits (isUtf8_markedDigits ?_ hcolon _) hcolon _
    refine isUtf8_markedDigits ?_ (by decide) _
    exact isUtf8_markedDigits (isUtf8_markedDigits (isUtf8_decimalInt _) hdash _) hdash _

/-- So is the name of a mode. -/
@[simp]
theorem isUtf8_completionMode (mode : CompletionMode) : IsUtf8 mode.toCppString := by
  cases mode <;> exact isUtf8_str _

/-- So is the name of a state. -/
@[simp]
theorem isUtf8_featureState (state : FeatureState) : IsUtf8 state.toCppString := by
  cases state <;> exact isUtf8_str _

/-! ## The strings of a feature -/

/-- The texts of a message. -/
def MessageSpec.texts (message : MessageSpec) : List CppString :=
  [message.payload, message.prPolicy]

/-- The texts of a reference. -/
def RfcReference.texts (reference : RfcReference) : List CppString :=
  [reference.rfc, reference.section_, reference.title, reference.url]

/-- The texts of the authentication of a feature. -/
def AuthContract.texts (auth : AuthContract) : List CppString :=
  [auth.primarySecret, auth.secondarySecret]

/-- The texts of the addresses that change. -/
def AddressReconfigContract.texts (config : AddressReconfigContract) : List CppString :=
  config.addAddresses ++ config.removeAddresses

/-- The strings of a definition. -/
def FeatureDefinition.texts (feature : FeatureDefinition) : List CppString :=
  [feature.id, feature.title, feature.category, feature.summary, feature.instructionsText,
    feature.reportPrompt, feature.triggerPayload, feature.negativeConnectTarget] ++
    feature.rfcReferences.flatMap RfcReference.texts ++
    feature.clientSocketOptions ++ feature.clientSubscriptions ++
    feature.clientSendMessages.flatMap MessageSpec.texts ++
    feature.serverSendMessages.flatMap MessageSpec.texts ++
    feature.auth.toList.flatMap AuthContract.texts ++
    feature.addressReconfig.toList.flatMap AddressReconfigContract.texts ++
    (feature.scheduler.toList.map SchedulerContract.policy) ++
    feature.manualSetupInstructions

/-- All texts of a list are in UTF-8. -/
def AllUtf8 (texts : List CppString) : Prop :=
  ∀ text ∈ texts, IsUtf8 text

@[simp]
theorem allUtf8_nil : AllUtf8 [] := by
  simp [AllUtf8]

/-- A list of texts is UTF-8 if each of them is. -/
@[simp]
theorem allUtf8_cons {text : CppString} {texts : List CppString} :
    AllUtf8 (text :: texts) ↔ IsUtf8 text ∧ AllUtf8 texts := by
  simp [AllUtf8]

/-- So are two lists. -/
@[simp]
theorem allUtf8_append {texts texts' : List CppString} :
    AllUtf8 (texts ++ texts') ↔ AllUtf8 texts ∧ AllUtf8 texts' := by
  simp only [AllUtf8, List.mem_append, or_imp, forall_and]

/-- So are the texts of several values. -/
@[simp]
theorem allUtf8_flatMap {α : Type} {f : α → List CppString} {values : List α} :
    AllUtf8 (values.flatMap f) ↔ ∀ value ∈ values, AllUtf8 (f value) := by
  simp only [AllUtf8, List.mem_flatMap]
  constructor
  · intro h value hvalue text htext
    exact h text ⟨value, hvalue, htext⟩
  · rintro h text ⟨value, hvalue, htext⟩
    exact h value hvalue text htext

/-- The literals of the catalog are in UTF-8. -/
def Catalog.Utf8 (c : Catalog) : Prop :=
  ∀ feature ∈ c.features, AllUtf8 feature.texts

/-- An entry of such a catalog has UTF-8 texts. -/
theorem Catalog.Utf8.definition {c : Catalog} (h : c.Utf8) (r : c.Ref) :
    AllUtf8 (c.definition r).texts :=
  h _ (List.get_mem c.features r)

/-- So is its identifier. -/
theorem Catalog.Utf8.id {c : Catalog} (h : c.Utf8) (r : c.Ref) : IsUtf8 (c.id r) := by
  apply h.definition r
  simp [FeatureDefinition.texts, Catalog.id]

/-! ## The values of the parts -/

/-- A number has no strings. -/
@[simp]
theorem utf8_numeral (n : Nat) : (numeral n).Utf8Strings :=
  trivial

/-- Nor has a whole number. -/
@[simp]
theorem utf8_intNumeral (n : Int) : (intNumeral n).Utf8Strings :=
  trivial

/-- A string is UTF-8 if its bytes are. -/
@[simp]
theorem utf8_string {value : CppString} : (Json.string value).Utf8Strings ↔ IsUtf8 value :=
  Iff.rfl

/-- A truth value has no strings. -/
@[simp]
theorem utf8_bool (value : Bool) : (Json.bool value).Utf8Strings :=
  trivial

/-- The strings of an object are those of its members. -/
@[simp]
theorem utf8_object {members : List (CppString × Json)} :
    (Json.object members).Utf8Strings ↔ Json.Utf8Members members :=
  Iff.rfl

@[simp]
theorem utf8Members_nil : Json.Utf8Members [] :=
  trivial

/-- Members are UTF-8 if their keys and values are. -/
@[simp]
theorem utf8Members_cons {key : CppString} {value : Json} {members : List (CppString × Json)} :
    Json.Utf8Members ((key, value) :: members) ↔
      IsUtf8 key ∧ value.Utf8Strings ∧ Json.Utf8Members members :=
  Iff.rfl

/-- A member under a condition is UTF-8 if it is there. -/
@[simp]
theorem utf8Members_memberIf {condition : Prop} [Decidable condition] {key : String}
    {value : Json} :
    Json.Utf8Members (memberIf condition key value) ↔ (condition → value.Utf8Strings) := by
  unfold memberIf
  by_cases h : condition <;> simp [h]

/-- So is the member of a part. -/
@[simp]
theorem utf8Members_memberOf {α : Type} {key : String} {value : α → Json} {part : Option α} :
    Json.Utf8Members (memberOf key value part) ↔ ∀ a ∈ part, (value a).Utf8Strings := by
  unfold memberOf
  cases part <;> simp

/-- An array is UTF-8 if its elements are. -/
@[simp]
theorem utf8_map {α : Type} {value : α → Json} {values : List α} :
    (Json.array (values.map value)).Utf8Strings ↔ ∀ a ∈ values, (value a).Utf8Strings := by
  refine Json.utf8Elements_iff.trans ?_
  simp

/-- An array of strings is UTF-8 if they are. -/
@[simp]
theorem utf8_stringsValue {values : List CppString} :
    (stringsValue values).Utf8Strings ↔ AllUtf8 values :=
  utf8_map

/-- An array of numbers has no strings. -/
@[simp]
theorem utf8_bytesValue (values : List UInt8) : (bytesValue values).Utf8Strings := by
  simp [bytesValue]

/-- The value of a message has the texts of the message. -/
theorem utf8_messageValue {message : MessageSpec} (h : AllUtf8 message.texts) :
    (messageValue message).Utf8Strings := by
  simp only [MessageSpec.texts, allUtf8_cons, allUtf8_nil, and_true] at h
  simp [messageValue, Json.utf8Members_append, h]

/-- So have the values of several messages. -/
theorem utf8_messagesValue {messages : List MessageSpec}
    (h : ∀ message ∈ messages, AllUtf8 message.texts) : (messagesValue messages).Utf8Strings := by
  simp only [messagesValue, utf8_map]
  exact fun message hmessage => utf8_messageValue (h message hmessage)

/-- The value of the authentication has its secrets. -/
theorem utf8_authValue {auth : AuthContract} (h : AllUtf8 auth.texts) :
    (authValue auth).Utf8Strings := by
  simp only [AuthContract.texts, allUtf8_cons, allUtf8_nil, and_true] at h
  simp [authValue, h]

/-- The value of the addresses that change has these addresses. -/
theorem utf8_addressReconfigValue {config : AddressReconfigContract} (h : AllUtf8 config.texts) :
    (addressReconfigValue config).Utf8Strings := by
  simp only [AddressReconfigContract.texts, allUtf8_append] at h
  simp [addressReconfigValue, h]

/-- The value of the interleaved messages has no texts of its own. -/
@[simp]
theorem utf8_interleavingValue (config : InterleavingContract) :
    (interleavingValue config).Utf8Strings := by
  simp [interleavingValue]

/-- The value of the scheduling policy has its name. -/
theorem utf8_schedulerValue {config : SchedulerContract} (h : IsUtf8 config.policy) :
    (schedulerValue config).Utf8Strings := by
  simp [schedulerValue, h]

/-- Nor has that of the expected associations. -/
@[simp]
theorem utf8_oneToManyValue (config : OneToManyContract) : (oneToManyValue config).Utf8Strings := by
  simp [oneToManyValue]

/-- Nor has that of the socket options. -/
@[simp]
theorem utf8_socketTuningValue (config : SocketTuningContract) :
    (socketTuningValue config).Utf8Strings := by
  simp [socketTuningValue, tuningMember, Json.utf8Members_append]

/-- The value of the references has their texts. -/
theorem utf8_rfcReferencesValue {references : List RfcReference}
    (h : ∀ reference ∈ references, AllUtf8 reference.texts) :
    (rfcReferencesValue references).Utf8Strings := by
  simp only [rfcReferencesValue, utf8_map]
  intro reference hreference
  have htexts := h reference hreference
  simp only [RfcReference.texts, allUtf8_cons, allUtf8_nil, and_true] at htexts
  simp [rfcReferenceValue, htexts]

/-! ## Contracts and views -/

variable {feature : FeatureDefinition} {execution : FeatureExecution}

/-- A contract is in UTF-8 if the definition and the addresses are. -/
theorem utf8_contractValue (hfeature : AllUtf8 feature.texts) {connectAddrs : List CppString}
    (haddrs : AllUtf8 connectAddrs) : (contractValue feature connectAddrs).Utf8Strings := by
  simp only [FeatureDefinition.texts, allUtf8_append, allUtf8_cons, allUtf8_flatMap] at hfeature
  rcases hfeature with
    ⟨⟨⟨⟨⟨⟨⟨⟨⟨htexts, -⟩, hoptions⟩, hsubscriptions⟩, hclient⟩, hserver⟩, hauth⟩, hconfig⟩,
      hscheduler⟩, hmanual⟩
  have hmessages := utf8_messagesValue hclient
  have hmessages' := utf8_messagesValue hserver
  have hauthValue : ∀ auth, feature.auth = some auth → (authValue auth).Utf8Strings := by
    intro auth h
    exact utf8_authValue (hauth auth (by simp [h]))
  have hconfigValue : ∀ config, feature.addressReconfig = some config →
      (addressReconfigValue config).Utf8Strings := by
    intro config h
    exact utf8_addressReconfigValue (hconfig config (by simp [h]))
  have hschedulerValue : ∀ config, feature.scheduler = some config →
      (schedulerValue config).Utf8Strings := by
    intro config h
    exact utf8_schedulerValue (hscheduler config.policy (by simp [h]))
  simpa [contractValue, Json.utf8Members_append, htexts, hoptions, hsubscriptions, hmanual,
    haddrs, hmessages, hmessages'] using And.intro hauthValue ⟨hconfigValue, hschedulerValue⟩

/-- The strings of an execution that are written as strings. -/
def FeatureExecution.texts (execution : FeatureExecution) : List CppString :=
  [execution.message, execution.evidenceKind, execution.evidenceText, execution.reportText] ++
    execution.assocIds

/-- A contract that a feature view can include. -/
def ReadableContract (contract : CppString) : Prop :=
  contract ≠ [] → ∃ value : Json, contract = value.text ∧ value.Utf8Strings

/-- The strings of an execution are in UTF-8, and its contract can be included in a view. -/
structure FeatureExecution.Readable (execution : FeatureExecution) : Prop where
  texts : AllUtf8 execution.texts
  contract : ReadableContract execution.contractJson

/-- The value of a feature has the texts of its definition, its execution and its contract. -/
theorem utf8_featureValue (hfeature : AllUtf8 feature.texts) (hexecution : AllUtf8 execution.texts)
    {contract : Option Json} (hcontract : ∀ value ∈ contract, value.Utf8Strings) :
    (featureValue feature execution contract).Utf8Strings := by
  simp only [FeatureDefinition.texts, allUtf8_append, allUtf8_cons, allUtf8_flatMap] at hfeature
  rcases hfeature with ⟨⟨⟨⟨⟨⟨⟨⟨⟨htexts, hreferences⟩, -⟩, -⟩, -⟩, -⟩, -⟩, -⟩, -⟩, hmanual⟩
  have hrfc := utf8_rfcReferencesValue hreferences
  simp only [FeatureExecution.texts, allUtf8_append, allUtf8_cons] at hexecution
  simpa [featureValue, htexts, hmanual, hrfc, hexecution] using hcontract

/-- The view of an execution is valid. -/
theorem featureJsonLocked_valid (hfeature : AllUtf8 feature.texts)
    (hexecution : execution.Readable) (includeContract : Bool) :
    ValidJson (featureJsonLocked feature execution includeContract) := by
  by_cases hinclude : includeContract = true ∧ execution.contractJson ≠ []
  · rcases hexecution.contract hinclude.2 with ⟨value, htext, hvalue⟩
    rw [featureJsonLocked_text feature execution includeContract (some value)]
    · exact Json.validJson_text (utf8_featureValue hfeature hexecution.texts (by simpa using hvalue))
    · have hkey : str ",\"contract\":" = 44 :: (quoted (str "contract") ++ [58]) := by decide
      rw [if_pos hinclude, htext, hkey]
      simp [memberOf, Json.following]
  · rw [featureJsonLocked_text feature execution includeContract none]
    · exact Json.validJson_text (utf8_featureValue hfeature hexecution.texts (by simp))
    · rw [if_neg hinclude]
      rfl

/-! ## The other bodies -/

/-- An error is written as its JSON value. -/
theorem jsonError_text (message : CppString) :
    jsonError message = (Json.object [(str "error", .string message)]).text := by
  have hkey : str "\x7b\"error\":" = 123 :: (quoted (str "error") ++ [58]) := by decide
  rw [Json.text_object_cons, jsonError, hkey, jsonQuote_eq]
  simp [Json.following]

/-- An error body is valid if its message is in UTF-8. -/
theorem jsonError_valid {message : CppString} (h : IsUtf8 message) :
    ValidJson (jsonError message) := by
  rw [jsonError_text]
  apply Json.validJson_text
  simp [h]

/-- An entry of the catalog as a JSON value. -/
def catalogEntryValue (feature : FeatureDefinition) : Json :=
  .object [(str "id", .string feature.id),
    (str "title", .string feature.title),
    (str "category", .string feature.category),
    (str "summary", .string feature.summary),
    (str "completion_mode", .string feature.completionMode.toCppString),
    (str "manual_setup_required", .bool feature.manualSetupRequired),
    (str "rfc_references", rfcReferencesValue feature.rfcReferences),
    (str "timeout_seconds", intNumeral feature.timeoutSeconds)]

/-- The literals around its members that a feature has not. -/
theorem catalogEntryKeys :
    str ",\"summary\":" = 44 :: (quoted (str "summary") ++ [58]) ∧
    str ",\"timeout_seconds\":" = 44 :: (quoted (str "timeout_seconds") ++ [58]) := by
  decide

/-- An entry of the catalog is written as its JSON value. -/
theorem catalogEntryJson_text (feature : FeatureDefinition) :
    catalogEntryJson feature = (catalogEntryValue feature).text := by
  rw [catalogEntryValue, Json.text_object_cons]
  simp only [Json.following_cons]
  unfold catalogEntryJson
  simp only [featureKeys, catalogEntryKeys, jsonQuote_eq, jsonBool_text]
  simp [Json.following]

/-- The catalog as a JSON value. -/
def featuresValue (c : Catalog) : Json :=
  .object [(str "server", .string (str "sctp-feature-server")),
    (str "features", .array (c.features.map catalogEntryValue))]

/-- The catalog is written as its JSON value. -/
theorem featuresJson_text (c : Catalog) : featuresJson c = (featuresValue c).text := by
  have hkey : str "\x7b\"server\":\"sctp-feature-server\",\"features\":[" =
      123 :: (quoted (str "server") ++ [58] ++ quoted (str "sctp-feature-server") ++ 44 ::
        (quoted (str "features") ++ [58, 91])) := by
    decide
  have hclose : str "]\x7d" = [93, 125] := by decide
  have hentries := commaSeparated_text catalogEntryJson _ catalogEntryJson_text c.features
  rw [featuresValue, Json.text_object_cons]
  simp only [Json.following_cons, ← hentries]
  unfold featuresJson
  rw [hkey, hclose]
  simp [Json.following]

/-- The catalog is sent as valid JSON. -/
theorem featuresJson_valid {c : Catalog} (hcatalog : c.Utf8) : ValidJson (featuresJson c) := by
  rw [featuresJson_text]
  apply Json.validJson_text
  have hentry : ∀ feature ∈ c.features, (catalogEntryValue feature).Utf8Strings := by
    intro feature hmem
    have hfeature := hcatalog feature hmem
    simp only [FeatureDefinition.texts, allUtf8_append, allUtf8_cons, allUtf8_flatMap] at hfeature
    rcases hfeature with ⟨⟨⟨⟨⟨⟨⟨⟨⟨htexts, hreferences⟩, -⟩, -⟩, -⟩, -⟩, -⟩, -⟩, -⟩, -⟩
    have hrfc := utf8_rfcReferencesValue hreferences
    simp [catalogEntryValue, htexts, hrfc]
  simpa [featuresValue] using hentry

section

variable {c : Catalog} (hcatalog : c.Utf8)
include hcatalog

/-- The value of the entries of a session has their texts. -/
theorem utf8_entriesValue {entries : List (Entry c)} (hentries : ∀ entry ∈ entries,
    entry.2.Readable) : (entriesValue entries).Utf8Strings := by
  simp only [entriesValue, utf8_map]
  intro entry hentry
  exact utf8_featureValue (hcatalog.definition entry.1) (hentries entry hentry).texts (by simp)

/-- A session view is valid. -/
theorem sessionJson_valid {session : Session c} {entries : List (Entry c)}
    (hsession : AllUtf8 [session.id, session.agentName, session.environmentName,
      session.activeFeatureId])
    (hentries : ∀ entry ∈ entries, entry.2.Readable) : ValidJson (sessionJson session entries) := by
  rw [sessionJson_text]
  apply Json.validJson_text
  simp only [allUtf8_cons, allUtf8_nil, and_true] at hsession
  have hpath : IsUtf8 (dashboardPath session.id) :=
    ((isUtf8_str _).append hsession.1).append (isUtf8_str _)
  simp [sessionValue, hsession, hpath, utf8_entriesValue hcatalog hentries]

/-- A summary is valid. -/
theorem summaryJson_valid {id : CppString} (hid : IsUtf8 id) {entries : List (Entry c)}
    (hentries : ∀ entry ∈ entries, entry.2.Readable) : ValidJson (summaryJson id entries) := by
  rw [summaryJson_text]
  apply Json.validJson_text
  simp [summaryValue, hid, utf8_entriesValue hcatalog hentries]

end

end SctpConformance
