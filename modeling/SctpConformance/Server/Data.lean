import Mathlib.Data.List.Nodup

/-!
# Data model of the reference server

The records of `server/freebsd_ref/main.cpp`: feature definitions and the
catalog they form, the execution record of a feature within a session, the
session, the server options and the HTTP response.  Field names follow the
source.

A C++ string is a list of bytes.  Fixed-width integers keep their width;
`size_t` and descriptor numbers are natural numbers and `int` is an integer,
since nothing here depends on their wrapping around.

Main results:

- Theorem `Catalog.id_injective`: a feature id names one entry of the catalog.
- Theorem `Catalog.id_ne_nil`: no feature id is the empty string, which
  `active_feature_id` uses for "no feature".
-/

namespace SctpConformance

/-! ## Strings and time -/

/-- A `std::string`: any sequence of bytes. -/
abbrev CppString := List UInt8

/-- The bytes of a string literal. -/
def str (literal : String) : CppString :=
  literal.toUTF8.data.toList

/-- A `Clock::time_point`, counted in microseconds since the epoch. -/
abbrev TimePoint := Int

/-- `std::chrono::seconds` in clock ticks. -/
def seconds (n : Int) : Int :=
  n * 1000000

/-! ## Feature definitions -/

/-- A message of a feature, to be sent or expected. -/
structure MessageSpec where
  payload : CppString
  stream : UInt16 := 0
  ppid : UInt32 := 0
  sizeBytes : Nat := 0
  unordered : Bool := false
  prPolicy : CppString := []
  prValue : UInt32 := 0
  authKeyId : UInt16 := 0
deriving DecidableEq

/-- What a feature asks for in authenticated chunks. -/
structure AuthContract where
  chunkTypes : List UInt8 := []
  primaryKeyId : UInt16 := 1
  primarySecret : CppString := []
  secondaryKeyId : UInt16 := 2
  secondarySecret : CppString := []
deriving DecidableEq

/-- The addresses that a feature adds and removes while it runs. -/
structure AddressReconfigContract where
  addAddresses : List CppString := []
  removeAddresses : List CppString := []
deriving DecidableEq

/-- The large and the small messages that a feature interleaves. -/
structure InterleavingContract where
  fragmentInterleaveLevel : Int := 2
  largeMessageSize : Nat := 65536
  largeStream : UInt16 := 18
  largePpid : UInt32 := 1801
  smallStream : UInt16 := 19
  smallPpid : UInt32 := 1802
  smallMessageCount : Int := 2
deriving DecidableEq

/-- The two streams that a scheduling policy serves. -/
structure SchedulerContract where
  policy : CppString := []
  primaryStream : UInt16 := 20
  secondaryStream : UInt16 := 21
  primaryValue : UInt16 := 32
  secondaryValue : UInt16 := 8
  messageCount : Int := 12
deriving DecidableEq

/-- The socket options of a feature; a zero leaves one as it is. -/
structure SocketTuningContract where
  delayedSackDelayMs : UInt32 := 0
  delayedSackFreq : UInt32 := 0
  maxBurst : UInt32 := 0
  maxseg : UInt32 := 0
deriving DecidableEq

/-- The associations that a feature expects on one socket. -/
structure OneToManyContract where
  expectedAssociations : Nat := 0
  sameSocketRequired : Bool := false
  requireDistinctAssocIds : Bool := false
deriving DecidableEq

/-- Who says that a feature has passed: the server, the agent, or both. -/
inductive CompletionMode where
  | serverObserved
  | agentReported
  | hybrid
deriving DecidableEq, Repr

/-- What the server does in a feature after its start. -/
inductive ScenarioKind where
  | agentOnly
  | receiveMessages
  | receiveMessagesMultiTarget
  | sendAfterTrigger
  | receivePRMessages
deriving DecidableEq, Repr

/-- A section of an RFC. -/
structure RfcReference where
  rfc : CppString
  section_ : CppString
  title : CppString
  url : CppString
deriving DecidableEq

/-- An entry of the catalog. -/
structure FeatureDefinition where
  id : CppString
  title : CppString := []
  category : CppString := []
  summary : CppString := []
  rfcReferences : List RfcReference := []
  instructionsText : CppString := []
  completionMode : CompletionMode := .serverObserved
  scenarioKind : ScenarioKind := .agentOnly
  timeoutSeconds : Int := 20
  bindAddressCount : Nat := 1
  clientSocketOptions : List CppString := []
  clientSubscriptions : List CppString := []
  clientSendMessages : List MessageSpec := []
  serverSendMessages : List MessageSpec := []
  reportPrompt : CppString := []
  triggerPayload : CppString := []
  negativeConnectTarget : CppString := []
  expectedPeerAddrCount : Nat := 0
  auth : Option AuthContract := none
  addressReconfig : Option AddressReconfigContract := none
  interleaving : Option InterleavingContract := none
  scheduler : Option SchedulerContract := none
  socketTuning : Option SocketTuningContract := none
  oneToMany : Option OneToManyContract := none
  manualSetupRequired : Bool := false
  manualSetupInstructions : List CppString := []
deriving DecidableEq

/-- The feature catalog.  `feature_index_` and the feature map of a session are
keyed by feature id, so the ids of the entries are distinct and non-empty. -/
structure Catalog where
  features : List FeatureDefinition
  ids_nodup : (features.map FeatureDefinition.id).Nodup
  ids_ne_nil : ∀ d ∈ features, d.id ≠ []

namespace Catalog

/-- A `const FeatureDefinition*` into the catalog. -/
abbrev Ref (c : Catalog) := Fin c.features.length

variable {c : Catalog}

/-- The definition a reference points to. -/
def definition (c : Catalog) (r : c.Ref) : FeatureDefinition :=
  c.features.get r

/-- The id of the definition a reference points to. -/
def id (c : Catalog) (r : c.Ref) : CppString :=
  (c.definition r).id

/-- A feature id names one entry of the catalog. -/
theorem id_injective : Function.Injective c.id := by
  intro r r' h
  have hmap : (c.features.map FeatureDefinition.id).get (r.cast (by simp)) =
      (c.features.map FeatureDefinition.id).get (r'.cast (by simp)) := by
    simpa [id, definition] using h
  have hcast := (List.nodup_iff_injective_get.mp c.ids_nodup) hmap
  exact Fin.ext (by simpa using congrArg Fin.val hcast)

/-- No feature id is the empty string. -/
theorem id_ne_nil (r : c.Ref) : c.id r ≠ [] :=
  c.ids_ne_nil _ (List.get_mem c.features r)

end Catalog

/-! ## Sessions -/

/-- The states of an execution.  It starts as pending and is finished in the last four. -/
inductive FeatureState where
  | pending
  | active
  | passed
  | failed
  | unsupported
  | timedOut
deriving DecidableEq, Repr

/-- The states that a verdict puts a feature in. -/
def FeatureState.Terminal (state : FeatureState) : Prop :=
  state ≠ .pending ∧ state ≠ .active

instance (state : FeatureState) : Decidable state.Terminal :=
  inferInstanceAs (Decidable (_ ∧ _))

/-- The execution record of one feature in one session.  The `definition`
pointer of the source is the key under which the session keeps the record. -/
structure FeatureExecution where
  state : FeatureState := .pending
  message : CppString := str "not started"
  evidenceKind : CppString := []
  evidenceText : CppString := []
  reportText : CppString := []
  contractJson : CppString := []
  networkComplete : Bool := false
  agentComplete : Bool := false
  activeFds : List Nat := []
  assocIds : List CppString := []
  startedAt : TimePoint := 0
  deadlineAt : TimePoint := 0
  finishedAt : TimePoint := 0
deriving DecidableEq

/-- A session, with one execution for each entry of the catalog. -/
structure Session (c : Catalog) where
  id : CppString
  agentName : CppString
  environmentName : CppString
  createdAt : TimePoint
  features : c.Ref → FeatureExecution := fun _ => {}
  activeFeatureId : CppString := []

/-- A session as `CreateSession` makes it. -/
def Session.Fresh {c : Catalog} (session : Session c) : Prop :=
  session.activeFeatureId = [] ∧ ∀ r, session.features r = {}

/-! ## Options and responses -/

/-- The addresses that the server is started with. -/
structure ServerOptions where
  sctpBindAddrs : List CppString
  sctpAdvertiseAddrs : List CppString

/-- A response before it is written. -/
structure HttpResponse where
  status : Nat := 200
  body : CppString
  contentType : CppString := str "application/json"
  headers : List (CppString × CppString) := []
deriving DecidableEq

/-- A socket that listens, with the addresses that clients are told. -/
structure ListeningSocket where
  fd : Nat
  bindAddrs : List CppString
  advertiseAddrs : List CppString
deriving DecidableEq

/-- The values of `errno` that the source tells apart, and all others. -/
inductive Errno where
  | eaddrnotavail
  | eagain
  | ewouldblock
  | ebadf
  | other (code : Nat)
deriving DecidableEq, Repr

/-- What the server runs with: its command line options and the texts that the
C library gives for error numbers. -/
structure Host where
  options : ServerOptions
  strerror : Errno → CppString

end SctpConformance
