import SctpConformance.Json.Contract

/-!
# Reading the session views

The dashboard's side of `SessionJson` and `SummaryJson`: decoders for the two JSON
objects, as far as they show the states of the features.

Main results:

- Structures `SessionView` and `SummaryView`: what the views say about the features.
- Theorems `sessionJson_read` and `summaryJson_read`: what is read from the views.
-/

namespace SctpConformance

open Library

variable {c : Catalog}

/-- A feature as a view shows it. -/
structure ShownFeature where
  id : CppString
  state : FeatureState
deriving DecidableEq

/-- What `GET /v1/sessions/{id}` says about the features. -/
structure SessionView where
  activeFeatureId : CppString
  features : List ShownFeature
deriving DecidableEq

/-- What `GET /v1/sessions/{id}/summary` says about the features. -/
structure SummaryView where
  passed : Nat
  failed : Nat
  unsupported : Nat
  timedOut : Nat
  pending : Nat
  active : Nat
  pendingOrActive : Nat
  complete : Bool
  features : List ShownFeature
deriving DecidableEq

/-! ## Decoders -/

/-- The state with this text. -/
def decodeFeatureState (value : Json) : Option FeatureState :=
  match value.toBytes with
  | none => none
  | some text =>
      [FeatureState.pending, .active, .passed, .failed, .unsupported, .timedOut].find?
        fun state => state.toCppString = text

/-- The identifier and the state of a feature. -/
def decodeShownFeature : Json → Option ShownFeature
  | .object members => do
      let id ← Json.field members (str "id") Json.toBytes
      let state ← Json.field members (str "state") decodeFeatureState
      some { id, state }
  | _ => none

/-- What a session shows. -/
def decodeSessionView : Json → Option SessionView
  | .object members => do
      let activeFeatureId ← Json.field members (str "active_feature_id") Json.toBytes
      let features ← Json.field members (str "features") (Json.toList decodeShownFeature)
      some { activeFeatureId, features }
  | _ => none

/-- What a summary shows. -/
def decodeSummaryView : Json → Option SummaryView
  | .object members => do
      let passed ← Json.field members (str "passed") Json.toNat
      let failed ← Json.field members (str "failed") Json.toNat
      let unsupported ← Json.field members (str "unsupported") Json.toNat
      let timedOut ← Json.field members (str "timed_out") Json.toNat
      let pending ← Json.field members (str "pending") Json.toNat
      let active ← Json.field members (str "active") Json.toNat
      let pendingOrActive ← Json.field members (str "pending_or_active") Json.toNat
      let complete ← Json.field members (str "complete") Json.toBool
      let features ← Json.field members (str "features") (Json.toList decodeShownFeature)
      some { passed, failed, unsupported, timedOut, pending, active, pendingOrActive, complete,
             features }
  | _ => none

/-- What the dashboard reads from a session text. -/
def SessionView.read (text : CppString) : Option SessionView :=
  (readJson text).bind decodeSessionView

/-- What the dashboard reads from a summary text. -/
def SummaryView.read (text : CppString) : Option SummaryView :=
  (readJson text).bind decodeSummaryView

/-! ## What is emitted is decoded -/

/-- A feature with the state that was read for it. -/
def shown (entry : Entry c) : ShownFeature :=
  ⟨c.id entry.1, entry.2.state⟩

/-- A state is read back. -/
@[simp]
theorem decodeFeatureState_string (state : FeatureState) :
    decodeFeatureState (.string state.toCppString) = some state := by
  cases state <;> decide

/-- An entry is read back. -/
theorem decodeShownFeature_featureValue (entry : Entry c) :
    decodeShownFeature (featureValue (c.definition entry.1) entry.2 none) =
      some (shown entry) := by
  simp [decodeShownFeature, featureValue, Json.field, lookup, lookup_memberOf, shown,
    Catalog.id]

/-- All entries are read back. -/
@[simp]
theorem decodeShownFeatures_entriesValue (entries : List (Entry c)) :
    Json.toList decodeShownFeature (entriesValue entries) = some (entries.map shown) := by
  rw [entriesValue, Json.toList]
  induction entries with
  | nil => rfl
  | cons entry entries ih =>
      simp [List.mapM_cons, decodeShownFeature_featureValue, ih]

/-- A session is read back with its active feature and all states. -/
theorem sessionJson_read (session : Session c) (entries : List (Entry c)) :
    SessionView.read (sessionJson session entries) =
      some ⟨session.activeFeatureId, entries.map shown⟩ := by
  rw [SessionView.read, sessionJson_text, readJson_text]
  simp [decodeSessionView, sessionValue, Json.field, lookup]

/-- A summary is read back with its counts and all states. -/
theorem summaryJson_read (sessionId : CppString) (entries : List (Entry c)) :
    SummaryView.read (summaryJson sessionId entries) = some {
      passed := countState entries .passed
      failed := countState entries .failed
      unsupported := countState entries .unsupported
      timedOut := countState entries .timedOut
      pending := countState entries .pending
      active := countState entries .active
      pendingOrActive := countState entries .pending + countState entries .active
      complete := countState entries .pending = 0 ∧ countState entries .active = 0
      features := entries.map shown } := by
  rw [SummaryView.read, summaryJson_text, readJson_text]
  simp [decodeSummaryView, summaryValue, Json.field, lookup]

end SctpConformance
