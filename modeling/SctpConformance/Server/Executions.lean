import SctpConformance.Server.JsonEncode
import SctpConformance.Server.JsonDecode
import Mathlib.Data.List.Sort

/-!
# Critical sections on a feature execution

What each block protected by `execution->mutex` does to the record it locks:
activation, the deadline test of `maybe_timeout`, the two verdicts of a worker,
and the reports of a client.  Every `Clock::now()` of the source is a parameter.

Main results:

- Theorem `FeatureExecution.timeOut_eq_some_iff`: a deadline ends exactly the
  active features that have reached it.
- Theorems `FeatureExecution.fail_eq_some_iff`, `FeatureExecution.observe_eq_some`
  and `FeatureExecution.markUnsupported_accepted`: from which states each section
  leads to which.
- Theorem `FeatureExecution.complete_accepted`: an accepted report was made for
  an active feature that takes reports, with the association ids its contract
  asks for.
-/

namespace SctpConformance

/-! ## Reports of a client -/

/-- The parts of a complete report that the server keeps. -/
structure CompleteReport where
  assocIds : List CppString
  evidenceKind : CppString
  evidenceText : CppString
  reportText : CppString

/-- The strings of the `assoc_ids` array. -/
def readAssocIds : List JsonValue → Except CppString (List CppString)
  | [] => .ok []
  | .string value :: values =>
      match readAssocIds values with
      | .error error => .error error
      | .ok rest => .ok (value :: rest)
  | _ :: _ => .error (str "assoc_ids must contain only strings")

/-- `CompleteFeature` up to its critical section. -/
def parseCompleteReport (body : CppString) : Except CppString CompleteReport :=
  match parseJsonRootObject body with
  | .error fault => .error fault.text
  | .ok members =>
      let report (assocIds : List CppString) : CompleteReport := {
        assocIds := assocIds
        evidenceKind := getString members "evidence_kind"
        evidenceText := getString members "evidence_text"
        reportText := getString members "report_text" }
      match mapFind (str "assoc_ids") members with
      | none => .ok (report [])
      | some (.array elements) =>
          match readAssocIds elements with
          | .error error => .error error
          | .ok assocIds => .ok (report assocIds)
      | some _ => .error (str "assoc_ids must be a JSON array of strings")

/-- The parts of an unsupported report that the server keeps. -/
structure UnsupportedReport where
  reason : CppString
  evidenceKind : CppString
  evidenceText : CppString

/-- `UnsupportedFeature` up to its critical section. -/
def parseUnsupportedReport (body : CppString) : Except CppString UnsupportedReport :=
  match parseSimpleJsonObject body with
  | .error fault => .error fault.text
  | .ok params => .ok {
      reason := paramValue params "reason"
      evidenceKind := paramValue params "evidence_kind"
      evidenceText := paramValue params "evidence_text" }

/-- `std::sort` on strings. -/
def sortStrings (values : List CppString) : List CppString :=
  values.insertionSort (· ≤ ·)

/-- The tests on reported association ids, with the error of the first that
fails.  With fewer than two ids expected, the source reads `sorted[0]` and
`sorted[1]` out of range; here these are then empty strings. -/
def assocIdsError (contract : OneToManyContract) (assocIds : List CppString) :
    Option CppString :=
  if assocIds.length ≠ contract.expectedAssociations then
    some (str "assoc_ids must include exactly two distinct association ids")
  else
    let first := (sortStrings assocIds).getD 0 []
    let second := (sortStrings assocIds).getD 1 []
    if first = [] ∨ second = [] ∨ first = str "0" ∨ second = str "0" ∨ first = second then
      some (str "assoc_ids must include two distinct non-zero association ids")
    else none

/-- The contract under which a feature requires distinct association ids. -/
def FeatureDefinition.distinctAssocIds (feature : FeatureDefinition) :
    Option OneToManyContract :=
  feature.oneToMany.filter OneToManyContract.requireDistinctAssocIds

namespace FeatureExecution

variable (e : FeatureExecution) (feature : FeatureDefinition)

/-! ## The sections -/

/-- `activate_execution`. -/
def activate (now : TimePoint) : FeatureExecution :=
  { e with
    state := .active
    message :=
      if feature.completionMode = .agentReported then
        str "waiting for client completion report"
      else str "scenario active"
    startedAt := now
    deadlineAt := now + seconds feature.timeoutSeconds }

/-- The section of `maybe_timeout`; `none` where it returns early. -/
def timeOut (now finished : TimePoint) : Option FeatureExecution :=
  if e.state ≠ .active then none
  else if now < e.deadlineAt then none
  else some { e with
    state := .timedOut
    message := str "scenario timed out"
    finishedAt := finished }

/-- The section of `mark_failed`; `none` where it returns early. -/
def fail (message : CppString) (now : TimePoint) : Option FeatureExecution :=
  if e.state ≠ .active then none
  else some { e with state := .failed, message := message, finishedAt := now }

/-- The section of `mark_network_complete`; `none` where it returns early.  The
flag is the local variable `finished`. -/
def observe (now : TimePoint) : Option (FeatureExecution × Bool) :=
  if e.state ≠ .active then none
  else if feature.completionMode = .serverObserved ∨ e.agentComplete then
    some ({ e with
      networkComplete := true
      state := .passed
      message := str "scenario completed successfully"
      finishedAt := now }, true)
  else
    some ({ e with
      networkComplete := true
      message := str "server observed SCTP behavior; waiting for client completion report" },
      false)

/-- The section of `CompleteFeature`: the record and the local variable
`finished`, or the status and message of the refusal. -/
def complete (report : CompleteReport) (now : TimePoint) :
    Except (Nat × CppString) (FeatureExecution × Bool) :=
  if e.state ≠ .active then .error (409, str "feature is not active")
  else if feature.completionMode = .serverObserved then
    .error (409, str "feature does not accept client completion reports")
  else
    match feature.distinctAssocIds.bind fun contract => assocIdsError contract report.assocIds with
    | some message => .error (400, message)
    | none =>
        let kept := { e with
          assocIds := if feature.distinctAssocIds.isSome then report.assocIds else e.assocIds
          agentComplete := true
          evidenceKind := report.evidenceKind
          evidenceText := report.evidenceText
          reportText := report.reportText }
        if feature.completionMode = .agentReported ∨ e.networkComplete then
          .ok ({ kept with
            state := .passed
            message := str "scenario completed successfully"
            finishedAt := now }, true)
        else .ok ({ kept with message := str "waiting for server-side SCTP observation" }, false)

/-- The section of `UnsupportedFeature`: the record, or the status and message
of the refusal. -/
def markUnsupported (report : UnsupportedReport) (now : TimePoint) :
    Except (Nat × CppString) FeatureExecution :=
  if e.state = .passed then
    .error (409, str "feature already passed and cannot be marked unsupported")
  else if e.state ≠ .pending ∧ e.state ≠ .active then
    .error (409, str "feature is already in a terminal state")
  else .ok { e with
    state := .unsupported
    message := report.reason
    evidenceKind := report.evidenceKind
    evidenceText := report.evidenceText
    finishedAt := now }

/-- The last section of `StartFeature` before the response. -/
def adjustMessage : FeatureExecution :=
  if e.state = .active ∧ e.message = str "scenario active" ∧
      feature.completionMode = .agentReported then
    { e with message := str "waiting for client completion report" }
  else e

/-! ## What the sections do to the state -/

variable {e feature}

/-- An execution that is activated is active. -/
@[simp]
theorem activate_state (now : TimePoint) : (e.activate feature now).state = .active :=
  rfl

/-- Activation leaves the descriptors as they are. -/
@[simp]
theorem activate_activeFds (now : TimePoint) :
    (e.activate feature now).activeFds = e.activeFds :=
  rfl

/-- A deadline ends exactly the active features that have reached it. -/
theorem timeOut_eq_some_iff {now finished : TimePoint} {e' : FeatureExecution} :
    e.timeOut now finished = some e' ↔ e.state = .active ∧ e.deadlineAt ≤ now ∧
      e' = { e with
        state := .timedOut
        message := str "scenario timed out"
        finishedAt := finished } := by
  unfold timeOut
  by_cases hstate : e.state = .active
  · by_cases hnow : now < e.deadlineAt
    · have hdeadline : ¬e.deadlineAt ≤ now := not_le.mpr hnow
      simp [hstate, hnow, hdeadline]
    · have hdeadline : e.deadlineAt ≤ now := not_lt.mp hnow
      simp [hstate, hnow, hdeadline, eq_comm]
  · simp [hstate]

/-- A feature with no deadline behind it is not timed out. -/
theorem timeOut_eq_none {now finished : TimePoint}
    (h : e.state ≠ .active ∨ now < e.deadlineAt) : e.timeOut now finished = none := by
  unfold timeOut
  rcases h with hstate | hnow
  · simp [hstate]
  · simp [hnow]

/-- Only an active execution can fail. -/
theorem fail_eq_some_iff {message : CppString} {now : TimePoint} {e' : FeatureExecution} :
    e.fail message now = some e' ↔ e.state = .active ∧
      e' = { e with state := .failed, message := message, finishedAt := now } := by
  unfold fail
  by_cases hstate : e.state = .active <;> simp [hstate, eq_comm]

/-- What `mark_network_complete` makes of an active feature. -/
theorem observe_eq_some {now : TimePoint} {e' : FeatureExecution} {finished : Bool}
    (h : e.observe feature now = some (e', finished)) :
    e.state = .active ∧ e'.networkComplete = true ∧ e'.agentComplete = e.agentComplete ∧
      e'.activeFds = e.activeFds ∧ e'.deadlineAt = e.deadlineAt ∧
      ((finished = true ∧ e'.state = .passed ∧
          (feature.completionMode = .serverObserved ∨ e.agentComplete = true)) ∨
        (finished = false ∧ e'.state = .active ∧
          feature.completionMode ≠ .serverObserved ∧ e.agentComplete = false)) := by
  unfold observe at h
  by_cases hstate : e.state = .active
  · by_cases hdone : feature.completionMode = .serverObserved ∨ e.agentComplete = true
    · simp only [hstate, ne_eq, not_true_eq_false, if_false, if_pos hdone, Option.some.injEq,
        Prod.mk.injEq] at h
      rcases h with ⟨rfl, rfl⟩
      simp [hstate, hdone]
    · simp only [hstate, ne_eq, not_true_eq_false, if_false, if_neg hdone, Option.some.injEq,
        Prod.mk.injEq] at h
      rcases h with ⟨rfl, rfl⟩
      simp only [not_or, Bool.not_eq_true] at hdone
      simp [hstate, hdone]
  · simp [hstate] at h

/-- An accepted report was made for an active feature that takes reports, with
the association ids its contract asks for. -/
theorem complete_accepted {report : CompleteReport} {now : TimePoint} {e' : FeatureExecution}
    {finished : Bool} (h : e.complete feature report now = .ok (e', finished)) :
    e.state = .active ∧ feature.completionMode ≠ .serverObserved ∧
      (∀ contract, feature.distinctAssocIds = some contract →
        assocIdsError contract report.assocIds = none) ∧
      e'.agentComplete = true ∧ e'.networkComplete = e.networkComplete ∧
      e'.activeFds = e.activeFds ∧ e'.deadlineAt = e.deadlineAt ∧
      ((finished = true ∧ e'.state = .passed ∧
          (feature.completionMode = .agentReported ∨ e.networkComplete = true)) ∨
        (finished = false ∧ e'.state = .active ∧
          feature.completionMode ≠ .agentReported ∧ e.networkComplete = false)) := by
  unfold complete at h
  by_cases hstate : e.state = .active
  · by_cases hmode : feature.completionMode = .serverObserved
    · simp [hstate, hmode] at h
    · simp only [hstate, hmode, ne_eq, not_true_eq_false, if_false] at h
      split at h
      · contradiction
      · rename_i hids
        have hcontract : ∀ contract, feature.distinctAssocIds = some contract →
            assocIdsError contract report.assocIds = none := by
          intro contract hcontract
          simpa [hcontract] using hids
        by_cases hdone : feature.completionMode = .agentReported ∨ e.networkComplete = true
        · simp only [if_pos hdone, Except.ok.injEq, Prod.mk.injEq] at h
          rcases h with ⟨rfl, rfl⟩
          exact ⟨hstate, hmode, hcontract, rfl, rfl, rfl, rfl, Or.inl ⟨rfl, rfl, hdone⟩⟩
        · simp only [if_neg hdone, Except.ok.injEq, Prod.mk.injEq] at h
          rcases h with ⟨rfl, rfl⟩
          simp only [not_or, Bool.not_eq_true] at hdone
          exact ⟨hstate, hmode, hcontract, rfl, rfl, rfl, rfl,
            Or.inr ⟨rfl, rfl, hdone.1, hdone.2⟩⟩
  · simp [hstate] at h

/-- A refused report is answered 400 or 409. -/
theorem complete_refused {report : CompleteReport} {now : TimePoint} {status : Nat}
    {message : CppString} (h : e.complete feature report now = .error (status, message)) :
    status = 400 ∨ status = 409 := by
  unfold complete at h
  split at h
  · cases h
    exact Or.inr rfl
  · split at h
    · cases h
      exact Or.inr rfl
    · split at h
      · cases h
        exact Or.inl rfl
      · dsimp only at h
        split at h
        · contradiction
        · contradiction

/-- An accepted unsupported report ends a feature that has no verdict yet. -/
theorem markUnsupported_accepted {report : UnsupportedReport} {now : TimePoint}
    {e' : FeatureExecution} (h : e.markUnsupported report now = .ok e') :
    (e.state = .pending ∨ e.state = .active) ∧ e' = { e with
      state := .unsupported
      message := report.reason
      evidenceKind := report.evidenceKind
      evidenceText := report.evidenceText
      finishedAt := now } := by
  unfold markUnsupported at h
  split at h
  · contradiction
  · split at h
    · contradiction
    · rename_i hterminal
      simp only [Except.ok.injEq] at h
      exact ⟨by simpa [imp_iff_or_not, or_comm] using hterminal, h.symm⟩

/-- A refused unsupported report is answered 409. -/
theorem markUnsupported_refused {report : UnsupportedReport} {now : TimePoint} {status : Nat}
    {message : CppString} (h : e.markUnsupported report now = .error (status, message)) :
    status = 409 := by
  unfold markUnsupported at h
  split at h
  · cases h
    rfl
  · split at h
    · cases h
      rfl
    · contradiction

/-- The adjustment changes nothing but the message. -/
theorem adjustMessage_eq (e : FeatureExecution) (feature : FeatureDefinition) :
    ∃ message, e.adjustMessage feature = { e with message := message } := by
  unfold adjustMessage
  split
  · exact ⟨_, rfl⟩
  · exact ⟨e.message, rfl⟩

end FeatureExecution

/-- Association ids that pass the tests are as many as expected, and the two
smallest are different, non-empty and not "0". -/
theorem assocIdsError_eq_none_iff {contract : OneToManyContract} {assocIds : List CppString} :
    assocIdsError contract assocIds = none ↔
      assocIds.length = contract.expectedAssociations ∧
        (sortStrings assocIds).getD 0 [] ≠ [] ∧ (sortStrings assocIds).getD 1 [] ≠ [] ∧
        (sortStrings assocIds).getD 0 [] ≠ str "0" ∧
        (sortStrings assocIds).getD 1 [] ≠ str "0" ∧
        (sortStrings assocIds).getD 0 [] ≠ (sortStrings assocIds).getD 1 [] := by
  unfold assocIdsError
  by_cases hlength : assocIds.length = contract.expectedAssociations
  · simp [hlength]
  · simp [hlength]

end SctpConformance
