import Mathlib.Data.List.Lex
import SctpConformance.Library.Json
import SctpConformance.Sequential.Handlers
import Mathlib.Algebra.Group.Nat.Defs

/-!
# Association ids as evidence

A contract on distinct association ids has a client show that it held several
associations by naming their ids.  An id is a number other than zero that fits
32 bits, written in decimal.  The server never reads the texts as numbers: it
sorts them, and compares the two smallest with each other and with "0".

Main results:

- Definition `DistinctAssociations`: what a report has to name.
- Definition `Slip`: the ways in which texts that pass the tests of the server
  are not distinct association ids.
- Theorem `evidenceSound_iff`: a report is handled as it should be exactly when
  it does not name ids with a slip that pass the tests.
- Theorem `undistinct_ids_accepted`: two names that are no numbers are accepted.
-/

namespace SctpConformance

open Library

variable {c : Catalog} {now : TimePoint} {σ : Shared c} {x : Target c} {body : CppString}

/-! ## Ids as numbers -/

/-- A text that denotes an association id. -/
def IsAssocId (text : CppString) : Prop :=
  IsDecimal text ∧ 0 < natOfDigits text ∧ natOfDigits text < 2 ^ 32

/-- Texts that denote `n` different association ids. -/
structure DistinctAssociations (n : Nat) (ids : List CppString) : Prop where
  length_eq : ids.length = n
  denote : ∀ id ∈ ids, IsAssocId id
  distinct : (ids.map natOfDigits).Nodup

/-- The ways in which texts fail to denote different association ids. -/
inductive Slip (ids : List CppString) : Prop where
  | noNumber (id : CppString) (hid : id ∈ ids) (htext : ¬IsDecimal id)
  | tooLarge (id : CppString) (hid : id ∈ ids) (htext : IsDecimal id)
      (hlarge : 2 ^ 32 ≤ natOfDigits id)
  | paddedZero (id : CppString) (hid : id ∈ ids) (htext : IsDecimal id)
      (hspelling : id ≠ str "0") (hzero : natOfDigits id = 0)
  | otherSpelling (id other : CppString) (hid : id ∈ ids) (hother : other ∈ ids)
      (hspelling : id ≠ other) (hnumber : natOfDigits id = natOfDigits other)
  | repeated (htwice : ¬ids.Nodup)

/-- A slip is never evidence of distinct associations. -/
theorem Slip.not_distinct {n : Nat} {ids : List CppString} (h : Slip ids) :
    ¬DistinctAssociations n ids := by
  intro hids
  cases h with
  | noNumber id hid htext => exact htext (hids.denote id hid).1
  | tooLarge id hid htext hlarge => exact absurd (hids.denote id hid).2.2 (not_lt.mpr hlarge)
  | paddedZero id hid htext hspelling hzero =>
      exact absurd hzero (Nat.pos_iff_ne_zero.mp (hids.denote id hid).2.1)
  | otherSpelling id other hid hother hspelling hnumber =>
      exact hspelling (List.inj_on_of_nodup_map hids.distinct hid hother hnumber)
  | repeated htwice => exact htwice (List.Nodup.of_map natOfDigits hids.distinct)

/-! ## What the tests of the server establish -/

/-- The texts in the order of `std::sort`. -/
theorem sortStrings_sorted (ids : List CppString) : (sortStrings ids).Pairwise (· ≤ ·) :=
  List.pairwise_insertionSort (· ≤ ·) ids

/-- Sorting keeps the strings. -/
theorem mem_sortStrings {ids : List CppString} {id : CppString} :
    id ∈ sortStrings ids ↔ id ∈ ids :=
  List.mem_insertionSort (· ≤ ·)

/-- No run of digits comes before "0". -/
theorem eq_zero_of_le_zero {text : CppString} (htext : IsDecimal text)
    (hle : text ≤ str "0") : text = str "0" := by
  rcases htext with ⟨hne, hdigits⟩
  cases text with
  | nil => contradiction
  | cons ch rest =>
      have hdigit := hdigits ch List.mem_cons_self
      have hnot : ¬([48] : CppString) < ch :: rest := hle
      rw [List.cons_lt_cons_iff] at hnot
      have hch : ch = 48 := by
        simp only [isDigit, Bool.and_eq_true, decide_eq_true_eq] at hdigit
        simp only [not_or] at hnot
        exact UInt8.le_antisymm (UInt8.not_lt.mp hnot.1) hdigit.1
      cases rest with
      | nil =>
          rw [hch]
          rfl
      | cons next rest =>
          rw [hch] at hnot
          simp at hnot

/-- Decimal texts that pass the tests do not include "0": it would have come
first. -/
theorem zero_not_mem {contract : OneToManyContract} {ids : List CppString}
    (htests : assocIdsError contract ids = none) (hdecimal : ∀ id ∈ ids, IsDecimal id) :
    str "0" ∉ ids := by
  intro hzero
  rcases assocIdsError_eq_none_iff.mp htests with ⟨-, -, -, hfirst, -, -⟩
  have hmem := mem_sortStrings.mpr hzero
  have hsorted := sortStrings_sorted ids
  cases hids : sortStrings ids with
  | nil =>
      rw [hids] at hmem
      contradiction
  | cons first rest =>
      rw [hids] at hmem hsorted hfirst
      have hdigits : IsDecimal first := by
        apply hdecimal
        rw [← mem_sortStrings, hids]
        exact List.mem_cons_self
      rcases List.mem_cons.mp hmem with heq | hrest
      · exact hfirst heq.symm
      · exact hfirst (eq_zero_of_le_zero hdigits (List.rel_of_pairwise_cons hsorted hrest))

/-- Texts that pass the tests without a slip are distinct association ids. -/
theorem distinct_of_not_slip {contract : OneToManyContract} {ids : List CppString}
    (htests : assocIdsError contract ids = none) (hslip : ¬Slip ids) :
    DistinctAssociations contract.expectedAssociations ids := by
  have hdecimal : ∀ id ∈ ids, IsDecimal id := by
    intro id hid
    by_contra htext
    exact hslip (.noNumber id hid htext)
  refine ⟨(assocIdsError_eq_none_iff.mp htests).1, ?_, ?_⟩
  · intro id hid
    refine ⟨hdecimal id hid, ?_, ?_⟩
    · rw [Nat.pos_iff_ne_zero]
      intro hzero
      by_cases hspelling : id = str "0"
      · rw [hspelling] at hid
        exact zero_not_mem htests hdecimal hid
      · exact hslip (.paddedZero id hid (hdecimal id hid) hspelling hzero)
    · by_contra hlarge
      exact hslip (.tooLarge id hid (hdecimal id hid) (not_lt.mp hlarge))
  · apply List.Nodup.map_on
    · intro id hid other hother hnumber
      by_contra hspelling
      exact hslip (.otherSpelling id other hid hother hspelling hnumber)
    · by_contra htwice
      exact hslip (.repeated htwice)

/-! ## What a body reports -/

/-- The member `assoc_ids` of the body is an array of these strings. -/
def Reports (body : CppString) (ids : List CppString) : Prop :=
  ∃ members, parseJsonRootObject body = .ok members ∧
    mapFind (str "assoc_ids") members = some (.array (ids.map .string))

/-- The loop over the array takes strings only. -/
theorem readAssocIds_eq_ok_iff {elements : List JsonValue} {ids : List CppString} :
    readAssocIds elements = .ok ids ↔ elements = ids.map .string := by
  induction elements generalizing ids with
  | nil =>
      cases ids with
      | nil => simp [readAssocIds]
      | cons id ids => simp [readAssocIds]
  | cons value values ih =>
      cases value with
      | string text =>
          cases hrest : readAssocIds values with
          | error error =>
              have hnot : ∀ rest : List CppString, values ≠ rest.map .string := by
                intro rest heq
                rw [ih.mpr heq] at hrest
                contradiction
              cases ids with
              | nil => simp [readAssocIds, hrest]
              | cons id ids => simp [readAssocIds, hrest, hnot ids]
          | ok rest =>
              have hvalues := ih.mp hrest
              cases ids with
              | nil => simp [readAssocIds, hrest]
              | cons id ids =>
                  simp only [readAssocIds, hrest, Except.ok.injEq, List.cons.injEq,
                    List.map_cons, JsonValue.string.injEq, ← ih]
      | _ => cases ids <;> simp [readAssocIds]

/-- A body reports one list of ids. -/
theorem Reports.unique {ids others : List CppString} (h : Reports body ids)
    (hothers : Reports body others) : ids = others := by
  rcases h with ⟨members, hparse, hmember⟩
  rcases hothers with ⟨members', hparse', hmember'⟩
  rw [hparse] at hparse'
  cases hparse'
  rw [hmember] at hmember'
  have hmap : ids.map JsonValue.string = others.map .string := by
    simpa using hmember'
  exact List.map_injective_iff.mpr (fun _ _ h => JsonValue.string.inj h) hmap

/-- The ids that the server keeps are the reported ones, or there are none. -/
theorem assocIds_of_parsed {report : CompleteReport}
    (h : parseCompleteReport body = .ok report) :
    report.assocIds = [] ∨ Reports body report.assocIds := by
  unfold parseCompleteReport at h
  cases hparse : parseJsonRootObject body with
  | error fault => simp [hparse] at h
  | ok members =>
      simp only [hparse] at h
      split at h
      · cases h
        exact Or.inl rfl
      · rename_i elements hmember
        split at h
        · contradiction
        · rename_i ids hids
          cases h
          refine Or.inr ⟨members, hparse, ?_⟩
          rw [hmember, readAssocIds_eq_ok_iff.mp hids]
      · contradiction

/-- Reported ids are kept. -/
theorem Reports.parsed {ids : List CppString} (h : Reports body ids) :
    ∃ report, parseCompleteReport body = .ok report ∧ report.assocIds = ids := by
  rcases h with ⟨members, hparse, hmember⟩
  have hids : readAssocIds (ids.map .string) = .ok ids := readAssocIds_eq_ok_iff.mpr rfl
  simp [parseCompleteReport, hparse, hmember, hids]

/-! ## The handler -/

/-- An active feature, before its deadline, that takes reports under a contract on
two or more distinct association ids. -/
structure AwaitsAssocIds (now : TimePoint) (σ : Shared c) (x : Target c)
    (contract : OneToManyContract) : Prop where
  active : (σ.execution x).state = .active
  early : now < (σ.execution x).deadlineAt
  takesReports : (c.definition x.feature).completionMode ≠ .serverObserved
  bound : (c.definition x.feature).oneToMany = some contract
  required : contract.requireDistinctAssocIds = true
  several : 2 ≤ contract.expectedAssociations

/-- A report is accepted for distinct association ids only, and otherwise it is
answered 400 and the evidence stays as it was. -/
structure EvidenceSound (n : Nat) (now : TimePoint) (σ : Shared c) (x : Target c)
    (body : CppString) : Prop where
  accepted : (completeFeature now σ x body).response.status = 200 →
    ∃ ids, Reports body ids ∧ DistinctAssociations n ids
  refused : (¬∃ ids, Reports body ids ∧ DistinctAssociations n ids) →
    (completeFeature now σ x body).response.status = 400 ∧
      ((completeFeature now σ x body).shared.execution x).agentComplete =
        (σ.execution x).agentComplete ∧
      ((completeFeature now σ x body).shared.execution x).evidenceKind =
        (σ.execution x).evidenceKind ∧
      ((completeFeature now σ x body).shared.execution x).evidenceText =
        (σ.execution x).evidenceText ∧
      ((completeFeature now σ x body).shared.execution x).reportText =
        (σ.execution x).reportText ∧
      ((completeFeature now σ x body).shared.execution x).assocIds =
        (σ.execution x).assocIds

namespace AwaitsAssocIds

variable {contract : OneToManyContract}

/-- The catalog wants distinct ids for the feature. -/
theorem distinctAssocIds_eq (h : AwaitsAssocIds now σ x contract) :
    (c.definition x.feature).distinctAssocIds = some contract := by
  simp [FeatureDefinition.distinctAssocIds, h.bound, h.required]

/-- The deadline has not passed. -/
theorem maybeTimeout_eq (h : AwaitsAssocIds now σ x contract) : σ.maybeTimeout now x = σ := by
  rw [Shared.maybeTimeout, FeatureExecution.timeOut_eq_none (Or.inr h.early)]

/-- Reported ids that pass the tests are accepted. -/
theorem completeFeature_accepts (h : AwaitsAssocIds now σ x contract) {ids : List CppString}
    (hreports : Reports body ids) (htests : assocIdsError contract ids = none) :
    (completeFeature now σ x body).response.status = 200 := by
  rcases hreports.parsed with ⟨report, hparsed, rfl⟩
  simp only [completeFeature, hparsed, h.maybeTimeout_eq]
  cases hcomplete : (σ.execution x).complete (c.definition x.feature) report now with
  | ok done => rfl
  | error refusal =>
      unfold FeatureExecution.complete at hcomplete
      simp only [h.active, ne_eq, not_true_eq_false, if_false, h.takesReports,
        h.distinctAssocIds_eq, Option.bind_some, htests] at hcomplete
      split at hcomplete <;> contradiction

/-- Without such ids the report is answered 400, and nothing changes. -/
theorem completeFeature_refuses (h : AwaitsAssocIds now σ x contract)
    (hnone : ¬∃ ids, Reports body ids ∧ assocIdsError contract ids = none) :
    (completeFeature now σ x body).response.status = 400 ∧
      (completeFeature now σ x body).shared = σ := by
  unfold completeFeature
  rw [h.maybeTimeout_eq]
  cases hparsed : parseCompleteReport body with
  | error error => exact ⟨rfl, rfl⟩
  | ok report =>
      have htests : ∃ message, assocIdsError contract report.assocIds = some message := by
        rw [← Option.ne_none_iff_exists']
        intro htests
        rcases assocIds_of_parsed hparsed with hempty | hreports
        · have hlength := (assocIdsError_eq_none_iff.mp htests).1
          rw [hempty, List.length_nil] at hlength
          exact absurd h.several (by omega)
        · exact hnone ⟨report.assocIds, hreports, htests⟩
      rcases htests with ⟨message, htests⟩
      have hcomplete : (σ.execution x).complete (c.definition x.feature) report now =
          .error (400, message) := by
        simp [FeatureExecution.complete, h.active, h.takesReports, h.distinctAssocIds_eq,
          htests]
      dsimp only
      rw [hcomplete]
      exact ⟨rfl, rfl⟩

/-- The server accepts a report exactly when it names ids that pass the tests. -/
theorem completeFeature_accepted_iff (h : AwaitsAssocIds now σ x contract) :
    (completeFeature now σ x body).response.status = 200 ↔
      ∃ ids, Reports body ids ∧ assocIdsError contract ids = none := by
  constructor
  · intro hstatus
    by_contra hnone
    rw [(h.completeFeature_refuses hnone).1] at hstatus
    contradiction
  · intro hids
    rcases hids with ⟨ids, hreports, htests⟩
    exact h.completeFeature_accepts hreports htests

end AwaitsAssocIds

/-- A report is handled as its contract asks exactly when it does not name ids that
pass the tests on the two smallest texts although one of them is no 32-bit number
or two of them are the same number. -/
theorem evidenceSound_iff {contract : OneToManyContract} (h : AwaitsAssocIds now σ x contract)
    (body : CppString) :
    EvidenceSound contract.expectedAssociations now σ x body ↔
      ¬∃ ids, Reports body ids ∧ assocIdsError contract ids = none ∧ Slip ids := by
  constructor
  · intro hsound hslip
    rcases hslip with ⟨ids, hreports, htests, hslip⟩
    rcases hsound.accepted (h.completeFeature_accepts hreports htests) with
      ⟨others, hothers, hdistinct⟩
    rw [← hreports.unique hothers] at hdistinct
    exact hslip.not_distinct hdistinct
  · intro hslip
    have hdistinct : ∀ ids, Reports body ids → assocIdsError contract ids = none →
        DistinctAssociations contract.expectedAssociations ids := by
      intro ids hreports htests
      apply distinct_of_not_slip htests
      intro hids
      exact hslip ⟨ids, hreports, htests, hids⟩
    constructor
    · intro hstatus
      rcases h.completeFeature_accepted_iff.mp hstatus with ⟨ids, hreports, htests⟩
      exact ⟨ids, hreports, hdistinct ids hreports htests⟩
    · intro hnone
      have hrefused : ¬∃ ids, Reports body ids ∧ assocIdsError contract ids = none := by
        intro hids
        rcases hids with ⟨ids, hreports, htests⟩
        exact hnone ⟨ids, hreports, hdistinct ids hreports htests⟩
      rcases h.completeFeature_refuses hrefused with ⟨hstatus, hshared⟩
      rw [hshared]
      exact ⟨hstatus, rfl, rfl, rfl, rfl, rfl⟩

/-! ## Two names -/

/-- The feature with two associations, just started. -/
def multiAssocStarted : Shared sampleCatalog :=
  sampleShared.setExecution multiAssoc
    ((sampleShared.execution multiAssoc).activate (sampleCatalog.definition multiAssoc.feature) 0)

theorem multiAssocStarted_awaits :
    AwaitsAssocIds 1 multiAssocStarted multiAssoc ⟨2, true, true⟩ where
  active := by simp [multiAssocStarted]
  early := by
    simp only [multiAssocStarted, Shared.execution_setExecution]
    decide
  takesReports := by decide
  bound := by decide
  required := rfl
  several := le_rfl

/-- Two different strings that are no association ids. -/
def twoNames : CppString :=
  str "\x7b\"assoc_ids\":[\"abc\",\"def\"]\x7d"

/-- The body reports both. -/
theorem twoNames_reports : Reports twoNames [str "abc", str "def"] :=
  ⟨_, rfl, rfl⟩

/-- Two names that are no numbers are accepted. -/
theorem undistinct_ids_accepted :
    ¬EvidenceSound 2 1 multiAssocStarted multiAssoc twoNames := by
  intro hsound
  have hstatus := multiAssocStarted_awaits.completeFeature_accepts twoNames_reports
    (by decide)
  rcases hsound.accepted hstatus with ⟨ids, hreports, hdistinct⟩
  rw [← twoNames_reports.unique hreports] at hdistinct
  have hdigits := (hdistinct.denote (str "abc") List.mem_cons_self).1.2
  exact absurd (hdigits 97 List.mem_cons_self) (by decide)

/-- A report of two ids, one of them with a leading zero. -/
def twoIds : CppString :=
  str "\x7b\"assoc_ids\":[\"07\",\"12\"]\x7d"

/-- The report of two distinct ids is handled as it should be. -/
theorem evidenceSound_iff_twoIds :
    EvidenceSound 2 1 multiAssocStarted multiAssoc twoIds ↔
      ¬∃ ids, Reports twoIds ids ∧ assocIdsError ⟨2, true, true⟩ ids = none ∧ Slip ids :=
  evidenceSound_iff multiAssocStarted_awaits twoIds

end SctpConformance
