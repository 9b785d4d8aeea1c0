import SctpConformance.Runner.Scenario
import SctpConformance.Runner.World
import Mathlib.Data.List.Lex
import Mathlib.Data.List.Dedup
import Mathlib.Data.Char
import Mathlib.Algebra.GroupWithZero.Nat

/-!
# The reports of a run

`report.py`: what the four report files of a run say about its results, and when they can be
written.

Main results:

- Theorem `grouped_perm`: the groups of a report hold every result.
- Theorem `writeJunit_tests`: the JUnit report counts every result once.
- Theorem `writeReports_ok_iff`: when the reports are written.
-/

namespace SctpConformance.Runner

open Library

/-- The results by profile, in the order of the profiles. -/
def grouped (results : List ScenarioResult) : List (Text × List ScenarioResult) :=
  (((results.map (·.profile)).dedup).mergeSort fun a b => decide (a ≤ b)).map fun profile =>
    (profile, results.filter (·.profile = profile))

/-- The lists of the members with each key, for distinct keys that include theirs, hold
every member. -/
theorem flatMap_filter_perm {α κ : Type} [DecidableEq κ] (key : α → κ) {keys : List κ}
    (hnodup : keys.Nodup) {members : List α} (hkeys : ∀ member ∈ members, key member ∈ keys) :
    (keys.flatMap fun k => members.filter (key · = k)).Perm members := by
  induction keys generalizing members with
  | nil =>
      have hempty : members = [] := List.eq_nil_iff_forall_not_mem.mpr fun member hmember =>
        List.not_mem_nil (hkeys member hmember)
      rw [hempty]
      exact List.Perm.refl _
  | cons k keys ih =>
      rw [List.nodup_cons] at hnodup
      have hrest : (keys.flatMap fun k' => members.filter (key · = k')) =
          keys.flatMap fun k' => (members.filter (key · ≠ k)).filter (key · = k') := by
        apply List.flatMap_congr
        intro k' hk'
        rw [List.filter_filter]
        apply List.filter_congr
        intro member _
        have hne : k' ≠ k := fun h => hnodup.1 (h ▸ hk')
        by_cases h : key member = k' <;> simp [h, hne]
      have hothers : ∀ member ∈ members.filter (key · ≠ k), key member ∈ keys := by
        intro member hmember
        obtain ⟨hmember, hne⟩ := List.mem_filter.mp hmember
        rcases List.mem_cons.mp (hkeys member hmember) with h | h
        · exact absurd h (by simpa using hne)
        · exact h
      rw [List.flatMap_cons, hrest]
      have hsplit := List.filter_append_perm (fun member => decide (key member = k)) members
      refine ((ih hnodup.2 hothers).append_left _).trans ?_
      simpa using hsplit

/-- The groups hold every result. -/
theorem grouped_perm (results : List ScenarioResult) :
    ((grouped results).flatMap (·.2)).Perm results := by
  have hperm := List.mergeSort_perm (results.map (·.profile)).dedup fun a b => decide (a ≤ b)
  unfold grouped
  rw [List.flatMap_map]
  apply flatMap_filter_perm (fun result : ScenarioResult => result.profile)
  · exact hperm.symm.nodup (List.nodup_dedup _)
  · intro result hresult
    rw [hperm.mem_iff, List.mem_dedup]
    exact List.mem_map_of_mem hresult

/-- `results.json` -/
structure ResultsJson where
  requiredFeatures : List Text
  results : List ScenarioResult

/-- The status as the summary shows it. -/
def Status.upper : Status → Text
  | .pass => "PASS".toList
  | .fail => "FAIL".toList
  | .unsupported => "UNSUPPORTED".toList

/-- `summary.md` -/
def writeSummary (results : List ScenarioResult) : Text :=
  joinTexts "\n".toList <|
    ["# SCTP Conformance Summary".toList, []] ++
      (grouped results).flatMap fun (profile, profileResults) =>
        ["## ".toList ++ profile, []] ++
          profileResults.map (fun result =>
            "- `".toList ++ result.scenarioId ++ "`: **".toList ++ result.status.upper ++
              "** - ".toList ++ result.message) ++
          [[]]

/-- The results that cover a feature, as often as they list it. -/
def covering (feature : Text) (results : List ScenarioResult) : List Text :=
  results.flatMap fun result =>
    (result.requiredFeatures.filter (· = feature)).map fun _ =>
      result.scenarioId ++ " (".toList ++ result.status.text ++ ")".toList

/-- `coverage.md` -/
def writeCoverage (results : List ScenarioResult) (requiredFeatures : List Text) : Text :=
  joinTexts "\n".toList <|
    ["# SCTP Feature Coverage".toList, []] ++
      (grouped (results.filter (·.scenarioId ≠ "coverage".toList))).flatMap
        fun (profile, profileResults) =>
          ["## ".toList ++ profile, []] ++
            requiredFeatures.map (fun feature =>
              let scenarios := covering feature profileResults
              "- `".toList ++ feature ++ "`: ".toList ++
                (if scenarios.isEmpty then "MISSING".toList
                else joinTexts ", ".toList scenarios)) ++
            [[]]

/-- The element of a test case that did not pass, with its message and text. -/
inductive CaseOutcome where
  | passed
  | failure (message text : Text)
  | skipped (message text : Text)

/-- The element of a result. -/
structure TestCase where
  name : Text
  classname : Text
  outcome : CaseOutcome

/-- The element of a profile, with its counts. -/
structure TestSuite where
  name : Text
  tests : Nat
  failures : Nat
  skipped : Nat
  cases : List TestCase

/-- The output of the helpers goes into the element of a test case that did not pass. -/
def testCase (profile : Text) (result : ScenarioResult) : TestCase where
  name := result.scenarioId
  classname := profile
  outcome :=
    let text := if result.stderr.isEmpty then result.stdout else result.stderr
    match result.status with
    | .pass => .passed
    | .fail => .failure result.message text
    | .unsupported => .skipped result.message text

/-- `junit.xml` -/
def writeJunit (results : List ScenarioResult) : List TestSuite :=
  (grouped results).map fun (profile, profileResults) => {
    name := profile
    tests := profileResults.length
    failures := profileResults.countP (·.status = .fail)
    skipped := profileResults.countP (·.status = .unsupported)
    cases := profileResults.map (testCase profile) }

/-- The JUnit report counts every result once. -/
theorem writeJunit_tests (results : List ScenarioResult) :
    ((writeJunit results).map (·.tests)).sum = results.length := by
  have hperm := (grouped_perm results).length_eq
  rw [List.length_flatMap] at hperm
  unfold writeJunit
  rw [List.map_map]
  exact hperm

/-- What the four files say. -/
structure Reports where
  results : ResultsJson
  summary : Text
  coverage : Text
  junit : List TestSuite

/-- The reports on these results. -/
def reportsOn (results : List ScenarioResult) (requiredFeatures : List Text) : Reports where
  results := { requiredFeatures := requiredFeatures, results := results }
  summary := writeSummary results
  coverage := writeCoverage results requiredFeatures
  junit := writeJunit results

/-! ## Writing them -/

variable (py : Python) (world : World)

/-- All events of the results can be copied and serialized. -/
def Serializable (results : List ScenarioResult) : Prop :=
  ∀ result ∈ results, ∀ event ∈ result.events, py.serializable (.dict event) = true

instance (results : List ScenarioResult) : Decidable (Serializable py results) :=
  inferInstanceAs (Decidable (∀ result ∈ results, ∀ event ∈ result.events, _))

/-- `write_results`.  The text has ASCII characters only, as `json.dumps` escapes all others. -/
def writeResults (results : List ScenarioResult) : Except Raised Unit :=
  if Serializable py results then world.storage (world.runDir.join "results.json".toList)
  else throw .recursionError

/-- The four files that `run_suite` writes.  What cannot be encoded in `junit.xml` is written as
a character reference. -/
def writeReports (results : List ScenarioResult) (requiredFeatures : List Text) :
    Except Raised Reports := do
  writeResults py world results
  world.writeText py (world.runDir.join "summary.md".toList) (writeSummary results)
  world.writeText py (world.runDir.join "coverage.md".toList) (writeCoverage results requiredFeatures)
  world.storage (world.runDir.join "junit.xml".toList)
  return reportsOn results requiredFeatures

/-- The directory of the run can be made, and the files of the reports can be opened. -/
structure World.StoresReports : Prop where
  directory : world.storage world.runDir = .ok ()
  results : world.storage (world.runDir.join "results.json".toList) = .ok ()
  summary : world.storage (world.runDir.join "summary.md".toList) = .ok ()
  coverage : world.storage (world.runDir.join "coverage.md".toList) = .ok ()
  junit : world.storage (world.runDir.join "junit.xml".toList) = .ok ()

/-- The reports can show the results: their events are not too deep, and the texts that the
summary and the coverage show can be encoded. -/
structure ResultsShown (results : List ScenarioResult) (requiredFeatures : List Text) : Prop where
  serializable : Serializable py results
  profile : ∀ result ∈ results, Encodable py result.profile
  scenarioId : ∀ result ∈ results, Encodable py result.scenarioId
  message : ∀ result ∈ results, Encodable py result.message
  features : (∃ result ∈ results, result.scenarioId ≠ "coverage".toList) →
    ∀ feature ∈ requiredFeatures, Encodable py feature

/-- A group holds the results of the profile of one of them. -/
theorem mem_grouped {results : List ScenarioResult} {group : Text × List ScenarioResult} :
    group ∈ grouped results ↔ ∃ result ∈ results,
      group = (result.profile, results.filter (·.profile = result.profile)) := by
  unfold grouped
  rw [List.mem_map]
  simp only [List.mem_mergeSort, List.mem_dedup, List.mem_map]
  constructor
  · rintro ⟨profile, ⟨result, hresult, rfl⟩, rfl⟩
    exact ⟨result, hresult, rfl⟩
  · rintro ⟨result, hresult, rfl⟩
    exact ⟨_, ⟨result, hresult, rfl⟩, rfl⟩

/-- Something holds of all groups and their results if it holds of all results and their
profiles. -/
theorem forall_grouped {results : List ScenarioResult} {p : Text → Prop}
    {q : ScenarioResult → Prop} :
    (∀ group ∈ grouped results, p group.1 ∧ ∀ result ∈ group.2, q result) ↔
      (∀ result ∈ results, p result.profile) ∧ ∀ result ∈ results, q result := by
  constructor
  · intro h
    have hgroup : ∀ result ∈ results,
        (result.profile, results.filter (·.profile = result.profile)) ∈ grouped results :=
      fun result hresult => mem_grouped.mpr ⟨result, hresult, rfl⟩
    refine ⟨fun result hresult => (h _ (hgroup result hresult)).1, fun result hresult => ?_⟩
    exact (h _ (hgroup result hresult)).2 result (List.mem_filter.mpr ⟨hresult, by simp⟩)
  · rintro ⟨hprofile, hresults⟩ group hgroup
    obtain ⟨result, hresult, rfl⟩ := mem_grouped.mp hgroup
    exact ⟨hprofile result hresult, fun other hother =>
      hresults other (List.mem_filter.mp hother).1⟩

/-- A verdict in capitals can be encoded. -/
theorem Status.encodable_upper (status : Status) : Encodable py status.upper := by
  cases status with
  | pass => exact encodable_of_ascii py (by decide)
  | fail => exact encodable_of_ascii py (by decide)
  | unsupported => exact encodable_of_ascii py (by decide)

/-- So can it in the reports. -/
theorem Status.encodable_text (status : Status) : Encodable py status.text := by
  cases status with
  | pass => exact encodable_of_ascii py (by decide)
  | fail => exact encodable_of_ascii py (by decide)
  | unsupported => exact encodable_of_ascii py (by decide)

/-- The summary shows the profile, the identifier and the message of each result. -/
theorem encodable_writeSummary {results : List ScenarioResult} :
    Encodable py (writeSummary results) ↔
      (∀ result ∈ results, Encodable py result.profile) ∧
        ∀ result ∈ results, Encodable py result.scenarioId ∧ Encodable py result.message := by
  have hnewline : Encodable py "\n".toList := encodable_of_ascii py (by decide)
  have htitle : Encodable py "# SCTP Conformance Summary".toList :=
    encodable_of_ascii py (by decide)
  have hempty : Encodable py [] := List.forall_mem_nil _
  have hheading : Encodable py "## ".toList := encodable_of_ascii py (by decide)
  have hitem : Encodable py "- `".toList := encodable_of_ascii py (by decide)
  have hbold : Encodable py "`: **".toList := encodable_of_ascii py (by decide)
  have hdash : Encodable py "** - ".toList := encodable_of_ascii py (by decide)
  unfold writeSummary
  rw [encodable_joinTexts py hnewline, ← forall_grouped]
  simp only [List.forall_mem_append, List.forall_mem_cons, List.not_mem_nil, false_implies,
    implies_true, List.forall_mem_flatMap, List.forall_mem_map, encodable_append,
    Status.encodable_upper, htitle, hempty, hheading, hitem, hbold, hdash, true_and, and_true]

/-- The scenarios that cover a feature are shown by their identifiers. -/
theorem encodable_covering {feature : Text} {results : List ScenarioResult}
    (hid : ∀ result ∈ results, Encodable py result.scenarioId) :
    ∀ text ∈ covering feature results, Encodable py text := by
  have hopen : Encodable py " (".toList := encodable_of_ascii py (by decide)
  have hclose : Encodable py ")".toList := encodable_of_ascii py (by decide)
  intro text htext
  unfold covering at htext
  obtain ⟨result, hresult, htext⟩ := List.mem_flatMap.mp htext
  obtain ⟨_, -, rfl⟩ := List.mem_map.mp htext
  simp only [encodable_append]
  exact ⟨⟨⟨hid result hresult, hopen⟩, Status.encodable_text py _⟩, hclose⟩

/-- The coverage shows the required features if there is a scenario that can cover one. -/
theorem encodable_writeCoverage {results : List ScenarioResult} {requiredFeatures : List Text}
    (hprofile : ∀ result ∈ results, Encodable py result.profile)
    (hid : ∀ result ∈ results, Encodable py result.scenarioId) :
    Encodable py (writeCoverage results requiredFeatures) ↔
      ((∃ result ∈ results, result.scenarioId ≠ "coverage".toList) →
        ∀ feature ∈ requiredFeatures, Encodable py feature) := by
  have hnewline : Encodable py "\n".toList := encodable_of_ascii py (by decide)
  have htitle : Encodable py "# SCTP Feature Coverage".toList := encodable_of_ascii py (by decide)
  have hempty : Encodable py [] := List.forall_mem_nil _
  have hheading : Encodable py "## ".toList := encodable_of_ascii py (by decide)
  have hitem : Encodable py "- `".toList := encodable_of_ascii py (by decide)
  have hcolon : Encodable py "`: ".toList := encodable_of_ascii py (by decide)
  have hmissing : Encodable py "MISSING".toList := encodable_of_ascii py (by decide)
  have hcomma : Encodable py ", ".toList := encodable_of_ascii py (by decide)
  unfold writeCoverage
  rw [encodable_joinTexts py hnewline]
  simp only [List.forall_mem_append, List.forall_mem_cons, List.not_mem_nil, false_implies,
    implies_true, List.forall_mem_flatMap, List.forall_mem_map, encodable_append, htitle, hempty,
    hheading, hitem, hcolon, true_and, and_true]
  generalize "coverage".toList = coverage
  constructor
  · rintro h ⟨result, hresult, hne⟩ feature hfeature
    have hscenario : result ∈ results.filter (·.scenarioId ≠ coverage) :=
      List.mem_filter.mpr ⟨hresult, decide_eq_true hne⟩
    exact ((h _ (mem_grouped.mpr ⟨result, hscenario, rfl⟩)).2 feature hfeature).1
  · rintro h group hgroup
    obtain ⟨result, hscenario, rfl⟩ := mem_grouped.mp hgroup
    obtain ⟨hresult, hne⟩ := List.mem_filter.mp hscenario
    refine ⟨hprofile result hresult, fun feature hfeature => ⟨?_, ?_⟩⟩
    · exact h ⟨result, hresult, of_decide_eq_true hne⟩ feature hfeature
    · split
      · exact hmissing
      · refine (encodable_joinTexts py hcomma).mpr (encodable_covering py fun other hother => ?_)
        exact hid other (List.mem_filter.mp (List.mem_filter.mp hother).1).1

/-- The results are written when they can be serialized and their file can be opened. -/
theorem writeResults_ok_iff {results : List ScenarioResult} :
    writeResults py world results = .ok () ↔ Serializable py results ∧
      world.storage (world.runDir.join "results.json".toList) = .ok () := by
  unfold writeResults
  exact Outcome.check_eq_ok

/-- The reports are written exactly if their files can be opened and they can show the
results. -/
theorem writeReports_ok_iff {results : List ScenarioResult} {requiredFeatures : List Text}
    {reports : Reports} (hdirectory : world.storage world.runDir = .ok ()) :
    writeReports py world results requiredFeatures = .ok reports ↔
      world.StoresReports ∧ ResultsShown py results requiredFeatures ∧
        reports = reportsOn results requiredFeatures := by
  unfold writeReports
  simp only [Outcome.seq_eq_ok, Outcome.pure_eq_ok, writeResults_ok_iff, writeText_ok_iff,
    encodable_writeSummary]
  constructor
  · rintro ⟨⟨hserializable, hresults⟩, ⟨hsummary, hprofile, htexts⟩, ⟨hcoverage, hfeatures⟩, hjunit,
      hreports⟩
    have hid := fun result hresult => (htexts result hresult).1
    have hmessage := fun result hresult => (htexts result hresult).2
    rw [encodable_writeCoverage py hprofile hid] at hfeatures
    exact ⟨⟨hdirectory, hresults, hsummary, hcoverage, hjunit⟩,
      ⟨hserializable, hprofile, hid, hmessage, hfeatures⟩, hreports⟩
  · rintro ⟨hstores, hshown, hreports⟩
    exact ⟨⟨hshown.serializable, hstores.results⟩,
      ⟨hstores.summary, hshown.profile, fun result hresult =>
        ⟨hshown.scenarioId result hresult, hshown.message result hresult⟩⟩,
      ⟨hstores.coverage, (encodable_writeCoverage py hshown.profile hshown.scenarioId).mpr
        hshown.features⟩, hstores.junit, hreports⟩

end SctpConformance.Runner
