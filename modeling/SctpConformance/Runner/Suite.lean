import SctpConformance.Runner.Evaluation
import SctpConformance.Runner.Execution
import SctpConformance.Runner.Reports

/-!
# A run of the suite

`run_suite` of `cli.py`, from the loaded profile and scenario set on: the selected
scenarios are executed and evaluated one after another, and the reports are written at the
end.  An exception in any of them ends the run without a report, and one in a report ends it
without the reports behind it.

Main results:

- Definition `Settled`: the run writes its reports, with one result for each selected
  scenario, and no scenario passes in which a helper printed an error event.
- Theorem `runSuite_settled`: the runs for which this is so.
- Theorem `runSuite_not_settled`: a server that reports an error instead of getting ready
  leaves the run without a report.
-/

namespace SctpConformance.Runner

open Library

/-! ## The loop over the scenarios -/

/-- What a run that comes to its end leaves behind. -/
structure SuiteRun where
  reports : Reports
  exitCode : Nat

variable (py : Python) (world : World)

/-- The scenarios that a run executes. -/
def selectScenarios (scenarioSet : ScenarioSet) (scenarioNames : Option (List Text)) :
    List Scenario :=
  match scenarioNames with
  | some (name :: names) =>
      scenarioSet.scenarios.filter fun scenario => scenario.id ∈ name :: names
  | _ => scenarioSet.scenarios

/-- `missing_required_features` -/
def missingRequiredFeatures (results : List ScenarioResult) (requiredFeatures : List Text) :
    List Text :=
  requiredFeatures.filter fun feature =>
    !results.any fun result =>
      result.scenarioId ≠ "coverage".toList && result.requiredFeatures.contains feature

/-- The result that is added when required features are missing. -/
def coverageResult (profile : Profile) (missing : List Text) : ScenarioResult where
  profile := profile.id
  scenarioId := "coverage".toList
  title := "Coverage check".toList
  status := .fail
  message := "missing required features: ".toList ++ joinTexts ", ".toList missing
  requiredFeatures := []
  stdout := []
  stderr := []
  events := []
  artifacts := []

/-- The loop of `run_suite`, from the scenario with this position on. -/
def runScenarios (runner : ProfileRunner) (profile : Profile) (index : Nat) :
    List Scenario → Act (List ScenarioResult)
  | [] => pure []
  | scenario :: rest => do
      let artifacts ← execute py world runner profile index scenario
      let result ← liftM (evaluateScenario py profile scenario artifacts)
      let results ← runScenarios runner profile (index + 1) rest
      return result :: results

/-- The results of a run, with the coverage check. -/
def withCoverage (profile : Profile) (scenarioSet : ScenarioSet)
    (scenarioNames : Option (List Text)) (results : List ScenarioResult) : List ScenarioResult :=
  let missing :=
    if scenarioNames.isNone then missingRequiredFeatures results scenarioSet.requiredFeatures
    else []
  if missing.isEmpty then results else results ++ [coverageResult profile missing]

/-- The lines with the results that `run_suite` prints when the reports are written. -/
def printResults : List ScenarioResult → Except Raised Unit
  | [] => .ok ()
  | result :: results => do
      world.print py (result.scenarioId ++ ": ".toList ++ result.status.text ++ " - ".toList ++
        result.message)
      printResults results

/-- `run_suite` -/
def runSuite (profile : Profile) (scenarioSet : ScenarioSet)
    (scenarioNames : Option (List Text)) : Act SuiteRun := do
  let runner ← liftM (createRunner profile)
  -- `runner.bootstrap()` and `runner.build()`
  liftM world.prepare
  let ownResults ← runScenarios py world runner profile 0 (selectScenarios scenarioSet scenarioNames)
  let results := withCoverage profile scenarioSet scenarioNames ownResults
  liftM (world.storage world.runDir)
  let reports ← liftM (writeReports py world results scenarioSet.requiredFeatures)
  liftM (printResults py world results)
  return {
    reports := reports
    exitCode := if results.any (·.status = .fail) then 1 else 0 }

/-! ## One result for each scenario -/

/-- The helper prints an error event. -/
def PrintsError (helper : Helper) : Prop :=
  ∃ line ∈ helper.printed, ∃ event, py.loads line = .value (.dict event) ∧
    Event.isNamed "error".toList event

/-- The run of the selected scenarios ends with the reports written: they hold one result
for each scenario, besides the one of the coverage check, and where a helper that was
started for a scenario printed an error event, its result is not a pass. -/
def Settled (profile : Profile) (scenarioSet : ScenarioSet)
    (scenarioNames : Option (List Text)) : Prop :=
  ∃ run stage,
    (runSuite py world profile scenarioSet scenarioNames).Gives { now := 0, started := [] }
      run stage ∧
    (∃ own added, run.reports.results.results = own ++ added ∧
      own.map (·.scenarioId) = (selectScenarios scenarioSet scenarioNames).map (·.id) ∧
      (added = [] ∨ ∃ missing, added = [coverageResult profile missing])) ∧
    ∀ (index : Nat) scenario result helper,
      (selectScenarios scenarioSet scenarioNames)[index]? = some scenario →
      run.reports.results.results[index]? = some result →
      (index, helper) ∈ stage.started → PrintsError py helper →
      result.status = .fail ∨ result.status = .unsupported

/-- The run gets a result: a scenario is selected, or there is nothing to cover the required
features. -/
def HasResults (scenarioSet : ScenarioSet) (scenarioNames : Option (List Text)) : Prop :=
  selectScenarios scenarioSet scenarioNames ≠ [] ∨
    scenarioNames = none ∧ scenarioSet.requiredFeatures ≠ []

/-- The texts of the configuration that the reports show can be encoded. -/
structure ConfigurationShown (profile : Profile) (scenarioSet : ScenarioSet)
    (scenarioNames : Option (List Text)) : Prop where
  profile : HasResults scenarioSet scenarioNames → Encodable py profile.id
  scenarios : ∀ scenario ∈ selectScenarios scenarioSet scenarioNames, Encodable py scenario.id
  features : (scenarioNames = none ∨
      ∃ scenario ∈ selectScenarios scenarioSet scenarioNames, scenario.id ≠ "coverage".toList) →
    ∀ feature ∈ scenarioSet.requiredFeatures, Encodable py feature

/-- The run can be prepared, and report what it finds. -/
structure CanReport (runner : ProfileRunner) (profile : Profile) (scenarioSet : ScenarioSet)
    (scenarioNames : Option (List Text)) : Prop where
  created : createRunner profile = .ok runner
  prepared : world.prepare = .ok ()
  stores : world.StoresReports
  shown : ConfigurationShown py profile scenarioSet scenarioNames
  terminal : HasResults scenarioSet scenarioNames → world.terminal = .ok ()

/-- The helpers of a scenario can be started, keep to their time limits and print what the
runner and the evaluation can use and the reports can show; and if one of them prints an error
event, the extracted events do not satisfy the assertions of the scenario. -/
def ScenarioSettles (runner : ProfileRunner) (profile : Profile) (index : Nat)
    (scenario : Scenario) : Prop :=
  ∃ helpers artifacts, Completes py world runner profile index scenario helpers artifacts ∧
    Reportable py scenario.assertions artifacts.events ∧
    ∀ helper ∈ helpers, PrintsError py helper →
      ¬Satisfied py scenario.assertions artifacts.events

/-- A finished loop: the results of the scenarios, and the helpers they started. -/
inductive Finished (runner : ProfileRunner) (profile : Profile) :
    Nat → List Scenario → List ScenarioResult → List (Nat × Helper) → Prop
  | nil (index : Nat) : Finished runner profile index [] [] []
  | cons {index : Nat} {scenario : Scenario} {rest : List Scenario} {helpers : List Helper}
      {artifacts : ScenarioArtifacts} {result : ScenarioResult} {results : List ScenarioResult}
      {started : List (Nat × Helper)}
      (completes : Completes py world runner profile index scenario helpers artifacts)
      (evaluated : evaluateScenario py profile scenario artifacts = .ok result)
      (others : Finished runner profile (index + 1) rest results started) :
      Finished runner profile index (scenario :: rest) (result :: results)
        (helpers.map (fun helper => (index, helper)) ++ started)

variable {runner : ProfileRunner} {profile : Profile} {index : Nat} {scenarios : List Scenario}
variable {results : List ScenarioResult} {started : List (Nat × Helper)}

/-- A loop that returns has gone through the scenarios one by one. -/
theorem finished_of_runScenarios {s t : Stage}
    (h : (runScenarios py world runner profile index scenarios).Gives s results t) :
    ∃ started, Finished py world runner profile index scenarios results started ∧
      t.started = s.started ++ started := by
  induction scenarios generalizing index s results with
  | nil =>
      obtain ⟨rfl, rfl⟩ := Raising.gives_pure.mp h
      exact ⟨[], .nil index, (List.append_nil _).symm⟩
  | cons scenario rest ih =>
      unfold runScenarios at h
      simp only [Raising.gives_bind, Raising.gives_liftExcept, Raising.gives_pure] at h
      obtain ⟨artifacts, u, hexecute, result, _, ⟨hresult, rfl⟩, others, v, hothers, rfl, rfl⟩ := h
      obtain ⟨helpers, hcompletes, hstarted⟩ := completes_of_execute py world hexecute
      obtain ⟨started, hfinished, hstarted'⟩ := ih hothers
      refine ⟨_, .cons hcompletes hresult hfinished, ?_⟩
      rw [hstarted', hstarted, List.append_assoc]

/-- Scenarios that all finish make the loop return. -/
theorem runScenarios_of_finished
    (h : Finished py world runner profile index scenarios results started) (s : Stage) :
    ∃ t, (runScenarios py world runner profile index scenarios).Gives s results t ∧
      t.started = s.started ++ started := by
  induction h generalizing s with
  | nil => exact ⟨s, Raising.gives_pure.mpr ⟨rfl, rfl⟩, (List.append_nil _).symm⟩
  | cons hcompletes hresult _ ih =>
      obtain ⟨t, hexecute, hstarted⟩ := execute_of_completes py world hcompletes s
      obtain ⟨u, hothers, hstarted'⟩ := ih t
      refine ⟨u, ?_, by rw [hstarted', hstarted, List.append_assoc]⟩
      unfold runScenarios
      simp only [Raising.gives_bind, Raising.gives_liftExcept, Raising.gives_pure]
      exact ⟨_, t, hexecute, _, t, ⟨hresult, rfl⟩, _, u, hothers, rfl, rfl⟩

/-- Every scenario has its result. -/
theorem Finished.ids (h : Finished py world runner profile index scenarios results started) :
    results.map (·.scenarioId) = scenarios.map (·.id) := by
  induction h with
  | nil => rfl
  | cons _ hresult _ ih =>
      rw [List.map_cons, List.map_cons, ih, (evaluateScenario_fields py hresult).2.1]

/-- The helpers of a finished loop belong to scenarios from its first position on. -/
theorem Finished.le (h : Finished py world runner profile index scenarios results started)
    {position : Nat} {helper : Helper} (hstarted : (position, helper) ∈ started) :
    index ≤ position := by
  induction h with
  | nil => cases hstarted
  | cons _ _ _ ih =>
      rcases List.mem_append.mp hstarted with hown | hothers
      · obtain ⟨_, _, heq⟩ := List.mem_map.mp hown
        cases heq
        exact le_refl _
      · have := ih hothers
        omega

/-- What a finished loop has done for the scenario at a position. -/
theorem Finished.at_position
    (h : Finished py world runner profile index scenarios results started)
    {offset : Nat} {scenario : Scenario} (hscenario : scenarios[offset]? = some scenario) :
    ∃ helpers artifacts result,
      Completes py world runner profile (index + offset) scenario helpers artifacts ∧
      evaluateScenario py profile scenario artifacts = .ok result ∧
      results[offset]? = some result ∧
      ∀ helper, (index + offset, helper) ∈ started ↔ helper ∈ helpers := by
  induction h generalizing offset with
  | nil => cases hscenario
  | @cons index first rest helpers artifacts result results started hcompletes hresult hothers ih =>
      cases offset with
      | zero =>
          cases hscenario
          refine ⟨helpers, artifacts, result, hcompletes, hresult, rfl, fun helper => ?_⟩
          have hnot : (index, helper) ∉ started := fun hmem => by
            have := hothers.le py world hmem
            omega
          simp [hnot]
      | succ offset =>
          obtain ⟨helpers', artifacts', result', hcompletes', hresult', hget, hstarted⟩ :=
            ih hscenario
          rw [show index + (offset + 1) = index + 1 + offset by omega]
          refine ⟨helpers', artifacts', result', hcompletes', hresult', hget, fun helper => ?_⟩
          rw [← hstarted helper, List.mem_append]
          constructor
          · rintro (hown | hlater)
            · obtain ⟨_, _, heq⟩ := List.mem_map.mp hown
              have := congrArg Prod.fst heq
              dsimp only at this
              omega
            · exact hlater
          · exact .inr

/-- The loop finishes if each scenario completes and can be evaluated. -/
theorem finished_of_completes
    (h : ∀ (offset : Nat) scenario, scenarios[offset]? = some scenario →
      ∃ helpers artifacts result,
        Completes py world runner profile (index + offset) scenario helpers artifacts ∧
        evaluateScenario py profile scenario artifacts = .ok result) :
    ∃ results started, Finished py world runner profile index scenarios results started := by
  induction scenarios generalizing index with
  | nil => exact ⟨[], [], .nil index⟩
  | cons scenario rest ih =>
      obtain ⟨helpers, artifacts, result, hcompletes, hresult⟩ := h 0 scenario rfl
      obtain ⟨results, started, hfinished⟩ := ih fun offset later hlater => by
        have := h (offset + 1) later hlater
        rwa [show index + (offset + 1) = index + 1 + offset by omega] at this
      exact ⟨_, _, .cons hcompletes hresult hfinished⟩

/-- The loop finishes if each scenario settles. -/
theorem finished_of_settles
    (h : ∀ (offset : Nat) scenario, scenarios[offset]? = some scenario →
      ScenarioSettles py world runner profile (index + offset) scenario) :
    ∃ results started, Finished py world runner profile index scenarios results started := by
  refine finished_of_completes py world fun offset scenario hscenario => ?_
  obtain ⟨helpers, artifacts, hcompletes, hreportable, -⟩ := h offset scenario hscenario
  obtain ⟨result, hresult⟩ := (evaluateScenario_ok_iff py profile).mpr hreportable.counted
  exact ⟨helpers, artifacts, result, hcompletes, hresult⟩

/-- In a finished loop a scenario settles if and only if the reports can show its result, which is
no pass when one of its helpers printed an error event. -/
theorem Finished.settles_iff
    (h : Finished py world runner profile index scenarios results started)
    {offset : Nat} {scenario : Scenario} (hscenario : scenarios[offset]? = some scenario)
    {result : ScenarioResult} (hget : results[offset]? = some result) :
    ScenarioSettles py world runner profile (index + offset) scenario ↔
      ((∀ event ∈ result.events, py.serializable (.dict event) = true) ∧
        Encodable py result.message) ∧
      ∀ helper, (index + offset, helper) ∈ started → PrintsError py helper →
        result.status = .fail ∨ result.status = .unsupported := by
  obtain ⟨helpers, artifacts, result', hcompletes, hresult, hget', hstarted⟩ :=
    h.at_position py world hscenario
  obtain rfl : result = result' := Option.some.inj (hget.symm.trans hget')
  rw [← reportable_iff py hresult, evaluateScenario_no_pass_iff py hresult]
  constructor
  · rintro ⟨helpers', artifacts', hcompletes', hreportable, herror⟩
    obtain ⟨rfl, rfl⟩ := hcompletes.unique py world hcompletes'
    exact ⟨hreportable, fun helper hmem hprints => herror helper ((hstarted helper).mp hmem) hprints⟩
  · rintro ⟨hreportable, hsettled⟩
    exact ⟨helpers, artifacts, hcompletes, hreportable, fun helper hhelper hprints =>
      hsettled helper ((hstarted helper).mpr hhelper) hprints⟩

/-- There are as many results as scenarios. -/
theorem Finished.length_eq
    (h : Finished py world runner profile index scenarios results started) :
    results.length = scenarios.length := by
  have hlength := congrArg List.length (h.ids py world)
  rwa [List.length_map, List.length_map] at hlength

/-- There are results exactly if there are scenarios. -/
theorem Finished.ne_nil_iff
    (h : Finished py world runner profile index scenarios results started) :
    results ≠ [] ↔ scenarios ≠ [] := by
  rw [← List.length_pos_iff, ← List.length_pos_iff, h.length_eq py world]

/-- Each result of a finished loop stands at the position of a scenario. -/
theorem Finished.exists_scenario
    (h : Finished py world runner profile index scenarios results started) {offset : Nat}
    {result : ScenarioResult} (hresult : results[offset]? = some result) :
    ∃ scenario, scenarios[offset]? = some scenario := by
  have hoffset := (List.getElem?_eq_some_iff.mp hresult).1
  exact ⟨_, List.getElem?_eq_getElem (h.length_eq py world ▸ hoffset)⟩

/-- The results of a loop are of its profile. -/
theorem Finished.profile_eq
    (h : Finished py world runner profile index scenarios results started) :
    ∀ result ∈ results, result.profile = profile.id := by
  induction h with
  | nil => exact List.forall_mem_nil _
  | cons _ hresult _ ih =>
      exact List.forall_mem_cons.mpr ⟨(evaluateScenario_fields py hresult).1, ih⟩

/-! ## What the reports show of a run -/

/-- A feature is missing if no scenario lists it, apart from one named like the coverage check. -/
theorem mem_missingRequiredFeatures {results : List ScenarioResult} {requiredFeatures : List Text}
    {feature : Text} :
    feature ∈ missingRequiredFeatures results requiredFeatures ↔
      feature ∈ requiredFeatures ∧ ∀ result ∈ results,
        result.scenarioId ≠ "coverage".toList → feature ∉ result.requiredFeatures := by
  unfold missingRequiredFeatures
  generalize "coverage".toList = coverage
  rw [List.mem_filter]
  simp

/-- The coverage check adds a result when no names are given and features are missing. -/
theorem withCoverage_cases (profile : Profile) (scenarioSet : ScenarioSet)
    (scenarioNames : Option (List Text)) (own : List ScenarioResult) :
    (withCoverage profile scenarioSet scenarioNames own = own ∧
      (scenarioNames = none → missingRequiredFeatures own scenarioSet.requiredFeatures = [])) ∨
    (scenarioNames = none ∧ missingRequiredFeatures own scenarioSet.requiredFeatures ≠ [] ∧
      withCoverage profile scenarioSet scenarioNames own = own ++ [coverageResult profile
        (missingRequiredFeatures own scenarioSet.requiredFeatures)]) := by
  unfold withCoverage
  cases scenarioNames with
  | some names => exact .inl ⟨rfl, fun h => nomatch h⟩
  | none =>
      cases hmissing : missingRequiredFeatures own scenarioSet.requiredFeatures with
      | nil => exact .inl ⟨rfl, fun _ => rfl⟩
      | cons feature missing => exact .inr ⟨rfl, List.cons_ne_nil _ _, rfl⟩

/-- The coverage check only adds a result at the end. -/
theorem withCoverage_eq (profile : Profile) (scenarioSet : ScenarioSet)
    (scenarioNames : Option (List Text)) (own : List ScenarioResult) :
    ∃ added, withCoverage profile scenarioSet scenarioNames own = own ++ added ∧
      (added = [] ∨ ∃ missing, added = [coverageResult profile missing]) := by
  rcases withCoverage_cases profile scenarioSet scenarioNames own with ⟨heq, -⟩ | ⟨-, -, heq⟩
  · exact ⟨[], by rw [heq, List.append_nil], .inl rfl⟩
  · exact ⟨_, heq, .inr ⟨_, rfl⟩⟩

/-- The scenarios' own results stay in their places. -/
theorem withCoverage_getElem? {scenarioSet : ScenarioSet} {scenarioNames : Option (List Text)}
    {own : List ScenarioResult} {index : Nat} {result : ScenarioResult}
    (h : own[index]? = some result) :
    (withCoverage profile scenarioSet scenarioNames own)[index]? = some result := by
  obtain ⟨added, hadded, -⟩ := withCoverage_eq profile scenarioSet scenarioNames own
  obtain ⟨hlt, -⟩ := List.getElem?_eq_some_iff.mp h
  rw [hadded, List.getElem?_append_left hlt, h]

/-- The message of the coverage check shows the missing features. -/
theorem encodable_coverageResult {missing : List Text} :
    Encodable py (coverageResult profile missing).message ↔
      ∀ feature ∈ missing, Encodable py feature := by
  have hmissing : Encodable py "missing required features: ".toList :=
    encodable_of_ascii py (by decide)
  have hcomma : Encodable py ", ".toList := encodable_of_ascii py (by decide)
  show Encodable py (_ ++ joinTexts _ _) ↔ _
  rw [encodable_append, encodable_joinTexts py hcomma]
  exact ⟨fun h => h.2, fun h => ⟨hmissing, h⟩⟩

/-- When no feature is missing, some scenario covers each of them. -/
theorem exists_covering {own : List ScenarioResult} {requiredFeatures : List Text}
    (hcovered : missingRequiredFeatures own requiredFeatures = []) {feature : Text}
    (hfeature : feature ∈ requiredFeatures) :
    ∃ result ∈ own, result.scenarioId ≠ "coverage".toList := by
  by_contra hnot
  have hmem := mem_missingRequiredFeatures.mpr ⟨hfeature, fun result hresult hne =>
    absurd ⟨result, hresult, hne⟩ hnot⟩
  rw [hcovered] at hmem
  cases hmem

/-- What the reports can show of results of one profile. -/
theorem resultsShown_own {own : List ScenarioResult} {requiredFeatures : List Text}
    (hprofile : ∀ result ∈ own, result.profile = profile.id) :
    ResultsShown py own requiredFeatures ↔
      (∀ result ∈ own, (∀ event ∈ result.events, py.serializable (.dict event) = true) ∧
        Encodable py result.message) ∧
      (own ≠ [] → Encodable py profile.id) ∧
      (∀ result ∈ own, Encodable py result.scenarioId) ∧
      ((∃ result ∈ own, result.scenarioId ≠ "coverage".toList) →
        ∀ feature ∈ requiredFeatures, Encodable py feature) := by
  constructor
  · intro h
    refine ⟨fun result hresult => ⟨h.serializable result hresult, h.message result hresult⟩, ?_,
      h.scenarioId, h.features⟩
    intro hne
    obtain ⟨result, hresult⟩ := List.exists_mem_of_ne_nil own hne
    exact hprofile result hresult ▸ h.profile result hresult
  · rintro ⟨hresults, hid, hscenarios, hfeatures⟩
    refine ⟨fun result hresult => (hresults result hresult).1, fun result hresult => ?_,
      hscenarios, fun result hresult => (hresults result hresult).2, hfeatures⟩
    rw [hprofile result hresult]
    exact hid (List.ne_nil_of_mem hresult)

/-- With the result of the coverage check behind them, all required features are shown: those
that are missing in its message, and the other ones because a scenario covers them. -/
theorem resultsShown_concat {own : List ScenarioResult} {requiredFeatures : List Text}
    (hprofile : ∀ result ∈ own, result.profile = profile.id) :
    ResultsShown py (own ++ [coverageResult profile
        (missingRequiredFeatures own requiredFeatures)]) requiredFeatures ↔
      (∀ result ∈ own, (∀ event ∈ result.events, py.serializable (.dict event) = true) ∧
        Encodable py result.message) ∧
      Encodable py profile.id ∧ (∀ result ∈ own, Encodable py result.scenarioId) ∧
      ∀ feature ∈ requiredFeatures, Encodable py feature := by
  have hlast : ∀ {result}, result ∈ own ++ [coverageResult profile
      (missingRequiredFeatures own requiredFeatures)] ↔ result ∈ own ∨
        result = coverageResult profile (missingRequiredFeatures own requiredFeatures) := by
    simp
  constructor
  · intro h
    have hlisted := (encodable_coverageResult py).mp (h.message _ (hlast.mpr (.inr rfl)))
    refine ⟨fun result hresult => ?_, h.profile _ (hlast.mpr (.inr rfl)),
      fun result hresult => h.scenarioId result (hlast.mpr (.inl hresult)), ?_⟩
    · have hmem := hlast.mpr (.inl hresult)
      exact ⟨h.serializable result hmem, h.message result hmem⟩
    · intro feature hfeature
      by_cases hother : ∃ result ∈ own, result.scenarioId ≠ "coverage".toList
      · obtain ⟨result, hresult, hne⟩ := hother
        exact h.features ⟨result, hlast.mpr (.inl hresult), hne⟩ feature hfeature
      · exact hlisted feature (mem_missingRequiredFeatures.mpr ⟨hfeature,
          fun result hresult hne => absurd ⟨result, hresult, hne⟩ hother⟩)
  · rintro ⟨hresults, hid, hscenarios, hfeatures⟩
    constructor
    case serializable =>
      intro result hresult
      rcases hlast.mp hresult with hown | rfl
      · exact (hresults result hown).1
      · exact List.forall_mem_nil _
    case profile =>
      intro result hresult
      rcases hlast.mp hresult with hown | rfl
      · rw [hprofile result hown]
        exact hid
      · exact hid
    case scenarioId =>
      intro result hresult
      rcases hlast.mp hresult with hown | rfl
      · exact hscenarios result hown
      · show Encodable py "coverage".toList
        exact encodable_of_ascii py (by decide)
    case message =>
      intro result hresult
      rcases hlast.mp hresult with hown | rfl
      · exact (hresults result hown).2
      · exact (encodable_coverageResult py).mpr fun feature hfeature =>
          hfeatures feature (mem_missingRequiredFeatures.mp hfeature).1
    case features =>
      exact fun _ => hfeatures

/-- What the reports can show of a run, from the scenarios' own results: the coverage check shows
features only when the coverage does, or when no scenario can cover one. -/
theorem withCoverage_shown_iff {scenarioSet : ScenarioSet} {scenarioNames : Option (List Text)}
    {own : List ScenarioResult} (hprofile : ∀ result ∈ own, result.profile = profile.id) :
    ResultsShown py (withCoverage profile scenarioSet scenarioNames own)
        scenarioSet.requiredFeatures ↔
      (∀ result ∈ own, (∀ event ∈ result.events, py.serializable (.dict event) = true) ∧
        Encodable py result.message) ∧
      (own ≠ [] ∨ scenarioNames = none ∧ scenarioSet.requiredFeatures ≠ [] →
        Encodable py profile.id) ∧
      (∀ result ∈ own, Encodable py result.scenarioId) ∧
      ((scenarioNames = none ∨ ∃ result ∈ own, result.scenarioId ≠ "coverage".toList) →
        ∀ feature ∈ scenarioSet.requiredFeatures, Encodable py feature) := by
  rcases withCoverage_cases profile scenarioSet scenarioNames own with
    ⟨heq, hcovered⟩ | ⟨rfl, hmissing, heq⟩
  · rw [heq, resultsShown_own py hprofile]
    refine and_congr_right fun _ => and_congr ?_ (and_congr_right fun _ => ?_)
    · refine imp_congr_left ⟨.inl, ?_⟩
      rintro (hne | ⟨hnone, hfeatures⟩)
      · exact hne
      · obtain ⟨feature, hfeature⟩ := List.exists_mem_of_ne_nil _ hfeatures
        obtain ⟨result, hresult, -⟩ := exists_covering (hcovered hnone) hfeature
        exact List.ne_nil_of_mem hresult
    · constructor
      · rintro hfeatures (hnone | hother) feature hfeature
        · exact hfeatures (exists_covering (hcovered hnone) hfeature) feature hfeature
        · exact hfeatures hother feature hfeature
      · exact fun hfeatures hother => hfeatures (.inr hother)
  · obtain ⟨feature, hfeature⟩ := List.exists_mem_of_ne_nil _ hmissing
    have hrequired : scenarioSet.requiredFeatures ≠ [] :=
      List.ne_nil_of_mem (mem_missingRequiredFeatures.mp hfeature).1
    rw [heq, resultsShown_concat py hprofile]
    refine and_congr_right fun _ => and_congr ?_ (and_congr_right fun _ => ?_)
    · exact ⟨fun hid _ => hid, fun hid => hid (.inr ⟨rfl, hrequired⟩)⟩
    · exact ⟨fun hfeatures _ => hfeatures, fun hfeatures => hfeatures (.inl rfl)⟩

/-- A run has results if a scenario is selected or there is nothing to cover the features. -/
theorem withCoverage_ne_nil_iff {scenarioSet : ScenarioSet} {scenarioNames : Option (List Text)}
    {own : List ScenarioResult} :
    withCoverage profile scenarioSet scenarioNames own ≠ [] ↔
      (own ≠ [] ∨ scenarioNames = none ∧ scenarioSet.requiredFeatures ≠ []) := by
  rcases withCoverage_cases profile scenarioSet scenarioNames own with
    ⟨heq, hcovered⟩ | ⟨hnone, hmissing, heq⟩
  · rw [heq]
    refine ⟨.inl, ?_⟩
    rintro (hown | ⟨hnone, hfeatures⟩)
    · exact hown
    · rintro rfl
      obtain ⟨feature, hfeature⟩ := List.exists_mem_of_ne_nil _ hfeatures
      have hmem : feature ∈ missingRequiredFeatures [] scenarioSet.requiredFeatures :=
        mem_missingRequiredFeatures.mpr ⟨hfeature, fun result hresult => nomatch hresult⟩
      rw [hcovered hnone] at hmem
      cases hmem
  · rw [heq]
    refine iff_of_true (by simp) (.inr ⟨hnone, ?_⟩)
    obtain ⟨feature, hfeature⟩ := List.exists_mem_of_ne_nil _ hmissing
    exact List.ne_nil_of_mem (mem_missingRequiredFeatures.mp hfeature).1

/-- What the reports show can be printed, if the output takes a line. -/
theorem printResults_ok_iff {results : List ScenarioResult} {requiredFeatures : List Text}
    (hshown : ResultsShown py results requiredFeatures) :
    printResults py world results = .ok () ↔ (results ≠ [] → world.terminal = .ok ()) := by
  have hlines : printResults py world results = .ok () ↔
      ∀ result ∈ results, world.print py (result.scenarioId ++ ": ".toList ++ result.status.text ++
        " - ".toList ++ result.message) = .ok () := by
    clear hshown
    induction results with
    | nil => exact iff_of_true rfl (List.forall_mem_nil _)
    | cons result results ih =>
        rw [List.forall_mem_cons, ← ih, printResults]
        exact Outcome.seq_eq_ok
  have hcolon : Encodable py ": ".toList := encodable_of_ascii py (by decide)
  have hdash : Encodable py " - ".toList := encodable_of_ascii py (by decide)
  rw [hlines]
  constructor
  · intro h hne
    obtain ⟨result, hresult⟩ := List.exists_mem_of_ne_nil _ hne
    exact ((print_ok_iff py world).mp (h result hresult)).1
  · intro hterminal result hresult
    refine (print_ok_iff py world).mpr ⟨hterminal (List.ne_nil_of_mem hresult), ?_⟩
    simp only [encodable_append]
    exact ⟨⟨⟨⟨hshown.scenarioId result hresult, hcolon⟩, Status.encodable_text py _⟩, hdash⟩,
      hshown.message result hresult⟩

/-- A run of the suite that ends is a finished loop over the selected scenarios. -/
theorem runSuite_gives {scenarioSet : ScenarioSet} {scenarioNames : Option (List Text)}
    {s t : Stage} {run : SuiteRun} :
    (runSuite py world profile scenarioSet scenarioNames).Gives s run t ↔
      ∃ runner, createRunner profile = .ok runner ∧ world.prepare = .ok () ∧
        ∃ own, (runScenarios py world runner profile 0
            (selectScenarios scenarioSet scenarioNames)).Gives s own t ∧
          let results := withCoverage profile scenarioSet scenarioNames own
          world.StoresReports ∧ ResultsShown py results scenarioSet.requiredFeatures ∧
          (results ≠ [] → world.terminal = .ok ()) ∧
          run = {
            reports := reportsOn results scenarioSet.requiredFeatures
            exitCode := if results.any (·.status = .fail) then 1 else 0 } := by
  unfold runSuite
  simp only [Raising.gives_bind, Raising.gives_liftExcept, Raising.gives_pure]
  constructor
  · rintro ⟨runner, _, ⟨hrunner, rfl⟩, _, _, ⟨hprepare, rfl⟩, own, _, hown, _, _,
      ⟨hdirectory, rfl⟩, reports, _, ⟨hreports, rfl⟩, _, _, ⟨hprint, rfl⟩, rfl, rfl⟩
    obtain ⟨hstores, hshown, rfl⟩ := (writeReports_ok_iff py world hdirectory).mp hreports
    exact ⟨runner, hrunner, hprepare, own, hown, hstores, hshown,
      (printResults_ok_iff py world hshown).mp hprint, rfl⟩
  · rintro ⟨runner, hrunner, hprepare, own, hown, hstores, hshown, hterminal, rfl⟩
    exact ⟨runner, _, ⟨hrunner, rfl⟩, (), _, ⟨hprepare, rfl⟩, own, _, hown, (), _,
      ⟨hstores.directory, rfl⟩, _, _,
      ⟨(writeReports_ok_iff py world hstores.directory).mpr ⟨hstores, hshown, rfl⟩, rfl⟩, (), _,
      ⟨(printResults_ok_iff py world hshown).mpr hterminal, rfl⟩, rfl, rfl⟩

/-- A finished loop can be reported exactly if the configuration and each of its results can be
shown. -/
theorem Finished.shown_iff {scenarioSet : ScenarioSet} {scenarioNames : Option (List Text)}
    (h : Finished py world runner profile index (selectScenarios scenarioSet scenarioNames) results
      started) :
    ResultsShown py (withCoverage profile scenarioSet scenarioNames results)
        scenarioSet.requiredFeatures ↔
      ConfigurationShown py profile scenarioSet scenarioNames ∧
        ∀ result ∈ results, (∀ event ∈ result.events, py.serializable (.dict event) = true) ∧
          Encodable py result.message := by
  have hids := h.ids py world
  have hempty := h.ne_nil_iff py world
  have hall {p : Text → Prop} : (∀ result ∈ results, p result.scenarioId) ↔
      ∀ scenario ∈ selectScenarios scenarioSet scenarioNames, p scenario.id := by
    rw [← List.forall_mem_map (f := fun result : ScenarioResult => result.scenarioId) (P := p), hids,
      List.forall_mem_map]
  have hexists : (∃ result ∈ results, result.scenarioId ≠ "coverage".toList) ↔
      ∃ scenario ∈ selectScenarios scenarioSet scenarioNames, scenario.id ≠ "coverage".toList := by
    have hnot := not_congr (hall (p := (· = "coverage".toList)))
    push Not at hnot
    exact hnot
  rw [withCoverage_shown_iff py (h.profile_eq py world), hempty, hexists, hall]
  constructor
  · rintro ⟨hresults, hprofile, hscenarios, hfeatures⟩
    exact ⟨⟨hprofile, hscenarios, hfeatures⟩, hresults⟩
  · rintro ⟨hconfiguration, hresults⟩
    exact ⟨hresults, hconfiguration.profile, hconfiguration.scenarios, hconfiguration.features⟩

/-- The run gets results as the configuration says. -/
theorem Finished.hasResults_iff {scenarioSet : ScenarioSet} {scenarioNames : Option (List Text)}
    (h : Finished py world runner profile index (selectScenarios scenarioSet scenarioNames) results
      started) :
    withCoverage profile scenarioSet scenarioNames results ≠ [] ↔
      HasResults scenarioSet scenarioNames := by
  rw [withCoverage_ne_nil_iff, HasResults, h.ne_nil_iff py world]

/-- The run writes its reports, with one result for each selected scenario and no pass
where a helper printed an error event, if and only if it can be prepared and report what it finds,
and each of the scenarios settles. -/
theorem runSuite_settled (profile : Profile) (scenarioSet : ScenarioSet)
    (scenarioNames : Option (List Text)) :
    Settled py world profile scenarioSet scenarioNames ↔
      ∃ runner, CanReport py world runner profile scenarioSet scenarioNames ∧
        ∀ (index : Nat) scenario,
          (selectScenarios scenarioSet scenarioNames)[index]? = some scenario →
            ScenarioSettles py world runner profile index scenario := by
  constructor
  · rintro ⟨run, stage, hrun, -, hstatus⟩
    obtain ⟨runner, hrunner, hprepare, own, hown, hstores, hshown, hterminal, rfl⟩ :=
      (runSuite_gives py world).mp hrun
    obtain ⟨started, hfinished, hstarted⟩ := finished_of_runScenarios py world hown
    obtain ⟨hconfiguration, hresults⟩ := (hfinished.shown_iff py world).mp hshown
    refine ⟨runner, ⟨hrunner, hprepare, hstores, hconfiguration, fun hhas => hterminal
      ((hfinished.hasResults_iff py world).mpr hhas)⟩, fun index scenario hscenario => ?_⟩
    obtain ⟨_, _, result, _, _, hget, _⟩ := hfinished.at_position py world hscenario
    have hsettles := hfinished.settles_iff py world hscenario hget
    rw [Nat.zero_add] at hsettles
    refine hsettles.mpr ⟨hresults result (List.mem_of_getElem? hget), fun helper hmem hprints => ?_⟩
    refine hstatus index scenario result helper hscenario (withCoverage_getElem? hget) ?_ hprints
    rw [hstarted]
    exact List.mem_append_right _ hmem
  · rintro ⟨runner, hreport, hsettles⟩
    have hoffset : ∀ offset scenario,
        (selectScenarios scenarioSet scenarioNames)[offset]? = some scenario →
          ScenarioSettles py world runner profile (0 + offset) scenario := by
      intro offset scenario hscenario
      rw [Nat.zero_add]
      exact hsettles offset scenario hscenario
    obtain ⟨own, started, hfinished⟩ := finished_of_settles py world hoffset
    obtain ⟨stage, hown, hstarted⟩ :=
      runScenarios_of_finished py world hfinished { now := 0, started := [] }
    obtain ⟨added, hadded, hcoverage⟩ := withCoverage_eq profile scenarioSet scenarioNames own
    have hresults : ∀ result ∈ own,
        (∀ event ∈ result.events, py.serializable (.dict event) = true) ∧
          Encodable py result.message := by
      intro result hmem
      obtain ⟨offset, hget⟩ := List.mem_iff_getElem?.mp hmem
      obtain ⟨scenario, hscenario⟩ := hfinished.exists_scenario py world hget
      exact ((hfinished.settles_iff py world hscenario hget).mp (hoffset offset scenario hscenario)).1
    refine ⟨_, stage, (runSuite_gives py world).mpr ⟨runner, hreport.created, hreport.prepared, own,
      hown, hreport.stores, (hfinished.shown_iff py world).mpr ⟨hreport.shown, hresults⟩,
      fun hne => hreport.terminal ((hfinished.hasResults_iff py world).mp hne), rfl⟩,
      ⟨own, added, hadded, hfinished.ids py world, hcoverage⟩, ?_⟩
    intro index scenario result helper hscenario hget hmem hprints
    obtain ⟨_, _, result', _, _, hget', _⟩ := hfinished.at_position py world hscenario
    obtain rfl : result = result' := Option.some.inj (hget.symm.trans (withCoverage_getElem? hget'))
    refine ((hfinished.settles_iff py world hscenario hget').mp (hoffset index scenario hscenario)).2
      helper ?_ hprints
    rw [hstarted] at hmem
    rw [Nat.zero_add]
    exact hmem

/-! ## A server without SCTP -/

/-- What a server helper prints on a host without SCTP. -/
def refusalLine : Text :=
  "\x7b\"event\":\"error\",\"message\":\"protocol not supported\"\x7d".toList

/-- `json.loads` on the only line that is printed. -/
def refusalPython : Python where
  loads text :=
    if text = refusalLine then
      .value (.dict [("event".toList, .str "error".toList),
        ("message".toList, .str "protocol not supported".toList)])
    else .jsonDecodeError
  repr _ := "None".toList
  equal _ _ := false
  lower text := text.map Char.toLower
  encodable _ := true
  serializable _ := true
  encodable_ascii _ _ := rfl
  encodable_repr _ _ _ := rfl

/-- The server reports an error after five milliseconds and exits. -/
def refusingServer : Helper where
  stdout := [(5, refusalLine)]
  stderr := []
  ending := some (6, 1)
  endsOnTerminate := true
  endsOnKill := true
  stdout_lines := by decide
  stdout_ordered := by decide
  stdout_before := by decide

/-- A host on which everything else works. -/
def refusalWorld : World where
  helper _ _ _ := .ok refusingServer
  freePort _ := .ok 40000
  prepare := .ok ()
  runDir := { root := "/".toList, parts := ["artifacts", "runs", "run"].map String.toList }
  storage _ := .ok ()
  terminal := .ok ()

/-- A server and a client on the loopback address. -/
def loopbackScenario : Scenario where
  id := "loopback_basic".toList
  title := "Loopback send/receive with metadata".toList
  requiredFeatures := ["socket_create".toList]
  server := some { bindAddrs := ["127.0.0.1:0".toList], readMessages := 1 }
  client := some { connectFromServerReady := true, messages := [⟨"loopback-basic".toList, 2, 42⟩] }
  assertions := { serverRecvCount := some 1 }

/-- The server's error event is never evaluated: the run waits for a `ready` event that
does not come, and ends without a report. -/
theorem runSuite_not_settled :
    ¬ Settled refusalPython refusalWorld ⟨"go-sctp".toList, "local-go-net".toList⟩
      ⟨["socket_create".toList], [loopbackScenario]⟩ none := by
  rintro ⟨run, stage, hrun, -, -⟩
  obtain ⟨runner, -, -, own, hown, -⟩ := (runSuite_gives _ _).mp hrun
  obtain ⟨started, hfinished, -⟩ := finished_of_runScenarios _ _ hown
  have hscenario : [loopbackScenario][0]? = some loopbackScenario := rfl
  obtain ⟨helpers, artifacts, -, hcompletes, -⟩ := hfinished.at_position _ _ hscenario
  cases hcompletes with
  | clientOnly _ hserver => cases hserver
  | serverClient _ _ _ _ hserverRun hready =>
      have hserver : readEvents refusalPython refusingServer.stdout =
          [(5, [("event".toList, .str "error".toList),
            ("message".toList, .str "protocol not supported".toList)])] := by rfl
      obtain rfl := Except.ok.inj hserverRun
      rw [hserver] at hready
      have hnone : List.find? (fun entry : Nat × Event => entry.2.isNamed "ready".toList)
          [(5, [("event".toList, .str "error".toList),
            ("message".toList, .str "protocol not supported".toList)])] = none := by rfl
      rw [hnone] at hready
      cases hready

end SctpConformance.Runner
