import SctpConformance.Runner.ExitCodes
import SctpConformance.Runner.Suite

/-!
# Runs that return zero

`run_suite` returns zero when no result is a failure.  It passes over a requested name that
no scenario has, and it checks the required features only when the names are `None`,
although it runs all scenarios for an empty list, too.

Main results:

- Theorem `evaluateScenario_not_fail_iff`: the events on which a scenario does not fail.
- Theorem `withCoverage_not_fail_iff`: when no result of a run is a failure.
- Theorem `zeroExit_justified_iff`: a zero says what it should exactly if the requested
  scenarios exist, and no feature is missing where an empty list of names is given.
- Theorem `misspelt_name_skipped`: a zero without any result.
-/

namespace SctpConformance.Runner

open Library

variable (py : Python)

/-! ## Scenarios that do not fail -/

/-- The first error event says that something is not supported. -/
def ReportsUnsupported (events : List Event) : Prop :=
  ∃ event, firstEvent events "error".toList = some event ∧
    ∃ marker ∈ unsupportedMarkers, marker <:+: py.lower (py.str
      ((event.get "message".toList).getD (.str "helper reported an error".toList)))

/-- An error counts as unsupported by what its message says. -/
theorem errorStatus_unsupported_iff {message : Text} :
    errorStatus py message = .unsupported ↔
      ∃ marker ∈ unsupportedMarkers, marker <:+: py.lower message := by
  unfold errorStatus
  simp only [List.any_eq_true, decide_eq_true_eq]
  split
  · rename_i hmarker
    exact iff_of_true rfl hmarker
  · rename_i hmarker
    exact iff_of_false (by decide) hmarker

/-- The verdict is `unsupported` exactly on such an event. -/
theorem verdict_unsupported_iff {assertions : Assertions} {events : List Event} :
    (∃ message, verdict py assertions events = .ok (.unsupported, message)) ↔
      ReportsUnsupported py events := by
  unfold ReportsUnsupported verdict
  cases firstEvent events "error".toList with
  | some event =>
      simp only [Option.some.injEq, exists_eq_left', ← errorStatus_unsupported_iff]
      simp
  | none =>
      constructor
      · rintro ⟨message, hverdict⟩
        cases hstages : expectedStages assertions.expectedFailure with
        | some stages =>
            simp only [hstages] at hverdict
            split at hverdict
            · cases hverdict
            · cases hverdict
        | none =>
            simp only [hstages] at hverdict
            split at hverdict
            · cases hverdict
            · cases hverdict
            · cases hverdict
      · rintro ⟨event, hevent, -⟩
        contradiction

/-- The events satisfy the assertions of the scenario, or report that something is not
supported. -/
def Tolerated (assertions : Assertions) (events : List Event) : Prop :=
  Satisfied py assertions events ∨ ReportsUnsupported py events

/-- A scenario is evaluated, and does not fail, exactly on such events. -/
theorem evaluateScenario_not_fail_iff (profile : Profile) (scenario : Scenario)
    (artifacts : ScenarioArtifacts) :
    (∃ result, evaluateScenario py profile scenario artifacts = .ok result ∧
      result.status ≠ .fail) ↔ Tolerated py scenario.assertions artifacts.events := by
  rw [Tolerated, ← verdict_pass_iff, ← verdict_unsupported_iff]
  unfold evaluateScenario
  rcases verdict py scenario.assertions artifacts.events with exception | ⟨status, message⟩
  · constructor
    · rintro ⟨result, hresult, -⟩
      cases hresult
    · rintro (⟨message, hverdict⟩ | ⟨message, hverdict⟩)
      · cases hverdict
      · cases hverdict
  · constructor
    · rintro ⟨result, hresult, hstatus⟩
      cases hresult
      cases status with
      | pass => exact Or.inl ⟨message, rfl⟩
      | fail => contradiction
      | unsupported => exact Or.inr ⟨message, rfl⟩
    · rintro (⟨message', hverdict⟩ | ⟨message', hverdict⟩)
      · cases hverdict
        exact ⟨_, rfl, Status.noConfusion⟩
      · cases hverdict
        exact ⟨_, rfl, Status.noConfusion⟩

/-! ## Results that are no failures -/

/-- No result is a failure exactly if no scenario failed and, when no names are given, the
required features are listed by results. -/
theorem withCoverage_not_fail_iff {profile : Profile} {scenarioSet : ScenarioSet}
    {scenarioNames : Option (List Text)} {own : List ScenarioResult} :
    (∀ result ∈ withCoverage profile scenarioSet scenarioNames own, result.status ≠ .fail) ↔
      (∀ result ∈ own, result.status ≠ .fail) ∧
        (scenarioNames = none → ∀ feature ∈ scenarioSet.requiredFeatures, ∃ result ∈ own,
          result.scenarioId ≠ "coverage".toList ∧ feature ∈ result.requiredFeatures) := by
  have hlisted : (∀ feature ∈ scenarioSet.requiredFeatures, ∃ result ∈ own,
      result.scenarioId ≠ "coverage".toList ∧ feature ∈ result.requiredFeatures) ↔
        missingRequiredFeatures own scenarioSet.requiredFeatures = [] := by
    rw [List.eq_nil_iff_forall_not_mem]
    refine forall_congr' fun feature => ?_
    rw [mem_missingRequiredFeatures]
    push Not
    rfl
  rw [hlisted]
  unfold withCoverage
  cases scenarioNames with
  | some names => simp
  | none =>
      cases missingRequiredFeatures own scenarioSet.requiredFeatures with
      | nil => simp
      | cons feature missing =>
          refine iff_of_false ?_ ?_
          · intro hall
            exact hall _ (List.mem_append_right own List.mem_cons_self) rfl
          · rintro ⟨-, hmissing⟩
            cases hmissing rfl

/-! ## The loop -/

variable (world : World)

/-- Every scenario completes, and none of them fails or has a result that the reports cannot
show. -/
def NoneFails (runner : ProfileRunner) (profile : Profile) (index : Nat)
    (scenarios : List Scenario) : Prop :=
  ∀ (offset : Nat) scenario, scenarios[offset]? = some scenario → ∃ helpers artifacts,
    Completes py world runner profile (index + offset) scenario helpers artifacts ∧
    Tolerated py scenario.assertions artifacts.events ∧
    Reportable py scenario.assertions artifacts.events

section

variable {runner : ProfileRunner} {profile : Profile} {index : Nat} {scenarios : List Scenario}
variable {results : List ScenarioResult} {started : List (Nat × Helper)}

/-- No result of a finished loop is a failure, and all can be shown, exactly if none of the
scenarios fails. -/
theorem Finished.not_fail_iff
    (h : Finished py world runner profile index scenarios results started) :
    (∀ result ∈ results, result.status ≠ .fail ∧
        (∀ event ∈ result.events, py.serializable (.dict event) = true) ∧
          Encodable py result.message) ↔ NoneFails py world runner profile index scenarios := by
  constructor
  · intro hnone offset scenario hscenario
    rcases h.at_position py world hscenario with
      ⟨helpers, artifacts, result, hcompletes, hresult, hget, -⟩
    rcases hnone result (List.mem_of_getElem? hget) with ⟨hstatus, hshown⟩
    exact ⟨helpers, artifacts, hcompletes,
      (evaluateScenario_not_fail_iff py profile _ _).mp ⟨result, hresult, hstatus⟩,
      (reportable_iff py hresult).mpr hshown⟩
  · intro hnone result hmem
    rcases List.mem_iff_getElem?.mp hmem with ⟨offset, hget⟩
    rcases h.exists_scenario py world hget with ⟨scenario, hscenario⟩
    rcases h.at_position py world hscenario with
      ⟨helpers, artifacts, result', hcompletes, hresult, hget', -⟩
    rcases hnone offset scenario hscenario with
      ⟨helpers', artifacts', hcompletes', htolerated, hreportable⟩
    rcases hcompletes.unique py world hcompletes' with ⟨-, rfl⟩
    rcases (evaluateScenario_not_fail_iff py profile _ _).mpr htolerated with
      ⟨result'', hresult'', hstatus⟩
    rw [hget] at hget'
    cases hget'
    rw [hresult] at hresult''
    cases hresult''
    exact ⟨hstatus, (reportable_iff py hresult).mp hreportable⟩

/-- A scenario that completes has started a helper. -/
theorem Completes.helpers_ne_nil {scenario : Scenario} {helpers : List Helper}
    {artifacts : ScenarioArtifacts}
    (h : Completes py world runner profile index scenario helpers artifacts) :
    ∃ helper, helper ∈ helpers := by
  cases h with
  | clientOnly => exact ⟨_, List.mem_cons_self⟩
  | serverClient => exact ⟨_, List.mem_cons_self⟩

/-- Every scenario of a finished loop has a result and has started a helper. -/
theorem Finished.exists_result
    (h : Finished py world runner profile index scenarios results started) {offset : Nat}
    {scenario : Scenario} (hscenario : scenarios[offset]? = some scenario) :
    (∃ result ∈ results, result.scenarioId = scenario.id) ∧
      ∃ helper, (index + offset, helper) ∈ started := by
  rcases h.at_position py world hscenario with
    ⟨helpers, artifacts, result, hcompletes, hresult, hget, hstarted⟩
  rcases hcompletes.helpers_ne_nil py world with ⟨helper, hhelper⟩
  exact ⟨⟨result, List.mem_of_getElem? hget, (evaluateScenario_fields py hresult).2.1⟩,
    helper, (hstarted helper).mpr hhelper⟩

/-- A feature that a result lists is listed by a scenario. -/
theorem Finished.exists_listing
    (h : Finished py world runner profile index scenarios results started)
    {result : ScenarioResult} (hmem : result ∈ results) {feature : Text}
    (hfeature : feature ∈ result.requiredFeatures) :
    ∃ scenario ∈ scenarios, feature ∈ scenario.requiredFeatures := by
  rcases List.mem_iff_getElem?.mp hmem with ⟨offset, hget⟩
  rcases h.exists_scenario py world hget with ⟨scenario, hscenario⟩
  rcases h.at_position py world hscenario with ⟨_, artifacts, result', _, hresult, hget', -⟩
  rw [hget] at hget'
  cases hget'
  rw [(evaluateScenario_fields py hresult).2.2.1] at hfeature
  exact ⟨scenario, List.mem_of_getElem? hscenario, hfeature⟩

end

/-! ## What a zero says -/

/-- Every requested name has a result, no result is a failure, and where no names are
given every required feature is listed by a scenario that has been run. -/
structure Justified (scenarioSet : ScenarioSet) (scenarioNames : Option (List Text))
    (run : SuiteRun) (stage : Stage) : Prop where
  requested : ∀ name ∈ scenarioNames.getD [],
    ∃ result ∈ run.reports.results.results, result.scenarioId = name
  noFailure : ∀ result ∈ run.reports.results.results, result.status ≠ .fail
  covered : scenarioNames.getD [] = [] → ∀ feature ∈ scenarioSet.requiredFeatures,
    ∃ (index : Nat) (scenario : Scenario) (helper : Helper),
      (selectScenarios scenarioSet scenarioNames)[index]? = some scenario ∧
      (index, helper) ∈ stage.started ∧ feature ∈ scenario.requiredFeatures

/-- Whenever the run returns zero, this is justified. -/
def ZeroExitJustified (profile : Profile) (scenarioSet : ScenarioSet)
    (scenarioNames : Option (List Text)) : Prop :=
  ∀ run stage,
    (runSuite py world profile scenarioSet scenarioNames).Gives { now := 0, started := [] }
      run stage → run.exitCode = 0 → Justified scenarioSet scenarioNames run stage

/-- The requested names are names of scenarios, and an empty list of names, which leaves
the features unchecked, comes with scenarios that list them all. -/
structure Served (scenarioSet : ScenarioSet) (scenarioNames : Option (List Text)) : Prop where
  named : ∀ name ∈ scenarioNames.getD [], ∃ scenario ∈ scenarioSet.scenarios, scenario.id = name
  listed : scenarioNames = some [] → ∀ feature ∈ scenarioSet.requiredFeatures,
    ∃ scenario ∈ scenarioSet.scenarios, feature ∈ scenario.requiredFeatures

variable {profile : Profile} {scenarioSet : ScenarioSet} {scenarioNames : Option (List Text)}

/-- Without names all scenarios are selected, and otherwise those with a requested name. -/
theorem mem_selectScenarios {scenario : Scenario} :
    scenario ∈ selectScenarios scenarioSet scenarioNames ↔
      scenario ∈ scenarioSet.scenarios ∧
        (scenarioNames.getD [] = [] ∨ scenario.id ∈ scenarioNames.getD []) := by
  unfold selectScenarios
  split
  · rw [List.mem_filter]
    simp
  · rename_i hnames
    rcases scenarioNames with _ | _ | ⟨name, names⟩
    · simp
    · simp
    · exact absurd rfl (hnames name names)

/-- The exit code is zero exactly if no result is a failure. -/
theorem exitCode_eq_zero_iff {results : List ScenarioResult} :
    (if results.any (·.status = .fail) then 1 else 0) = 0 ↔
      ∀ result ∈ results, result.status ≠ .fail := by
  simp

/-- A finished loop without failures justifies a zero if the request can be served and,
when no names are given, its results list the required features. -/
theorem Finished.justified {runner : ProfileRunner} {own : List ScenarioResult}
    {started : List (Nat × Helper)}
    (h : Finished py world runner profile 0 (selectScenarios scenarioSet scenarioNames) own started)
    (hzero : ∀ result ∈ withCoverage profile scenarioSet scenarioNames own, result.status ≠ .fail)
    (hserved : Served scenarioSet scenarioNames) {run : SuiteRun} {stage : Stage}
    (hrun : run.reports.results.results = withCoverage profile scenarioSet scenarioNames own)
    (hstage : stage.started = started) : Justified scenarioSet scenarioNames run stage where
  requested := by
    intro name hname
    rcases hserved.named name hname with ⟨scenario, hmem, rfl⟩
    have hselected := mem_selectScenarios.mpr ⟨hmem, Or.inr hname⟩
    rcases List.mem_iff_getElem?.mp hselected with ⟨offset, hscenario⟩
    rcases (h.exists_result py world hscenario).1 with ⟨result, hresult, hid⟩
    rcases withCoverage_eq profile scenarioSet scenarioNames own with ⟨added, hadded, -⟩
    rw [hrun, hadded]
    exact ⟨result, List.mem_append_left added hresult, hid⟩
  noFailure := by
    rw [hrun]
    exact hzero
  covered := by
    intro hnames feature hfeature
    have hlisted : ∃ scenario ∈ selectScenarios scenarioSet scenarioNames,
        feature ∈ scenario.requiredFeatures := by
      rcases scenarioNames with _ | names
      · rcases (withCoverage_not_fail_iff.mp hzero).2 rfl feature hfeature with
          ⟨result, hresult, -, hlists⟩
        exact h.exists_listing py world hresult hlists
      · have hempty : some names = some [] := congrArg some hnames
        rcases hserved.listed hempty feature hfeature with ⟨scenario, hmem, hlists⟩
        exact ⟨scenario, mem_selectScenarios.mpr ⟨hmem, Or.inl hnames⟩, hlists⟩
    rcases hlisted with ⟨scenario, hselected, hlists⟩
    rcases List.mem_iff_getElem?.mp hselected with ⟨offset, hscenario⟩
    rcases (h.exists_result py world hscenario).2 with ⟨helper, hhelper⟩
    rw [Nat.zero_add, ← hstage] at hhelper
    exact ⟨offset, scenario, helper, hscenario, hhelper, hlists⟩

/-- A zero that is justified shows that the request can be served. -/
theorem Finished.served {runner : ProfileRunner} {names : List Text} {own : List ScenarioResult}
    {started : List (Nat × Helper)}
    (h : Finished py world runner profile 0 (selectScenarios scenarioSet (some names)) own started)
    {run : SuiteRun} {stage : Stage}
    (hrun : run.reports.results.results = withCoverage profile scenarioSet (some names) own)
    (hjustified : Justified scenarioSet (some names) run stage) :
    Served scenarioSet (some names) where
  named := by
    intro name hname
    rcases hjustified.requested name hname with ⟨result, hresult, hid⟩
    have hown : withCoverage profile scenarioSet (some names) own = own := rfl
    rw [hrun, hown] at hresult
    have hids := List.mem_map_of_mem (f := fun result => result.scenarioId) hresult
    rw [h.ids py world, hid] at hids
    rcases List.mem_map.mp hids with ⟨scenario, hselected, hname⟩
    exact ⟨scenario, (mem_selectScenarios.mp hselected).1, hname⟩
  listed := by
    intro hempty feature hfeature
    rcases hjustified.covered (Option.some.inj hempty) feature hfeature with
      ⟨index, scenario, helper, hscenario, -, hlists⟩
    exact ⟨scenario, (mem_selectScenarios.mp (List.mem_of_getElem? hscenario)).1, hlists⟩

/-- A zero is justified exactly if the request can be served, or the run does not get to a
zero: it cannot be prepared or cannot report what it finds, or a selected scenario does not
complete, fails, or has a result that the reports cannot show. -/
theorem zeroExit_justified_iff (profile : Profile) (scenarioSet : ScenarioSet)
    (scenarioNames : Option (List Text)) :
    ZeroExitJustified py world profile scenarioSet scenarioNames ↔
      ∀ runner, CanReport py world runner profile scenarioSet scenarioNames →
        NoneFails py world runner profile 0 (selectScenarios scenarioSet scenarioNames) →
          Served scenarioSet scenarioNames := by
  constructor
  · intro hjustified runner hreport hnone
    rcases scenarioNames with _ | names
    · exact ⟨by simp, by simp⟩
    · have hcompletes : ∀ (offset : Nat) scenario,
          (selectScenarios scenarioSet (some names))[offset]? = some scenario →
            ∃ helpers artifacts result,
              Completes py world runner profile (0 + offset) scenario helpers artifacts ∧
              evaluateScenario py profile scenario artifacts = .ok result := by
        intro offset scenario hscenario
        rcases hnone offset scenario hscenario with ⟨helpers, artifacts, hcompletes, htolerated, -⟩
        rcases (evaluateScenario_not_fail_iff py profile _ _).mpr htolerated with
          ⟨result, hresult, -⟩
        exact ⟨helpers, artifacts, result, hcompletes, hresult⟩
      rcases finished_of_completes py world hcompletes with ⟨own, started, hfinished⟩
      rcases runScenarios_of_finished py world hfinished { now := 0, started := [] } with
        ⟨stage, hown, -⟩
      have hresults := (hfinished.not_fail_iff py world).mpr hnone
      have hzero : ∀ result ∈ withCoverage profile scenarioSet (some names) own,
          result.status ≠ .fail :=
        withCoverage_not_fail_iff.mpr
          ⟨fun result hmem => (hresults result hmem).1, fun hnames => by cases hnames⟩
      have hshown := (hfinished.shown_iff py world).mpr
        ⟨hreport.shown, fun result hmem => (hresults result hmem).2⟩
      have hrun := (runSuite_gives py world).mpr ⟨runner, hreport.created, hreport.prepared, own,
        hown, hreport.stores, hshown,
        fun hne => hreport.terminal ((hfinished.hasResults_iff py world).mp hne), rfl⟩
      exact hfinished.served py world rfl
        (hjustified _ stage hrun (exitCode_eq_zero_iff.mpr hzero))
  · intro hserved run stage hrun hzero
    rcases (runSuite_gives py world).mp hrun with
      ⟨runner, hrunner, hprepare, own, hown, hstores, hshown, hterminal, rfl⟩
    rcases finished_of_runScenarios py world hown with ⟨started, hfinished, hstarted⟩
    have hnoFail := exitCode_eq_zero_iff.mp hzero
    rcases (hfinished.shown_iff py world).mp hshown with ⟨hconfiguration, hresults⟩
    have hreport : CanReport py world runner profile scenarioSet scenarioNames :=
      ⟨hrunner, hprepare, hstores, hconfiguration,
        fun hhas => hterminal ((hfinished.hasResults_iff py world).mpr hhas)⟩
    have hnone := (hfinished.not_fail_iff py world).mp fun result hmem =>
      ⟨(withCoverage_not_fail_iff.mp hnoFail).1 result hmem, hresults result hmem⟩
    exact hfinished.justified py world hnoFail (hserved runner hreport hnone) rfl hstarted

/-- A scenario is requested whose name is misspelt.  Nothing is run, and the exit code is
zero. -/
theorem misspelt_name_skipped :
    ¬ZeroExitJustified refusalPython refusalWorld ⟨"go-sctp".toList, "local-go-net".toList⟩
      ⟨["socket_create".toList], [loopbackScenario]⟩ (some ["loopback_basics".toList]) := by
  intro hjustified
  have hnothing : selectScenarios ⟨["socket_create".toList], [loopbackScenario]⟩
      (some ["loopback_basics".toList]) = [] := by decide
  have hown : (runScenarios refusalPython refusalWorld .localGo
      ⟨"go-sctp".toList, "local-go-net".toList⟩ 0
      (selectScenarios ⟨["socket_create".toList], [loopbackScenario]⟩
        (some ["loopback_basics".toList]))).Gives ⟨0, []⟩ [] ⟨0, []⟩ := by
    rw [hnothing]
    exact Raising.gives_pure.mpr ⟨rfl, rfl⟩
  have hshown : ResultsShown refusalPython [] ["socket_create".toList] :=
    ⟨List.forall_mem_nil _, List.forall_mem_nil _, List.forall_mem_nil _, List.forall_mem_nil _,
      fun hnone => by simp at hnone⟩
  have hrun := (runSuite_gives refusalPython refusalWorld).mpr
    ⟨.localGo, rfl, rfl, [], hown, ⟨rfl, rfl, rfl, rfl, rfl⟩, hshown, fun hne => absurd rfl hne, rfl⟩
  rcases (hjustified _ _ hrun rfl).requested _ List.mem_cons_self with ⟨result, hresult, -⟩
  cases hresult

end SctpConformance.Runner
