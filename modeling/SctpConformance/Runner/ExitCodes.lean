import SctpConformance.Runner.Evaluation
import SctpConformance.Runner.Execution

/-!
# Passes and exit codes

A helper that fails ends with a code other than zero.  `build` raises on such a code,
and so does every command that copies files; the evaluation of a scenario goes by the
events alone.

Main results:

- Theorem `pass_means_success_iff`: a pass means that the helpers succeeded exactly when
  they did or the events show no pass.
- Theorem `killed_client_passes`: a client that is killed after it has sent its message.
-/

namespace SctpConformance.Runner

open Library

variable (py : Python)

/-! ## Exit codes -/

/-- The process has ended with code zero. -/
def Helper.Succeeded (helper : Helper) : Prop :=
  ∃ time, helper.ending = some (time, 0)

variable (world : World)

/-- Whenever the runner gets to the evaluation of the scenario and the result is a pass,
the helpers that it has started for it have succeeded. -/
def PassMeansSuccess (runner : ProfileRunner) (profile : Profile) (index : Nat)
    (scenario : Scenario) : Prop :=
  ∀ s t artifacts result, (execute py world runner profile index scenario).Gives s artifacts t →
    evaluateScenario py profile scenario artifacts = .ok result → result.status = .pass →
      ∀ helpers : List Helper,
        t.started = s.started ++ helpers.map (fun helper => (index, helper)) →
          ∀ helper ∈ helpers, helper.Succeeded

/-- A pass means success exactly when the helpers succeed or leave events that do not
satisfy the assertions, if they complete at all. -/
theorem pass_means_success_iff (runner : ProfileRunner) (profile : Profile) (index : Nat)
    (scenario : Scenario) :
    PassMeansSuccess py world runner profile index scenario ↔
      ∀ helpers artifacts, Completes py world runner profile index scenario helpers artifacts →
        (∀ helper ∈ helpers, helper.Succeeded) ∨
          ¬Satisfied py scenario.assertions artifacts.events := by
  constructor
  · intro hpass helpers artifacts hcompletes
    by_cases hsatisfied : Satisfied py scenario.assertions artifacts.events
    · left
      rcases (evaluateScenario_pass_iff py profile scenario artifacts).mpr hsatisfied with
        ⟨result, hresult, hstatus⟩
      rcases execute_of_completes py world hcompletes ⟨0, []⟩ with ⟨t, hrun, hstarted⟩
      exact hpass _ t artifacts result hrun hresult hstatus helpers hstarted
    · exact Or.inr hsatisfied
  · intro hcompletion s t artifacts result hrun hresult hstatus helpers hstarted
    rcases completes_of_execute py world hrun with ⟨helpers', hcompletes, hstarted'⟩
    have hsame : helpers = helpers' := by
      rw [hstarted'] at hstarted
      apply List.map_injective_iff.mpr _ (List.append_cancel_left hstarted).symm
      intro helper helper' heq
      exact (Prod.mk.inj heq).2
    rw [hsame]
    rcases hcompletion helpers' artifacts hcompletes with hsucceeded | hunsatisfied
    · exact hsucceeded
    · exact absurd ((evaluateScenario_pass_iff py profile scenario artifacts).mp
        ⟨result, hresult, hstatus⟩) hunsatisfied

/-! ## A client that is killed -/

/-- The first line of a server on the loopback address. -/
def readyLine : Text :=
  "\x7b\"event\":\"ready\",\"local_addrs\":[\"127.0.0.1:40000\"]\x7d".toList

/-- A message of the scenario as the Helper prints it. -/
def recvLine : Text :=
  "\x7b\"event\":\"recv\",\"payload\":\"loopback\",\"ppid\":42,\"stream\":2\x7d".toList

/-- `json.loads` on the two lines that are printed. -/
def loopbackPython : Python where
  loads text :=
    if text = readyLine then
      .value (.dict [("event".toList, .str "ready".toList),
        ("local_addrs".toList, .list [.str "127.0.0.1:40000".toList])])
    else if text = recvLine then
      .value (.dict [("event".toList, .str "recv".toList),
        ("payload".toList, .str "loopback".toList), ("ppid".toList, .int 42),
        ("stream".toList, .int 2)])
    else .jsonDecodeError
  repr _ := "None".toList
  equal _ _ := false
  lower text := text.map Char.toLower
  encodable _ := true
  serializable _ := true
  encodable_ascii _ _ := rfl
  encodable_repr _ _ _ := rfl

/-- The server gets a message, and is done. -/
def loopbackServer : Helper where
  stdout := [(5, readyLine), (20, recvLine)]
  stderr := []
  ending := some (30, 0)
  endsOnTerminate := true
  endsOnKill := true
  stdout_lines := by decide
  stdout_ordered := by decide
  stdout_before := by decide

/-- The client has sent its message when it ends on a signal. -/
def killedClient : Helper where
  stdout := []
  stderr := []
  ending := some (15, -11)
  endsOnTerminate := true
  endsOnKill := true
  stdout_lines := by decide
  stdout_ordered := by decide
  stdout_before := by decide

/-- The server does its part, and a signal ends the client. -/
def killedWorld : World where
  helper _ role _ := .ok (if role = .server then loopbackServer else killedClient)
  freePort _ := .ok 40000
  prepare := .ok ()
  runDir := { root := "/".toList, parts := ["artifacts", "runs", "run"].map String.toList }
  storage _ := .ok ()
  terminal := .ok ()

/-- The scenario counts the messages of the server and asks for nothing else. -/
def countedScenario : Scenario where
  id := "loopback_basic".toList
  title := "Loopback send/receive with metadata".toList
  requiredFeatures := ["socket_create".toList]
  server := some { bindAddrs := ["127.0.0.1:0".toList], readMessages := 1 }
  client := some { connectFromServerReady := true, messages := [⟨"loopback".toList, 2, 42⟩] }
  assertions := { serverRecvCount := some 1 }

/-- The scenario passes although its client has been killed. -/
theorem killed_client_passes :
    ¬PassMeansSuccess loopbackPython killedWorld .localGo
      ⟨"go-sctp".toList, "local-go-net".toList⟩ 0 countedScenario := by
  intro hpass
  have hstores : killedWorld.Stores
      (killedWorld.scenarioDir "go-sctp".toList "loopback_basic".toList)
      (outputFiles "server" ++ outputFiles "client") := ⟨fun _ _ => rfl, by decide⟩
  have hcompletes : ∃ artifacts, Completes loopbackPython killedWorld .localGo
      ⟨"go-sctp".toList, "local-go-net".toList⟩ 0 countedScenario
      [loopbackServer, killedClient] artifacts ∧
        ∃ result, evaluateScenario loopbackPython ⟨"go-sctp".toList, "local-go-net".toList⟩
          countedScenario artifacts = .ok result ∧ result.status = .pass :=
    ⟨_, .serverClient rfl rfl rfl rfl rfl rfl (by decide) rfl rfl rfl rfl (by decide) (by decide)
      rfl (by decide) rfl rfl hstores, _, rfl, rfl⟩
  rcases hcompletes with ⟨artifacts, hcompletes, result, hresult, hstatus⟩
  rcases execute_of_completes loopbackPython killedWorld hcompletes ⟨0, []⟩ with
    ⟨t, hrun, hstarted⟩
  have hsucceeded := hpass _ t artifacts result hrun hresult hstatus _ hstarted killedClient
    (List.mem_cons_of_mem _ List.mem_cons_self)
  rcases hsucceeded with ⟨time, hending⟩
  cases hending

end SctpConformance.Runner
