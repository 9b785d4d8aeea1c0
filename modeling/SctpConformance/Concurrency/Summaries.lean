import Mathlib.Data.List.FinRange
import Mathlib.Data.List.Induction
import SctpConformance.Concurrency.Activation
import SctpConformance.Json.Views

/-!
# Summaries among other threads

The loop of `SummaryJson` reads one execution after the other, each under its own lock,
while other threads go on.  What it counts and what it prints is one and the same
reading; which features it has read and which are left never changes in sum.

Main results:

- Definition `SummaryLoop`: the variables of the loop, turn by turn.
- Theorem `summaryJson_eq_loop`: the text of the model is what the loop prints.
- Theorem `summary_tallied`: a summary under way has read the catalog up to where it
  goes on.
- Theorem `summary_consistent`: in every run, every summary agrees with itself.
-/

namespace SctpConformance

open Library

variable {c : Catalog} {host : Host}

/-! ## The loop -/

/-- The counters of the loop, the text it has printed so far, and whether that is still
empty. -/
structure SummaryLoop where
  passed : Nat := 0
  failed : Nat := 0
  unsupported : Nat := 0
  timedOut : Nat := 0
  pending : Nat := 0
  active : Nat := 0
  features : CppString := str "["
  first : Bool := true

namespace SummaryLoop

/-- The `switch` of the loop. -/
def tally (loop : SummaryLoop) : FeatureState → SummaryLoop
  | .passed => { loop with passed := loop.passed + 1 }
  | .failed => { loop with failed := loop.failed + 1 }
  | .unsupported => { loop with unsupported := loop.unsupported + 1 }
  | .timedOut => { loop with timedOut := loop.timedOut + 1 }
  | .pending => { loop with pending := loop.pending + 1 }
  | .active => { loop with active := loop.active + 1 }

/-- One turn, with the execution that is read in it. -/
def turn (loop : SummaryLoop) (entry : Entry c) : SummaryLoop :=
  let loop := loop.tally entry.2.state
  { loop with
    features := loop.features ++ (if loop.first then [] else str ",") ++ entryJson entry
    first := false }

/-- The text that is returned after the loop. -/
def payload (loop : SummaryLoop) (sessionId : CppString) : CppString :=
  str "\x7b\"session_id\":" ++ jsonQuote sessionId ++
    str ",\"passed\":" ++ decimal loop.passed ++
    str ",\"failed\":" ++ decimal loop.failed ++
    str ",\"unsupported\":" ++ decimal loop.unsupported ++
    str ",\"timed_out\":" ++ decimal loop.timedOut ++
    str ",\"pending\":" ++ decimal loop.pending ++
    str ",\"active\":" ++ decimal loop.active ++
    str ",\"pending_or_active\":" ++ decimal (loop.pending + loop.active) ++
    str ",\"complete\":" ++ str (if loop.pending = 0 ∧ loop.active = 0 then "true" else "false") ++
    str ",\"features\":" ++ (loop.features ++ str "]") ++ str "\x7d"

end SummaryLoop

/-- The loop after it has read the given executions. -/
def summaryLoop (entries : List (Entry c)) : SummaryLoop :=
  entries.foldl SummaryLoop.turn {}

/-- One more value at the end of a list. -/
theorem commaSeparated_append (values : List CppString) (value : CppString) :
    commaSeparated (values ++ [value]) =
      commaSeparated values ++ (if values = [] then [] else [44]) ++ value := by
  induction values with
  | nil => rfl
  | cons first values ih =>
      cases values with
      | nil => rfl
      | cons second values =>
          rw [List.cons_append, List.cons_append, commaSeparated]
          · rw [← List.cons_append, ih]
            simp [commaSeparated]
          · simp

/-- What the loop has counted and printed describes the executions it has read. -/
theorem summaryLoop_eq (entries : List (Entry c)) :
    summaryLoop entries = {
      passed := countState entries .passed
      failed := countState entries .failed
      unsupported := countState entries .unsupported
      timedOut := countState entries .timedOut
      pending := countState entries .pending
      active := countState entries .active
      features := [91] ++ commaSeparated (entries.map entryJson)
      first := entries = [] } := by
  induction entries using List.reverseRecOn with
  | nil => rfl
  | append_singleton entries entry ih =>
      rw [summaryLoop, List.foldl_append]
      change (summaryLoop entries).turn entry = _
      rw [ih]
      have hcomma : str "," = [44] := by decide
      cases hstate : entry.2.state <;>
        simp [SummaryLoop.turn, SummaryLoop.tally, countState, hstate, commaSeparated_append,
          hcomma]

/-- The text of the model is what the loop prints. -/
theorem summaryJson_eq_loop (sessionId : CppString) (entries : List (Entry c)) :
    summaryJson sessionId entries = (summaryLoop entries).payload sessionId := by
  have hopen : str ",\"features\":[" = str ",\"features\":" ++ [91] := by decide
  have hclose : str "]\x7d" = str "]" ++ str "\x7d" := by decide
  rw [summaryLoop_eq]
  unfold summaryJson SummaryLoop.payload jsonBool
  dsimp only
  rw [hopen, hclose]
  by_cases hdone : countState entries .pending = 0 ∧ countState entries .active = 0
  · simp [hdone]
  · simp [hdone]

/-! ## What a summary says about itself -/

/-- The count that a summary gives for a state. -/
def SummaryView.count (view : SummaryView) : FeatureState → Nat
  | .passed => view.passed
  | .failed => view.failed
  | .unsupported => view.unsupported
  | .timedOut => view.timedOut
  | .pending => view.pending
  | .active => view.active

/-- A summary agrees with its own feature entries, which are those of the catalog. -/
structure SummaryView.Consistent (c : Catalog) (view : SummaryView) : Prop where
  counts : ∀ state, view.count state =
    view.features.countP fun feature => feature.state = state
  total : view.passed + view.failed + view.unsupported + view.timedOut + view.pending +
    view.active = c.features.length
  listed : view.features.map ShownFeature.id = c.features.map FeatureDefinition.id
  pendingOrActive : view.pendingOrActive = view.pending + view.active
  complete : view.complete = true ↔
    ∀ feature ∈ view.features, feature.state ≠ .pending ∧ feature.state ≠ .active

/-- A summary counts what it shows. -/
theorem countState_eq (entries : List (Entry c)) (state : FeatureState) :
    countState entries state =
      (entries.map shown).countP fun feature => feature.state = state := by
  rw [countState, List.countP_map]
  rfl

/-- Every entry is in one of the six states. -/
theorem countState_total (entries : List (Entry c)) :
    countState entries .passed + countState entries .failed + countState entries .unsupported +
      countState entries .timedOut + countState entries .pending + countState entries .active =
        entries.length := by
  induction entries with
  | nil => rfl
  | cons entry entries ih =>
      simp only [countState, List.countP_cons, List.length_cons] at ih ⊢
      cases entry.2.state <;> simp <;> omega

/-- Nothing is counted where no feature is in that state. -/
theorem countState_eq_zero_iff (entries : List (Entry c)) (state : FeatureState) :
    countState entries state = 0 ↔ ∀ feature ∈ entries.map shown, feature.state ≠ state := by
  rw [countState_eq, List.countP_eq_zero]
  simp

/-- A summary of the whole catalog, in its order, agrees with itself. -/
theorem summaryJson_consistent (sessionId : CppString) {entries : List (Entry c)}
    (hentries : entries.map Prod.fst = List.finRange c.features.length) :
    ∃ view, SummaryView.read (summaryJson sessionId entries) = some view ∧
      view.features = entries.map shown ∧ view.Consistent c := by
  refine ⟨_, summaryJson_read sessionId entries, rfl, ?_⟩
  refine ⟨fun state => ?_, ?_, ?_, rfl, ?_⟩
  · cases state <;> exact countState_eq entries _
  · rw [countState_total, ← List.length_map (f := Prod.fst), hentries, List.length_finRange]
  · have hids : (entries.map shown).map ShownFeature.id = (entries.map Prod.fst).map c.id := by
      simp [shown]
    rw [hids, hentries]
    have hget : (List.finRange c.features.length).map c.features.get = c.features := by
      rw [← List.ofFn_eq_map, List.ofFn_get]
    calc
      (List.finRange c.features.length).map c.id =
          ((List.finRange c.features.length).map c.features.get).map FeatureDefinition.id := by
        rw [List.map_map]
        rfl
      _ = c.features.map FeatureDefinition.id := by rw [hget]
  · simp only [decide_eq_true_eq, countState_eq_zero_iff]
    constructor
    · rintro ⟨hpending, hactive⟩ feature hmem
      exact ⟨hpending feature hmem, hactive feature hmem⟩
    · intro hall
      exact ⟨fun feature hmem => (hall feature hmem).1, fun feature hmem => (hall feature hmem).2⟩

/-! ## Under way -/

/-- The features that a section of a summary has read, and those that are left to it. -/
def Section.tallied : Section c → Option (List c.Ref)
  | .summary _ _ _ left entries => some (entries.map Prod.fst ++ left)
  | .summaryEntry _ _ _ r left entries => some (entries.map Prod.fst ++ r :: left)
  | _ => none

/-- A summary covers the whole catalog. -/
def Section.CoversCatalog (s : Section c) : Prop :=
  ∀ refs ∈ s.tallied, refs = List.finRange c.features.length

/-- A worker makes no summary. -/
@[simp]
theorem tallied_toSection (next : WorkerStep) (x : Target c) :
    (next.toSection x).tallied = none := by
  cases next <;> rfl

/-- A summary under way is a summary of the whole catalog. -/
theorem exec_next_coversCatalog {s t : Section c} (hs : s.CoversCatalog) {σ : Shared c}
    {input : Input} (ht : t ∈ (exec host σ s input).next) : t.CoversCatalog := by
  have hnone : ∀ u : Section c, u.tallied = none → u.CoversCatalog := by
    intro u hu refs hrefs
    rw [hu] at hrefs
    contradiction
  cases s with
  | summary session client stream left entries =>
      cases left with
      | nil =>
          simp only [exec] at ht
          split at ht <;> cases List.mem_singleton.mp ht <;> exact hnone _ rfl
      | cons r left =>
          simp only [exec, List.mem_cons, List.not_mem_nil, or_false] at ht
          rcases ht with rfl | rfl
          · exact hnone _ rfl
          · exact hs
  | summaryEntry session client stream r left entries =>
      simp only [exec, List.mem_singleton] at ht
      subst ht
      intro refs hrefs
      cases hrefs
      simpa using hs _ rfl
  | writeEvent session client event =>
      simp only [exec] at ht
      split at ht
      · cases List.mem_singleton.mp ht
        intro refs hrefs
        cases hrefs
        rfl
      · cases List.mem_singleton.mp ht
        exact hnone _ rfl
  | takeActiveFds x =>
      simp only [exec, List.mem_map] at ht
      rcases ht with ⟨fd, -, rfl⟩
      exact hnone _ rfl
  | openSocket h sockets =>
      refine hnone _ ?_
      revert ht
      simp only [exec]
      (repeat' split)
      · simp only [rollback, List.mem_append, List.mem_map, List.mem_singleton]
        rintro (⟨fd, -, rfl⟩ | rfl) <;> rfl
      · simp only [rollback, List.mem_append, List.mem_map, List.mem_singleton]
        rintro (⟨fd, -, rfl⟩ | rfl) <;> rfl
      · rintro ht
        cases List.mem_singleton.mp ht
        rfl
  | setupSocket h sockets fd =>
      refine hnone _ ?_
      revert ht
      simp only [exec]
      (repeat' split)
      · simp only [rollback, List.mem_append, List.mem_map, List.mem_singleton]
        rintro (⟨fd, -, rfl⟩ | rfl) <;> rfl
      · rintro ht
        cases List.mem_singleton.mp ht
        rfl
      · rintro ht
        cases List.mem_singleton.mp ht
        rfl
  | receive x state =>
      simp only [exec] at ht
      split at ht <;> cases List.mem_singleton.mp ht
      · exact hnone _ (tallied_toSection _ _)
      · exact hnone _ rfl
  | receiving x state =>
      cases List.mem_singleton.mp ht
      exact hnone _ (tallied_toSection _ _)
  | send x state =>
      simp only [exec] at ht
      split at ht <;> cases List.mem_singleton.mp ht <;> exact hnone _ (tallied_toSection _ _)
  | _ =>
      suffices hothers : ∀ u ∈ (exec host σ _ input).next, u.tallied = none from
        hnone _ (hothers t ht)
      simp only [exec]
      (repeat' split) <;> simp [finish, Section.tallied]

/-- A request begins its summary with the whole catalog. -/
theorem handlerProgram_coversCatalog (client : Nat) (request : Request c) {s : Section c}
    (hs : s ∈ handlerProgram client request) : s.CoversCatalog := by
  intro refs hrefs
  cases request with
  | feature x request =>
      cases request <;> simp [handlerProgram] at hs <;>
        rcases hs with rfl | rfl | rfl <;> simp [Section.tallied] at hrefs
  | session session =>
      cases List.mem_singleton.mp hs
      contradiction
  | other response =>
      cases List.mem_singleton.mp hs
      contradiction
  | summary session =>
      cases List.mem_singleton.mp hs
      cases hrefs
      rfl
  | summaryStream session =>
      cases List.mem_singleton.mp hs
      cases hrefs
      rfl

/-- In every reachable state a summary has read the catalog up to where it goes on. -/
theorem summary_tallied {start last : ServerState c} {run : List (ServerTransition c)}
    (hstart : Initial start) (hrun : ServerRun host start run last) :
    last.All (fun _ => True) Section.CoversCatalog := by
  refine Run.invariant (C := fun _ => True) (I := fun p => p.All (fun _ => True)
    Section.CoversCatalog) ?_ hrun (fun _ _ => trivial) ⟨trivial, ?_⟩
  · intro τ hstep _ hp
    refine System.step_all hstep hp (fun request _ => ⟨trivial, fun s hs => ?_⟩) ?_
    · exact handlerProgram_coversCatalog _ request hs
    · intro i input head rest _ _ hhead
      refine ⟨trivial, fun t ht => exec_next_coversCatalog hhead ht, fun program hprogram t ht => ?_⟩
      rcases exec_launch hprogram with ⟨handler, sockets, worker, -, -, rfl⟩
      rw [List.mem_singleton.mp ht]
      intro refs hrefs
      simp at hrefs
  · intro i s hs
    rw [hstart.quiet i] at hs
    contradiction

/-- The last section of a summary hands over its text. -/
theorem step_summary_nil {τ : ServerTransition c}
    (hstep : (server host).step τ.source τ.action = some τ.target) {i : Nat} {input : Input}
    (haction : τ.action = .run i input) {session client : Nat} {stream : Bool}
    {entries : List (Entry c)} {rest : List (Section c)}
    (hthread : τ.source.threads i = .summary session client stream [] entries :: rest) :
    τ.target.threads i =
      (if stream then
        .writeEvent session client (summaryJson (τ.source.shared.sessions session).id entries)
      else
        .respond client
          { body := summaryJson (τ.source.shared.sessions session).id entries }) :: rest := by
  rcases server_step_cases hstep with ⟨request, ha, -⟩ |
    ⟨i', input', s, rest', hi, ha, hhead, htarget⟩
  · rw [haction] at ha
    cases ha
  · rw [haction] at ha
    cases ha
    rw [hthread] at hhead
    cases hhead
    rw [htarget, Pool.threads_advance_self]
    cases stream <;> rfl

/-- In every run, whatever happens between its turns, a summary agrees with itself: the
payload is that of the loop over the executions it has read, and its counts are those of
its own feature entries, which are the features of the catalog in their order. -/
theorem summary_consistent (host : Host) {start last : ServerState c}
    {run : List (ServerTransition c)} (hstart : Initial start)
    (hrun : ServerRun host start run last) {τ : ServerTransition c} (hτ : τ ∈ run) {i : Nat}
    {input : Input} (haction : τ.action = .run i input) {session client : Nat} {stream : Bool}
    {entries : List (Entry c)} {rest : List (Section c)}
    (hthread : τ.source.threads i = .summary session client stream [] entries :: rest) :
    ∃ body view,
      body = (summaryLoop entries).payload (τ.source.shared.sessions session).id ∧
      τ.target.threads i =
        (if stream then .writeEvent session client body
          else .respond client { body := body }) :: rest ∧
      SummaryView.read body = some view ∧ view.features = entries.map shown ∧
      view.Consistent c := by
  rcases hrun.before hτ with ⟨front, back, -, hfront⟩
  have hcovers := (summary_tallied hstart hfront).threads i
    (.summary session client stream [] entries) (by simp [hthread])
  have hentries : entries.map Prod.fst = List.finRange c.features.length := by
    simpa using hcovers _ rfl
  rcases summaryJson_consistent (τ.source.shared.sessions session).id hentries with
    ⟨view, hread, hfeatures, hconsistent⟩
  refine ⟨summaryJson _ entries, view, summaryJson_eq_loop _ entries, ?_, hread, hfeatures,
    hconsistent⟩
  exact step_summary_nil (hrun.enabled hτ) haction hthread

/-- The states in the entries of a summary that only has to be written. -/
def summaryStates (p : ServerState sampleCatalog) : Option (List FeatureState) :=
  match p.threads 0 with
  | [.summary 0 4 false [] entries] => some (entries.map fun entry => entry.2.state)
  | _ => none

/-- A summary, and a start that comes in after its first turn. -/
def summaryAroundStart : List (ServerAction sampleCatalog) :=
  [.arrive (.summary 0)] ++ List.replicate 3 (.run 0 {}) ++
    [.arrive (.feature negativeConnect .start)] ++ List.replicate 11 (.run 1 {}) ++
    List.replicate 12 (.run 0 {})

theorem summary_consistent_aroundStart :
    ∃ run last, ServerRun sampleHost sampleStart run last ∧
      ∃ body view, last.threads 0 = [.respond 4 { body := body }] ∧
        SummaryView.read body = some view ∧ view.Consistent sampleCatalog ∧
        view.features.map ShownFeature.state = [.pending, .active, .pending, .pending, .pending] := by
  have hrun : ∃ source, ServerRun sampleHost sampleStart
      (record (server sampleHost).step sampleStart summaryAroundStart) source ∧
      (((server sampleHost).step source (.run 0 {})).isSome ∧
        summaryStates source = some [.pending, .active, .pending, .pending, .pending]) :=
    exists_run (by decide)
  rcases hrun with ⟨source, hrun, hsome, hsource⟩
  rcases Option.isSome_iff_exists.mp hsome with ⟨last, hlast⟩
  unfold summaryStates at hsource
  split at hsource
  · rename_i entries hthread
    have hwhole := Run.snoc hrun hlast
    rcases summary_consistent sampleHost sampleStart_initial hwhole
        (List.mem_append_right _ (List.mem_singleton_self _)) rfl hthread with
      ⟨body, view, -, htarget, hread, hfeatures, hconsistent⟩
    refine ⟨_, last, hwhole, body, view, htarget, hread, hconsistent, ?_⟩
    rw [hfeatures, List.map_map]
    exact Option.some.inj hsource
  · contradiction

end SctpConformance
