import SctpConformance.Sequential.Invariant

/-!
# The handlers and the workers, one at a time

What each handler does to the progress of features, and that all of them keep
the shared state tidy.

Main results:

- Theorems `startFeature_admitted` and `startFeature_not_admitted`: a start
  activates its feature or leaves all features where they are.
- Theorems `progress_completeFeature`, `progress_unsupportedFeature` and
  `progress_observation`: the other requests.
- Theorem `Tidy.handleRequest`: every request keeps the shared state tidy.
-/

namespace SctpConformance

open Library

variable {c : Catalog} {host : Host} {σ τ υ : Shared c} {x : Target c} {now : TimePoint}

/-- The progress is a matter of the sessions. -/
theorem progress_congr (h : τ.sessions = σ.sessions) (y : Target c) :
    τ.progress y = σ.progress y := by
  simp [Shared.progress, Shared.execution, h]

/-- More descriptors in use leave a tidy state. -/
theorem Tidy.extend (h : Tidy σ) (hsessions : τ.sessions = σ.sessions)
    (hlookup : ∀ n d, σ.descriptors.lookup n = some d → τ.descriptors.lookup n = some d) :
    Kept σ τ := by
  have hexecution : ∀ y, τ.execution y = σ.execution y := by
    intro y
    simp [Shared.execution, hsessions]
  have hid : ∀ session, τ.activeId session = σ.activeId session := by
    intro session
    simp [Shared.activeId, hsessions]
  refine ⟨⟨?_, ?_, ?_, ?_⟩, ?_, ?_, ?_⟩
  · intro session
    rw [hid]
    exact h.ids session
  · intro y
    rw [hid, hexecution]
    exact h.named y
  · intro y fd hfd
    rw [hexecution] at hfd
    rcases h.listed y fd hfd with ⟨serial, hserial⟩
    exact ⟨serial, hlookup fd _ hserial⟩
  · intro y hy
    rw [hexecution] at hy ⊢
    exact h.pristine y hy
  · intro n hn
    exact hlookup n _ hn
  · intro y hy
    rwa [hexecution] at hy
  · intro y hy
    rw [hexecution] at hy ⊢
    exact Or.inr ⟨hy, rfl⟩

/-! ## `StartFeature` -/

/-- The state in which a start, past its call of `maybe_timeout`, activates its
feature. -/
structure Admitted (host : Host) (σ : Shared c) (x : Target c) (calls : List SocketCalls) :
    Prop where
  free : σ.activeId x.session = []
  pending : (σ.execution x).state = .pending
  provided : ¬((c.definition x.feature).scenarioKind ≠ .agentOnly ∧
    (c.definition x.feature).targetCount = 0)
  opens : ∃ sockets, (createSockets host σ x (c.definition x.feature).targetCount calls []).2 =
    .ok sockets

section

variable (host now σ x) (calls : List SocketCalls)

/-- A start that is admitted opens its sockets, activates its feature and
launches its worker. -/
theorem startFeature_admitted (h : Admitted host (σ.maybeTimeout now x) x calls) :
    ∃ τ sockets, createSockets host (σ.maybeTimeout now x) x
        (c.definition x.feature).targetCount calls [] = (τ, .ok sockets) ∧
      startFeature host now σ x calls = {
        shared := activateScenario now τ x sockets
        response := featureResponse (activateScenario now τ x sockets) x
        launched := ((c.definition x.feature).worker sockets).map fun worker =>
          (x, worker.start) } := by
  rcases h.opens with ⟨sockets, hopens⟩
  rcases hcreated : createSockets host (σ.maybeTimeout now x) x
      (c.definition x.feature).targetCount calls [] with ⟨τ, result⟩
  rw [hcreated] at hopens
  cases hopens
  refine ⟨τ, sockets, rfl, ?_⟩
  simp [startFeature, h.free, h.pending, h.provided, hcreated]

/-- A start that is not admitted launches no worker, and leaves at most closed
descriptors behind. -/
theorem startFeature_not_admitted (h : ¬Admitted host (σ.maybeTimeout now x) x calls) :
    (startFeature host now σ x calls).launched = none ∧
      ((startFeature host now σ x calls).shared = σ.maybeTimeout now x ∨
        ∃ error, createSockets host (σ.maybeTimeout now x) x
          (c.definition x.feature).targetCount calls [] =
            ((startFeature host now σ x calls).shared, .error error)) := by
  unfold startFeature
  dsimp only
  split
  · exact ⟨rfl, Or.inl rfl⟩
  · rename_i hfree
    split
    · exact ⟨rfl, Or.inl rfl⟩
    · rename_i hpending
      split
      · exact ⟨rfl, Or.inl rfl⟩
      · rename_i hprovided
        split
        · rename_i τ error hcreated
          exact ⟨rfl, Or.inr ⟨error, hcreated⟩⟩
        · rename_i τ sockets hcreated
          exact absurd ⟨not_not.mp hfree, not_not.mp hpending, hprovided,
            sockets, by rw [hcreated]⟩ h

end

/-- A start that is not admitted moves no feature but by its deadline. -/
theorem progress_startFeature_not_admitted {calls : List SocketCalls}
    (h : ¬Admitted host (σ.maybeTimeout now x) x calls) (y : Target c) :
    (startFeature host now σ x calls).shared.progress y =
      if y = x then (σ.progress x).poll now else σ.progress y := by
  rw [← progress_maybeTimeout]
  rcases (startFeature_not_admitted host σ x now calls h).2 with hshared | ⟨error, hcreated⟩
  · rw [hshared]
  · have hspec := createSockets_spec (fun _ hfd => absurd hfd List.not_mem_nil) hcreated
    exact progress_congr hspec.1 y

/-- A start that is admitted activates its feature and moves no other. -/
theorem progress_startFeature_admitted {calls : List SocketCalls}
    (h : Admitted host (σ.maybeTimeout now x) x calls) (y : Target c) :
    (startFeature host now σ x calls).shared.progress y =
      if y = x then (σ.progress x).activate (c.definition x.feature) now else σ.progress y := by
  rcases startFeature_admitted host σ x now calls h with ⟨τ, sockets, hcreated, hstart⟩
  have hspec := createSockets_spec (fun _ hfd => absurd hfd List.not_mem_nil) hcreated
  have hpending : ((σ.progress x).poll now).state = .pending := by
    have hpending := h.pending
    rwa [← state_progress, progress_maybeTimeout, if_pos rfl] at hpending
  have hkept : (σ.progress x).poll now = σ.progress x := by
    unfold Progress.poll at hpending ⊢
    split
    · rename_i hlate
      rw [if_pos hlate] at hpending
      contradiction
    · rfl
  rw [hstart, progress_activateScenario, progress_congr hspec.1, progress_congr hspec.1,
    progress_maybeTimeout, progress_maybeTimeout, if_pos rfl, hkept]
  by_cases hy : y = x
  · simp [hy]
  · simp [hy]

/-- A start keeps the state tidy. -/
theorem Tidy.startFeature (h : Tidy σ) (host : Host) (now : TimePoint) (x : Target c)
    (calls : List SocketCalls) : Kept σ (startFeature host now σ x calls).shared := by
  have hpolled := h.maybeTimeout now x
  by_cases hadmitted : Admitted host (σ.maybeTimeout now x) x calls
  · rcases startFeature_admitted host σ x now calls hadmitted with ⟨τ, sockets, hcreated, hstart⟩
    rcases createSockets_spec (fun _ hfd => absurd hfd List.not_mem_nil) hcreated with
      ⟨hsessions, hlisten, hlookup⟩
    have hopened := hpolled.tidy.extend hsessions hlookup
    have hfree : τ.activeId x.session = [] := by
      simpa [Shared.activeId, hsessions] using hadmitted.free
    have hpending : (τ.execution x).state = .pending := by
      simpa [Shared.execution, hsessions] using hadmitted.pending
    rw [hstart]
    exact (hpolled.trans hopened).trans
      (hopened.tidy.activateScenario hfree hpending hlisten)
  · rcases (startFeature_not_admitted host σ x now calls hadmitted).2 with
      hshared | ⟨error, hcreated⟩
    · rw [hshared]
      exact hpolled
    · rcases createSockets_spec (fun _ hfd => absurd hfd List.not_mem_nil) hcreated with
        ⟨hsessions, hlookup⟩
      refine hpolled.trans (hpolled.tidy.extend hsessions ?_)
      intro n d hd
      exact hlookup n d hd List.not_mem_nil

/-- The worker that a start launches makes its calls on the sockets of the start. -/
theorem startFeature_launched {calls : List SocketCalls} {y : Target c} {next : WorkerStep}
    (h : (startFeature host now σ x calls).launched = some (y, next)) :
    y = x ∧ ((startFeature host now σ x calls).shared.execution x).state = .active ∧
      next.Sound ∧
      next.fds ⊆ ((startFeature host now σ x calls).shared.execution x).activeFds := by
  by_cases hadmitted : Admitted host (σ.maybeTimeout now x) x calls
  · have hstate : ((startFeature host now σ x calls).shared.execution x).state = .active := by
      rw [← state_progress, progress_startFeature_admitted hadmitted, if_pos rfl]
      rfl
    rcases startFeature_admitted host σ x now calls hadmitted with ⟨τ, sockets, -, hstart⟩
    rw [hstart] at h ⊢
    rcases Option.map_eq_some_iff.mp h with ⟨worker, hworker, heq⟩
    cases heq
    rw [hstart] at hstate
    refine ⟨rfl, hstate, worker.start_fds.2, ?_⟩
    have hkind : (c.definition x.feature).scenarioKind ≠ .agentOnly := by
      intro hkind
      simp [FeatureDefinition.worker, hkind] at hworker
    rw [activeFds_activateScenario, if_neg hkind]
    exact fun fd hfd => FeatureDefinition.worker_fds hworker (worker.start_fds.1 hfd)
  · rw [(startFeature_not_admitted host σ x now calls hadmitted).1] at h
    contradiction

/-! ## Reports -/

/-- What an accepted report does to a record, it does to its progress; a refused
one would change nothing. -/
theorem FeatureExecution.complete_progress (e : FeatureExecution) (feature : FeatureDefinition)
    (report : CompleteReport) (now : TimePoint) :
    match e.complete feature report now with
    | .error _ => e.progress.complete feature report = e.progress
    | .ok (e', _) => e'.progress = e.progress.complete feature report := by
  unfold FeatureExecution.complete
  by_cases hactive : e.state = .active
  · by_cases hmode : feature.completionMode = .serverObserved
    · simp [hactive, hmode, Progress.complete, Progress.Accepts]
    · cases hids : feature.distinctAssocIds.bind fun contract =>
          assocIdsError contract report.assocIds with
      | some message => simp [hactive, hmode, hids, Progress.complete, Progress.Accepts]
      | none =>
          by_cases hdone : feature.completionMode = .agentReported ∨ e.networkComplete = true
          · simp [hactive, hmode, hids, hdone, Progress.complete, Progress.Accepts,
              FeatureExecution.progress]
          · simp [hactive, hmode, hids, hdone, Progress.complete, Progress.Accepts,
              FeatureExecution.progress]
  · simp [hactive, Progress.complete, FeatureExecution.progress]

/-- A report is refused where it would change nothing. -/
theorem FeatureExecution.markUnsupported_progress (e : FeatureExecution)
    (report : UnsupportedReport) (now : TimePoint) :
    match e.markUnsupported report now with
    | .error _ => e.progress.unsupport = e.progress
    | .ok e' => e'.progress = e.progress.unsupport := by
  unfold FeatureExecution.markUnsupported
  cases hstate : e.state <;> simp [Progress.unsupport, FeatureExecution.progress, hstate]

namespace Progress

/-- A complete request: its deadline first, then its report. -/
def completeRequest (v : Progress) (feature : FeatureDefinition) (body : CppString)
    (now : TimePoint) : Progress :=
  match parseCompleteReport body with
  | .error _ => v.poll now
  | .ok report => (v.poll now).complete feature report

/-- An unsupported request: its deadline first, then its report. -/
def unsupportedRequest (v : Progress) (body : CppString) (now : TimePoint) : Progress :=
  match parseUnsupportedReport body with
  | .error _ => v.poll now
  | .ok _ => (v.poll now).unsupport

/-- A deadline that has been applied has no second effect. -/
@[simp]
theorem poll_poll (v : Progress) (now : TimePoint) : (v.poll now).poll now = v.poll now := by
  unfold poll
  by_cases hlate : v.state = .active ∧ v.deadlineAt ≤ now
  · simp [hlate]
  · simp [hlate]

/-- A feature that is active at a look has been active before, and nothing has changed. -/
theorem poll_active {v : Progress} {now : TimePoint} (h : (v.poll now).state = .active) :
    v.state = .active ∧ v.poll now = v := by
  unfold Progress.poll at h ⊢
  split at h
  · contradiction
  · rename_i hearly
    exact ⟨h, if_neg hearly⟩

end Progress

/-- A completion moves the feature that it is about, and no other one. -/
theorem progress_completeFeature (now : TimePoint) (σ : Shared c) (x : Target c)
    (body : CppString) (y : Target c) :
    (completeFeature now σ x body).shared.progress y =
      if y = x then (σ.progress x).completeRequest (c.definition x.feature) body now
      else σ.progress y := by
  unfold completeFeature Progress.completeRequest
  cases parseCompleteReport body with
  | error error => exact progress_maybeTimeout σ now x y
  | ok report =>
      have hprogress := ((σ.maybeTimeout now x).execution x).complete_progress
        (c.definition x.feature) report now
      have hpolled : ((σ.maybeTimeout now x).execution x).progress =
          (σ.progress x).poll now := by
        rw [← Shared.progress, progress_maybeTimeout, if_pos rfl]
      dsimp only
      rcases hcomplete : ((σ.maybeTimeout now x).execution x).complete
        (c.definition x.feature) report now with ⟨status, message⟩ | ⟨e, finished⟩
      · rw [hcomplete, hpolled] at hprogress
        rw [hprogress]
        exact progress_maybeTimeout σ now x y
      · rw [hcomplete, hpolled] at hprogress
        have hset : ((σ.maybeTimeout now x).setExecution x e).progress y =
            if y = x then ((σ.progress x).poll now).complete (c.definition x.feature) report
            else σ.progress y := by
          rw [progress_setExecution, hprogress, progress_maybeTimeout]
          by_cases hy : y = x <;> simp [hy]
        cases finished with
        | true => simpa using hset
        | false => simpa using hset

/-- A report is refused, and then no more has been done than to apply the
deadline, or it is accepted. -/
theorem completeFeature_cases (now : TimePoint) (σ : Shared c) (x : Target c)
    (body : CppString) :
    (∃ status message, (status = 400 ∨ status = 409) ∧ completeFeature now σ x body = {
        shared := σ.maybeTimeout now x
        response := errorResponse status message }) ∨
      ∃ report e finished, parseCompleteReport body = .ok report ∧
        ((σ.maybeTimeout now x).execution x).complete (c.definition x.feature) report now =
          .ok (e, finished) ∧
        (completeFeature now σ x body).response.status = 200 ∧
        (completeFeature now σ x body).shared =
          if finished then ((σ.maybeTimeout now x).setExecution x e).finish x
          else (σ.maybeTimeout now x).setExecution x e := by
  unfold completeFeature
  cases parseCompleteReport body with
  | error error => exact Or.inl ⟨400, error, Or.inl rfl, rfl⟩
  | ok report =>
      dsimp only
      rcases hcomplete : ((σ.maybeTimeout now x).execution x).complete
        (c.definition x.feature) report now with ⟨status, message⟩ | ⟨e, finished⟩
      · exact Or.inl ⟨status, message, FeatureExecution.complete_refused hcomplete, rfl⟩
      · exact Or.inr ⟨report, e, finished, rfl, hcomplete, rfl, rfl⟩

/-- A report that is answered 200 completes the part of the client. -/
theorem completeFeature_accepted {body : CppString}
    (h : (completeFeature now σ x body).response.status = 200) :
    ((completeFeature now σ x body).shared.progress x).agentComplete = true ∧
      ((c.definition x.feature).completionMode = .agentReported →
        ((completeFeature now σ x body).shared.progress x).state = .passed) := by
  rcases completeFeature_cases now σ x body with
    ⟨status, message, hrefused, hsame⟩ | ⟨report, e, finished, -, hcomplete, -, hshared⟩
  · rw [hsame] at h
    have hstatus : status = 200 := h
    omega
  · rcases FeatureExecution.complete_accepted hcomplete with
      ⟨-, -, -, hagent, -, -, -, hverdict⟩
    have hset : ((σ.maybeTimeout now x).setExecution x e).progress x = e.progress := by
      rw [progress_setExecution, if_pos rfl]
    rw [hshared]
    rcases hverdict with ⟨rfl, hstate, -⟩ | ⟨rfl, -, hmode, -⟩
    · rw [if_pos rfl, progress_finish, hset]
      exact ⟨hagent, fun _ => hstate⟩
    · rw [if_neg Bool.false_ne_true, hset]
      exact ⟨hagent, fun hreported => absurd hreported hmode⟩

/-- An unsupported report is refused, and then no more has been done than to
apply the deadline, or it is accepted. -/
theorem unsupportedFeature_cases (now : TimePoint) (σ : Shared c) (x : Target c)
    (body : CppString) :
    (∃ status message, (status = 400 ∨ status = 409) ∧ unsupportedFeature now σ x body = {
        shared := σ.maybeTimeout now x
        response := errorResponse status message }) ∨
      ∃ report e, parseUnsupportedReport body = .ok report ∧
        ((σ.maybeTimeout now x).execution x).markUnsupported report now = .ok e ∧
        (unsupportedFeature now σ x body).response.status = 200 ∧
        (unsupportedFeature now σ x body).shared =
          ((σ.maybeTimeout now x).setExecution x e).finish x := by
  unfold unsupportedFeature
  cases parseUnsupportedReport body with
  | error error => exact Or.inl ⟨400, error, Or.inl rfl, rfl⟩
  | ok report =>
      dsimp only
      rcases hreport : ((σ.maybeTimeout now x).execution x).markUnsupported report now with
        ⟨status, message⟩ | e
      · exact Or.inl
          ⟨status, message, Or.inr (FeatureExecution.markUnsupported_refused hreport), rfl⟩
      · exact Or.inr ⟨report, e, rfl, hreport, rfl, rfl⟩

/-- A withdrawal moves the feature that it is about, and no other one. -/
theorem progress_unsupportedFeature (now : TimePoint) (σ : Shared c) (x : Target c)
    (body : CppString) (y : Target c) :
    (unsupportedFeature now σ x body).shared.progress y =
      if y = x then (σ.progress x).unsupportedRequest body now else σ.progress y := by
  unfold unsupportedFeature Progress.unsupportedRequest
  cases parseUnsupportedReport body with
  | error error => exact progress_maybeTimeout σ now x y
  | ok report =>
      have hprogress := ((σ.maybeTimeout now x).execution x).markUnsupported_progress report now
      have hpolled : ((σ.maybeTimeout now x).execution x).progress =
          (σ.progress x).poll now := by
        rw [← Shared.progress, progress_maybeTimeout, if_pos rfl]
      dsimp only
      rcases hreport : ((σ.maybeTimeout now x).execution x).markUnsupported report now with
        ⟨status, message⟩ | e
      · rw [hreport, hpolled] at hprogress
        rw [hprogress]
        exact progress_maybeTimeout σ now x y
      · rw [hreport, hpolled] at hprogress
        dsimp only
        rw [progress_finish, progress_setExecution, hprogress, progress_maybeTimeout]
        by_cases hy : y = x <;> simp [hy]

/-- A completion starts no worker. -/
theorem launched_completeFeature (now : TimePoint) (σ : Shared c) (x : Target c)
    (body : CppString) : (completeFeature now σ x body).launched = none := by
  unfold completeFeature
  dsimp only
  repeat' split
  all_goals rfl

/-- Neither does a withdrawal. -/
theorem launched_unsupportedFeature (now : TimePoint) (σ : Shared c) (x : Target c)
    (body : CppString) : (unsupportedFeature now σ x body).launched = none := by
  unfold unsupportedFeature
  dsimp only
  repeat' split
  all_goals rfl

/-- A completion keeps the session tidy. -/
theorem Tidy.completeFeature (h : Tidy σ) (now : TimePoint) (x : Target c) (body : CppString) :
    Kept σ (completeFeature now σ x body).shared := by
  have hpolled := h.maybeTimeout now x
  unfold SctpConformance.completeFeature
  cases parseCompleteReport body with
  | error error => exact hpolled
  | ok report =>
      dsimp only
      rcases hcomplete : ((σ.maybeTimeout now x).execution x).complete
        (c.definition x.feature) report now with ⟨status, message⟩ | ⟨e, finished⟩
      · exact hpolled
      · rcases FeatureExecution.complete_accepted hcomplete with
          ⟨hactive, -, -, -, -, hfds, -, hverdict⟩
        rcases hverdict with ⟨rfl, hstate, -⟩ | ⟨rfl, hstate, -⟩
        · exact hpolled.trans
            (hpolled.tidy.finish ⟨by simp [hstate], by simp [hstate]⟩ hfds)
        · exact hpolled.trans
            (hpolled.tidy.setExecution (hstate.trans hactive.symm) hfds hstate)

/-- So does a withdrawal. -/
theorem Tidy.unsupportedFeature (h : Tidy σ) (now : TimePoint) (x : Target c)
    (body : CppString) : Kept σ (unsupportedFeature now σ x body).shared := by
  have hpolled := h.maybeTimeout now x
  unfold SctpConformance.unsupportedFeature
  cases parseUnsupportedReport body with
  | error error => exact hpolled
  | ok report =>
      dsimp only
      rcases hreport : ((σ.maybeTimeout now x).execution x).markUnsupported report now with
        ⟨status, message⟩ | e
      · exact hpolled
      · rcases FeatureExecution.markUnsupported_accepted hreport with ⟨-, rfl⟩
        exact hpolled.trans (hpolled.tidy.finish ⟨by simp, by simp⟩ rfl)

/-! ## Observations -/

/-- The features to which a request applies their deadlines. -/
def Request.Polls (request : Request c) (y : Target c) : Prop :=
  match request with
  | .feature x _ => y = x
  | .summary n => y.session = n
  | .summaryStream n => y.session = n
  | .session _ => False
  | .other _ => False

instance (request : Request c) : DecidablePred request.Polls := fun y =>
  match request with
  | .feature x _ => inferInstanceAs (Decidable (y = x))
  | .summary session => inferInstanceAs (Decidable (y.session = session))
  | .summaryStream session => inferInstanceAs (Decidable (y.session = session))
  | .session _ => inferInstanceAs (Decidable False)
  | .other _ => inferInstanceAs (Decidable False)

/-- The requests that are neither a start nor a report. -/
def Request.Observes : Request c → Prop
  | .feature _ .start => False
  | .feature _ (.complete _) => False
  | .feature _ (.unsupported _) => False
  | _ => True

instance : DecidablePred (Request.Observes (c := c)) := fun request =>
  match request with
  | .feature _ .get => isTrue trivial
  | .feature _ .unknown => isTrue trivial
  | .feature _ .start => isFalse not_false
  | .feature _ (.complete _) => isFalse not_false
  | .feature _ (.unsupported _) => isFalse not_false
  | .session _ => isTrue trivial
  | .summary _ => isTrue trivial
  | .summaryStream _ => isTrue trivial
  | .other _ => isTrue trivial

/-- A summary looks at each feature of its session once. -/
theorem progress_summaryEntries (now : TimePoint) (session : Nat) (σ : Shared c)
    (left : List c.Ref) (entries : List (Entry c)) (y : Target c) :
    (summaryEntries now session σ left entries).1.progress y =
      if y.session = session ∧ y.feature ∈ left then (σ.progress y).poll now
      else σ.progress y := by
  induction left generalizing σ entries with
  | nil => simp [summaryEntries]
  | cons r left ih =>
      unfold summaryEntries
      rw [ih, progress_maybeTimeout]
      by_cases hy : y = ⟨session, r⟩
      · subst hy
        simp
      · have hne : ¬(y.session = session ∧ y.feature = r) := by
          rintro ⟨hsession, hfeature⟩
          apply hy
          rcases y with ⟨session', feature⟩
          simp_all
        by_cases hleft : y.session = session ∧ y.feature ∈ left
        · simp [hy, hleft]
        · have hkept : ¬(y.session = session ∧ (y.feature = r ∨ y.feature ∈ left)) := by
            rintro ⟨hsession, hfeature⟩
            rcases hfeature with hfeature | hfeature
            · exact hne ⟨hsession, hfeature⟩
            · exact hleft ⟨hsession, hfeature⟩
          simp [hy, hleft, hkept]

/-- A summary keeps the session tidy. -/
theorem Tidy.summaryEntries (h : Tidy σ) (now : TimePoint) (session : Nat)
    (left : List c.Ref) (entries : List (Entry c)) :
    Kept σ (summaryEntries now session σ left entries).1 := by
  induction left generalizing σ entries with
  | nil => exact h.kept
  | cons r left ih =>
      have hpolled := h.maybeTimeout now ⟨session, r⟩
      exact hpolled.trans (ih hpolled.tidy _)

/-- An observation applies deadlines and does nothing else to the features. -/
theorem progress_observation {request : Request c} (h : request.Observes) (host : Host)
    (now : TimePoint) (σ : Shared c) (calls : List SocketCalls) (y : Target c) :
    (handleRequest host now σ request calls).shared.progress y =
      if request.Polls y then (σ.progress y).poll now else σ.progress y := by
  cases request with
  | feature x request =>
      have hpolled : (σ.maybeTimeout now x).progress y =
          if (Request.feature x request).Polls y then (σ.progress y).poll now
          else σ.progress y := by
        rw [progress_maybeTimeout]
        by_cases hy : y = x <;> simp [Request.Polls, hy]
      cases request with
      | get => exact hpolled
      | unknown => exact hpolled
      | start => exact absurd h not_false
      | complete body => exact absurd h not_false
      | unsupported body => exact absurd h not_false
  | session session => rfl
  | summary session =>
      by_cases hy : y.session = session <;>
        simp [handleRequest, progress_summaryEntries, Request.Polls, hy]
  | summaryStream session =>
      by_cases hy : y.session = session <;>
        simp [handleRequest, progress_summaryEntries, Request.Polls, hy]
  | other response => rfl

/-- A request that only looks starts no worker. -/
theorem launched_observation {request : Request c} (h : request.Observes) (host : Host)
    (now : TimePoint) (σ : Shared c) (calls : List SocketCalls) :
    (handleRequest host now σ request calls).launched = none := by
  cases request with
  | feature x request =>
      cases request with
      | get => rfl
      | unknown => rfl
      | start => exact absurd h not_false
      | complete body => exact absurd h not_false
      | unsupported body => exact absurd h not_false
  | session session => rfl
  | summary session => rfl
  | summaryStream session => rfl
  | other response => rfl

/-! ## All requests -/

/-- A deadline that has been applied is not applied again. -/
theorem maybeTimeout_maybeTimeout (σ : Shared c) (now : TimePoint) (x : Target c) :
    (σ.maybeTimeout now x).maybeTimeout now x = σ.maybeTimeout now x := by
  have hpolled : (σ.maybeTimeout now x).progress x = (σ.progress x).poll now := by
    rw [progress_maybeTimeout, if_pos rfl]
  have hdone : ((σ.maybeTimeout now x).execution x).timeOut now now = none := by
    apply FeatureExecution.timeOut_eq_none
    by_cases hlate : (σ.progress x).state = .active ∧ (σ.progress x).deadlineAt ≤ now
    · left
      rw [← state_progress, hpolled, Progress.poll, if_pos hlate]
      simp
    · have hkept : (σ.maybeTimeout now x).progress x = σ.progress x := by
        rw [hpolled, Progress.poll, if_neg hlate]
      by_cases hactive : (σ.progress x).state = .active
      · right
        have hdeadline : ((σ.maybeTimeout now x).execution x).deadlineAt =
            (σ.progress x).deadlineAt := congrArg Progress.deadlineAt hkept
        rw [hdeadline]
        exact not_le.mp fun hreached => hlate ⟨hactive, hreached⟩
      · left
        rw [← state_progress, hkept]
        exact hactive
  rw [Shared.maybeTimeout, hdone]

/-- Every request keeps the sessions tidy. -/
theorem Tidy.handleRequest (h : Tidy σ) (host : Host) (now : TimePoint) (request : Request c)
    (calls : List SocketCalls) : Kept σ (handleRequest host now σ request calls).shared := by
  cases request with
  | feature x request =>
      have hpolled := h.maybeTimeout now x
      cases request with
      | get => exact hpolled
      | unknown => exact hpolled
      | start => exact hpolled.trans (hpolled.tidy.startFeature host now x calls)
      | complete body => exact hpolled.trans (hpolled.tidy.completeFeature now x body)
      | unsupported body => exact hpolled.trans (hpolled.tidy.unsupportedFeature now x body)
  | session session => exact h.kept
  | summary session => exact h.summaryEntries now session _ _
  | summaryStream session => exact h.summaryEntries now session _ _
  | other response => exact h.kept

/-- The worker that a request launches makes its calls on descriptors that its
feature lists. -/
theorem handleRequest_launched {request : Request c} {calls : List SocketCalls} {y : Target c}
    {next : WorkerStep} (h : (handleRequest host now σ request calls).launched = some (y, next)) :
    request = .feature y .start ∧
      ((handleRequest host now σ request calls).shared.execution y).state = .active ∧
      next.Sound ∧
      next.fds ⊆ ((handleRequest host now σ request calls).shared.execution y).activeFds := by
  by_cases hobserves : request.Observes
  · rw [launched_observation hobserves] at h
    contradiction
  · cases request with
    | feature x request =>
        cases request with
        | start =>
            rcases startFeature_launched h with ⟨rfl, hlaunched⟩
            exact ⟨rfl, hlaunched⟩
        | get => exact absurd trivial hobserves
        | unknown => exact absurd trivial hobserves
        | complete body =>
            simp [handleRequest, launched_completeFeature] at h
        | unsupported body =>
            simp [handleRequest, launched_unsupportedFeature] at h
    | session session => exact absurd trivial hobserves
    | summary session => exact absurd trivial hobserves
    | summaryStream session => exact absurd trivial hobserves
    | other response => exact absurd trivial hobserves

end SctpConformance
