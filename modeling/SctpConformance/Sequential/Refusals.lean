import SctpConformance.Server.Routing
import SctpConformance.Sequential.Handlers

/-!
# Refused requests

A request that is answered 400, 404 or 409 has no effect, but that the deadline
of the feature it addresses has been applied.  A start that fails on the way
closes the sockets it has opened before it answers, and a report is read to its
end before anything is written.

Main results:

- Definition `TimedOutOnly`: what a deadline that has passed does to the state.
- Theorem `handleRequest_refused`: the refused requests on sessions and features.
- Theorem `refused_unchanged`: all refused requests.
-/

namespace SctpConformance

open Library

variable {c : Catalog} {host : Host} {σ τ : Shared c} {x : Target c} {now : TimePoint}

/-! ## What may have changed -/

/-- The sessions and the open descriptors are the same. -/
structure Untouched (σ τ : Shared c) : Prop where
  sessions : τ.sessions = σ.sessions
  descriptors : ∀ n, τ.descriptors.lookup n = σ.descriptors.lookup n

/-- The session of `x` after its deadline. -/
def expiredSession (now : TimePoint) (σ : Shared c) (x : Target c) : Session c :=
  { σ.sessions x.session with
    features := Function.update (σ.sessions x.session).features x.feature
      { σ.execution x with
        state := .timedOut
        message := str "scenario timed out"
        finishedAt := now
        activeFds := [] }
    activeFeatureId :=
      if σ.activeId x.session = c.id x.feature then [] else σ.activeId x.session }

/-- The deadline of `x` has passed, and that it has been applied is all that has
happened. -/
structure TimedOutOnly (now : TimePoint) (σ τ : Shared c) (x : Target c) : Prop where
  active : (σ.execution x).state = .active
  reached : (σ.execution x).deadlineAt ≤ now
  sessions : τ.sessions = Function.update σ.sessions x.session (expiredSession now σ x)
  descriptors : ∀ n, τ.descriptors.lookup n =
    if n ∈ (σ.execution x).activeFds then none else σ.descriptors.lookup n

/-- Nothing need happen. -/
theorem Untouched.refl (σ : Shared c) : Untouched σ σ :=
  ⟨rfl, fun _ => rfl⟩

/-- What is left alone twice is left alone. -/
theorem Untouched.trans {υ : Shared c} (h : Untouched σ τ) (h' : Untouched τ υ) :
    Untouched σ υ where
  sessions := h'.sessions.trans h.sessions
  descriptors n := (h'.descriptors n).trans (h.descriptors n)

/-- Behind a timeout nothing more happens. -/
theorem TimedOutOnly.trans {υ : Shared c} (h : TimedOutOnly now σ τ x) (h' : Untouched τ υ) :
    TimedOutOnly now σ υ x where
  active := h.active
  reached := h.reached
  sessions := h'.sessions.trans h.sessions
  descriptors n := (h'.descriptors n).trans (h.descriptors n)

/-- `maybe_timeout` does nothing, or it applies a deadline that has passed. -/
theorem maybeTimeout_cases (now : TimePoint) (σ : Shared c) (x : Target c) :
    Untouched σ (σ.maybeTimeout now x) ∨ TimedOutOnly now σ (σ.maybeTimeout now x) x := by
  unfold Shared.maybeTimeout
  cases htimeOut : (σ.execution x).timeOut now now with
  | none => exact Or.inl (Untouched.refl σ)
  | some e =>
      right
      rcases FeatureExecution.timeOut_eq_some_iff.mp htimeOut with ⟨hactive, hreached, he⟩
      subst he
      refine ⟨hactive, hreached, ?_, ?_⟩
      · dsimp only
        rw [Shared.sessions_finish]
        simp [Shared.setExecution, Shared.activeId, Shared.execution, expiredSession]
        rfl
      · intro n
        dsimp only
        rw [Shared.lookup_finish]
        simp

/-! ## Refusals on sessions and features -/

/-- The answers that refuse a request. -/
def HttpResponse.Refuses (response : HttpResponse) : Prop :=
  response.status = 400 ∨ response.status = 404 ∨ response.status = 409

instance (response : HttpResponse) : Decidable response.Refuses :=
  inferInstanceAs (Decidable (_ ∨ _))

/-- A response with status 200 refuses nothing. -/
theorem not_refuses_of_status {response : HttpResponse} (h : response.status = 200) :
    ¬response.Refuses := by
  unfold HttpResponse.Refuses
  omega

/-- A start that is refused has closed what it has opened. -/
theorem startFeature_refused_untouched {calls : List SocketCalls}
    (h : (startFeature host now σ x calls).response.Refuses) :
    (startFeature host now σ x calls).launched = none ∧
      Untouched (σ.maybeTimeout now x) (startFeature host now σ x calls).shared := by
  by_cases hadmitted : Admitted host (σ.maybeTimeout now x) x calls
  · rcases startFeature_admitted host σ x now calls hadmitted with ⟨τ, sockets, -, hstart⟩
    refine absurd h (not_refuses_of_status ?_)
    rw [hstart]
    rfl
  · rcases startFeature_not_admitted host σ x now calls hadmitted with
      ⟨hlaunched, hshared | ⟨error, hcreated⟩⟩
    · rw [hshared]
      exact ⟨hlaunched, Untouched.refl _⟩
    · rcases createSockets_error hcreated with ⟨hsessions, hlookup⟩
      exact ⟨hlaunched, hsessions, by simpa using hlookup⟩

/-- The feature that a request names. -/
def Request.addressed : Request c → Option (Target c)
  | .feature x _ => some x
  | _ => none

/-- A request that is refused applies at most the deadline of the feature it names. -/
theorem handleRequest_refused {request : Request c} {calls : List SocketCalls}
    (h : (handleRequest host now σ request calls).response.Refuses) :
    (handleRequest host now σ request calls).launched = none ∧
      (Untouched σ (handleRequest host now σ request calls).shared ∨
        ∃ x, request.addressed = some x ∧
          TimedOutOnly now σ (handleRequest host now σ request calls).shared x) := by
  have hpolled : ∀ x τ, Untouched (σ.maybeTimeout now x) τ →
      Untouched σ τ ∨ TimedOutOnly now σ τ x := by
    intro x τ huntouched
    rcases maybeTimeout_cases now σ x with hsame | hexpired
    · exact Or.inl (hsame.trans huntouched)
    · exact Or.inr (hexpired.trans huntouched)
  cases request with
  | feature x request =>
      have hnamed : ∀ handled : Handled c, handled.launched = none →
          Untouched (σ.maybeTimeout now x) handled.shared →
          handled.launched = none ∧ (Untouched σ handled.shared ∨
            ∃ y, (Request.feature x request).addressed = some y ∧
              TimedOutOnly now σ handled.shared y) := by
        intro handled hlaunched huntouched
        refine ⟨hlaunched, ?_⟩
        rcases hpolled x _ huntouched with hsame | hexpired
        · exact Or.inl hsame
        · exact Or.inr ⟨x, rfl, hexpired⟩
      have hpolled' := maybeTimeout_maybeTimeout σ now x
      cases request with
      | get => exact absurd h (not_refuses_of_status rfl)
      | unknown => exact hnamed _ rfl (Untouched.refl _)
      | start =>
          rcases startFeature_refused_untouched h with ⟨hlaunched, huntouched⟩
          rw [hpolled'] at huntouched
          exact hnamed _ hlaunched huntouched
      | complete body =>
          refine hnamed _ (launched_completeFeature now _ x body) ?_
          rcases completeFeature_cases now (σ.maybeTimeout now x) x body with
            ⟨status, message, -, hsame⟩ | ⟨report, e, finished, -, -, hstatus, -⟩
          · rw [handleRequest, hsame, hpolled']
            exact Untouched.refl _
          · exact absurd h (not_refuses_of_status hstatus)
      | unsupported body =>
          refine hnamed _ (launched_unsupportedFeature now _ x body) ?_
          rcases unsupportedFeature_cases now (σ.maybeTimeout now x) x body with
            ⟨status, message, -, hsame⟩ | ⟨report, e, -, -, hstatus, -⟩
          · rw [handleRequest, hsame, hpolled']
            exact Untouched.refl _
          · exact absurd h (not_refuses_of_status hstatus)
  | session session => exact absurd h (not_refuses_of_status rfl)
  | summary session => exact absurd h (not_refuses_of_status rfl)
  | summaryStream session => exact absurd h (not_refuses_of_status rfl)
  | other response => exact ⟨rfl, Or.inl (Untouched.refl σ)⟩

/-! ## All refusals -/

/-- The path of a request names the feature `x`. -/
def Addresses (ρ : Registry c) (request : HttpRequest) (x : Target c) : Prop :=
  let parts := splitPath request.path
  parts.getD 0 [] = str "v1" ∧ parts.getD 1 [] = str "sessions" ∧
    ρ.findSession (parts.getD 2 []) = some x.session ∧ parts.getD 3 [] = str "features" ∧
    findFeature c (parts.getD 4 []) = some x.feature

/-- Only a path of a session leads to a feature. -/
theorem route_session {pages : Pages c} {ρ : Registry c} {request : HttpRequest}
    {routed : Request c} (h : route pages ρ request = .request routed)
    (hx : routed.addressed = some x) :
    (splitPath request.path).getD 0 [] = str "v1" ∧
      (splitPath request.path).getD 1 [] = str "sessions" ∧
      ∃ session, ρ.findSession ((splitPath request.path).getD 2 []) = some session ∧
        routed = sessionRoute c (splitPath request.path) request session := by
  have hother : ∀ response, Route.request (.other response) ≠ Route.request routed := by
    rintro response hsame
    cases hsame
    contradiction
  unfold route at h
  dsimp only at h
  split at h
  · exact absurd h (hother _)
  · split at h
    · split at h
      · exact absurd h (hother _)
      · exact absurd h (hother _)
    · split at h
      · exact absurd h (hother _)
      · split at h
        · exact absurd h (hother _)
        · split at h
          · contradiction
          · split at h
            · rename_i hparts
              split at h
              · exact absurd h (hother _)
              · rename_i session hsession
                cases h
                exact ⟨hparts.2.1, hparts.2.2, session, hsession, rfl⟩
            · exact absurd h (hother _)

/-- The routed request addresses what the path names. -/
theorem addresses_of_route {pages : Pages c} {ρ : Registry c} {request : HttpRequest}
    {routed : Request c} (h : route pages ρ request = .request routed)
    (hx : routed.addressed = some x) : Addresses ρ request x := by
  rcases route_session h hx with ⟨hversion, hsessions, session, hfound, hrouted⟩
  rw [hrouted] at hx
  unfold sessionRoute at hx
  split at hx
  · contradiction
  · split at hx
    · contradiction
    · split at hx
      · rename_i hparts
        split at hx
        · contradiction
        · rename_i feature hfeature
          cases hx
          exact ⟨hversion, hsessions, hfound, hparts.2, hfeature⟩
      · contradiction

/-- A session is made, or nothing is done. -/
theorem createSession_refused {id : CppString} {ρ : Registry c} {body : CppString}
    (h : (createSession now id ρ body).2.Refuses) : (createSession now id ρ body).1 = ρ := by
  unfold createSession at h ⊢
  cases hbody : parseSimpleJsonObject body with
  | error fault => rfl
  | ok params =>
      rw [hbody] at h
      have hstatus : (201 : Nat) = 400 ∨ (201 : Nat) = 404 ∨ (201 : Nat) = 409 := h
      omega

/-- A refused request leaves the session table, the sessions and the open
descriptors as they are, but that the deadline of the feature it addresses may
have passed. -/
theorem refused_unchanged (pages : Pages c) (ρ : Registry c) (request : HttpRequest)
    (input : HttpInput) (h : (handleHttp host pages ρ request input).response.Refuses) :
    (handleHttp host pages ρ request input).registry.sessions = ρ.sessions ∧
      (handleHttp host pages ρ request input).registry.created = ρ.created ∧
      (handleHttp host pages ρ request input).launched = none ∧
      (Untouched ρ.shared (handleHttp host pages ρ request input).registry.shared ∨
        ∃ x, Addresses ρ request x ∧ TimedOutOnly input.now ρ.shared
          (handleHttp host pages ρ request input).registry.shared x) := by
  unfold handleHttp at h ⊢
  cases hroute : route pages ρ request with
  | createSession body =>
      rw [hroute] at h
      have hsame := createSession_refused h
      dsimp only
      rw [hsame]
      exact ⟨rfl, rfl, rfl, Or.inl (Untouched.refl _)⟩
  | request routed =>
      rw [hroute] at h
      rcases handleRequest_refused h with ⟨hlaunched, huntouched | ⟨x, hx, hexpired⟩⟩
      · exact ⟨rfl, rfl, hlaunched, Or.inl huntouched⟩
      · exact ⟨rfl, rfl, hlaunched, Or.inr ⟨x, addresses_of_route hroute hx, hexpired⟩⟩

/-! ## A refused start -/

/-- The small server with its one session, in which socket_create was started 25 s ago. -/
def abandonedRegistry : Registry sampleCatalog where
  shared := (sampleServer.step sampleHost
    ⟨seconds 0, .request (.feature socketCreate .start) []⟩).shared
  sessions := [(str "0123456789abcdef", 0)]
  created := 1

/-- socket_create is started again, after its deadline. -/
def startAgain : HttpRequest where
  method := str "POST"
  path := str "/v1/sessions/0123456789abcdef/features/socket_create/start"

theorem refused_unchanged_startAgain :
    (handleHttp sampleHost samplePages abandonedRegistry startAgain
        { now := seconds 25 }).response.status = 409 ∧
      (handleHttp sampleHost samplePages abandonedRegistry startAgain
        { now := seconds 25 }).registry.sessions = abandonedRegistry.sessions := by
  refine ⟨by decide, ?_⟩
  exact (refused_unchanged samplePages abandonedRegistry startAgain { now := seconds 25 }
    (by decide)).1

end SctpConformance
