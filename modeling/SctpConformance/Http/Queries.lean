import SctpConformance.Http.Server

/-!
# Query strings

`split_path` ends at the first question mark, so whatever is routed by the parts of the
path is routed without its query.  Four routes compare the whole target instead.

Main results:

- Theorem `splitPath_query`: the parts of a path do not depend on its query.
- Theorem `route_query`: the routes that go by the parts do not either.
- Theorem `queryIgnored_iff`: a query changes what a request asks for exactly on the
  routes that compare the whole target.
-/

namespace SctpConformance

variable {c : Catalog}

/-! ## The parts of a path -/

/-- A question mark ends the path. -/
theorem splitPathLoop_query (path query current : CppString) (parts : List CppString) :
    splitPathLoop (path ++ 63 :: query) current parts = splitPathLoop path current parts := by
  induction path generalizing current parts with
  | nil => simp [splitPathLoop]
  | cons ch path ih =>
      rw [List.cons_append, splitPathLoop, splitPathLoop]
      split
      · rfl
      · split
        · split
          · exact ih [] parts
          · exact ih [] (parts ++ [current])
        · exact ih (current ++ [ch]) parts

/-- The parts of a path do not depend on its query. -/
theorem splitPath_query (path query : CppString) :
    splitPath (path ++ 63 :: query) = splitPath path :=
  splitPathLoop_query path query [] []

/-! ## Targets with a query -/

/-- The request with a question mark and a query behind its target. -/
def HttpRequest.withQuery (request : HttpRequest) (query : CppString) : HttpRequest :=
  { request with path := request.path ++ 63 :: query }

/-- The requests that `HandleRequest` recognizes by their whole target. -/
def HttpRequest.ComparedWhole (request : HttpRequest) : Prop :=
  (request.method = str "GET" ∧
    (request.path = str "/" ∨ request.path = str "/healthz" ∨
      request.path = str "/v1/features")) ∨
  (request.method = str "POST" ∧ request.path = str "/v1/sessions")

instance (request : HttpRequest) : Decidable request.ComparedWhole :=
  inferInstanceAs (Decidable (_ ∨ _))

/-- A target with a query is none of the four. -/
theorem not_comparedWhole_withQuery (request : HttpRequest) (query : CppString) :
    ¬(request.withQuery query).ComparedWhole := by
  have hmem : 63 ∈ (request.withQuery query).path :=
    List.mem_append_right _ List.mem_cons_self
  have hne : ∀ target : CppString, 63 ∉ target → (request.withQuery query).path ≠ target := by
    rintro target htarget rfl
    exact htarget hmem
  rintro (⟨-, h | h | h⟩ | ⟨-, h⟩)
  · exact hne _ (by decide) h
  · exact hne _ (by decide) h
  · exact hne _ (by decide) h
  · exact hne _ (by decide) h

/-- The branches of `HandleRequest` that go by the parts of the path. -/
def partsRoute (pages : Pages c) (ρ : Registry c) (parts : List CppString)
    (request : HttpRequest) : Route c :=
  if parts.length = 3 ∧ parts.getD 0 [] = str "sessions" ∧ parts.getD 2 [] = str "dashboard" ∧
      request.method = str "GET" then
    match ρ.findSession (parts.getD 1 []) with
    | none => .request (.other (errorResponse 404 (str "unknown session")))
    | some session =>
        .request (.other (htmlResponse (pages.dashboard (ρ.shared.sessions session))))
  else if 3 ≤ parts.length ∧ parts.getD 0 [] = str "v1" ∧ parts.getD 1 [] = str "sessions" then
    match ρ.findSession (parts.getD 2 []) with
    | none => .request (.other (errorResponse 404 (str "unknown session")))
    | some session => .request (sessionRoute c parts request session)
  else .request (.other (errorResponse 404 (str "unknown route")))

/-- A request that is not recognized by its whole target is routed by the parts. -/
theorem route_of_not_comparedWhole (pages : Pages c) (ρ : Registry c) {request : HttpRequest}
    (h : ¬request.ComparedWhole) :
    route pages ρ request = partsRoute pages ρ (splitPath request.path) request := by
  simp only [HttpRequest.ComparedWhole, not_or, not_and] at h
  obtain ⟨hget, hpost⟩ := h
  have hindex : ¬(request.method = str "GET" ∧ request.path = str "/") :=
    fun hboth => (hget hboth.1).1 hboth.2
  have hhealth : ¬(request.method = str "GET" ∧ request.path = str "/healthz") :=
    fun hboth => (hget hboth.1).2.1 hboth.2
  have hfeatures : ¬(request.method = str "GET" ∧ request.path = str "/v1/features") :=
    fun hboth => (hget hboth.1).2.2 hboth.2
  have hsessions : ¬(request.method = str "POST" ∧ request.path = str "/v1/sessions") :=
    fun hboth => hpost hboth.1 hboth.2
  unfold route partsRoute
  refine (if_neg hindex).trans (if_congr Iff.rfl rfl ?_)
  refine (if_neg hhealth).trans ?_
  refine (if_neg hfeatures).trans ?_
  exact if_neg hsessions

/-- A query does not change the route of a request that goes by the parts. -/
theorem route_query (pages : Pages c) (ρ : Registry c) {request : HttpRequest}
    (h : ¬request.ComparedWhole) (query : CppString) :
    route pages ρ (request.withQuery query) = route pages ρ request := by
  rw [route_of_not_comparedWhole pages ρ (not_comparedWhole_withQuery request query),
    route_of_not_comparedWhole pages ρ h]
  have hparts : splitPath (request.withQuery query).path = splitPath request.path :=
    splitPath_query request.path query
  rw [hparts]
  rfl

/-- Nor does it change which requests are for a summary stream. -/
theorem clientRoute_query (pages : Pages c) (ρ : Registry c) {request : HttpRequest}
    (h : ¬request.ComparedWhole) (query : CppString) :
    clientRoute pages ρ (request.withQuery query) = clientRoute pages ρ request := by
  have hparts : splitPath (request.withQuery query).path = splitPath request.path :=
    splitPath_query request.path query
  unfold clientRoute
  rw [hparts, route_query pages ρ h]
  rfl

/-! ## Which queries are ignored -/

/-- The request with the query asks the same handler for the same thing as the request
without it, and gets the same response. -/
structure QueryIgnored (pages : Pages c) (ρ : Registry c) (request : HttpRequest)
    (query : CppString) : Prop where
  dispatched : clientRoute pages ρ (request.withQuery query) = clientRoute pages ρ request
  answered : ∀ (host : Host) (input : HttpInput),
    (handleHttp host pages ρ (request.withQuery query) input).response =
      (handleHttp host pages ρ request input).response

/-- The four targets are too short for a summary stream. -/
theorem clientRoute_of_comparedWhole (pages : Pages c) (ρ : Registry c) {request : HttpRequest}
    (h : request.ComparedWhole) : clientRoute pages ρ request = route pages ρ request := by
  have hshort : (splitPath request.path).length ≠ 5 := by
    rcases h with ⟨-, h | h | h⟩ | ⟨-, h⟩ <;> rw [h] <;> decide
  unfold clientRoute
  simp only [hshort, false_and, and_false, if_false]

/-- With a query the four targets are unknown. -/
theorem clientRoute_comparedWhole_query (pages : Pages c) (ρ : Registry c)
    {request : HttpRequest} (h : request.ComparedWhole) (query : CppString) :
    clientRoute pages ρ (request.withQuery query) =
      .request (.other (errorResponse 404 (str "unknown route"))) := by
  have hparts : splitPath (request.withQuery query).path = splitPath request.path :=
    splitPath_query request.path query
  have hshort : (splitPath request.path).length < 3 := by
    rcases h with ⟨-, h | h | h⟩ | ⟨-, h⟩ <;> rw [h] <;> decide
  have hfive : (splitPath request.path).length ≠ 5 := by omega
  have hthree : (splitPath request.path).length ≠ 3 := by omega
  unfold clientRoute
  simp only [hparts, hfive, false_and, and_false, if_false]
  rw [route_of_not_comparedWhole pages ρ (not_comparedWhole_withQuery request query), hparts]
  unfold partsRoute
  simp only [hthree, Nat.not_le.mpr hshort, false_and, if_false]

/-- Without a query the four targets are known. -/
theorem route_comparedWhole_ne (pages : Pages c) (ρ : Registry c) {request : HttpRequest}
    (h : request.ComparedWhole) :
    route pages ρ request ≠ .request (.other (errorResponse 404 (str "unknown route"))) := by
  have hstatus : ∀ response : HttpResponse, response.status = 200 →
      (Route.request (.other response) : Route c) ≠
        .request (.other (errorResponse 404 (str "unknown route"))) := by
    intro response hresponse heq
    cases heq
    contradiction
  unfold route
  rcases h with ⟨hmethod, hpath | hpath | hpath⟩ | ⟨hmethod, hpath⟩
  · rw [if_pos ⟨hmethod, hpath⟩]
    exact hstatus _ rfl
  · rw [hpath, hmethod, if_neg (by decide), if_neg (by decide), if_pos (by decide)]
    exact hstatus _ rfl
  · rw [hpath, hmethod, if_neg (by decide), if_neg (by decide), if_neg (by decide),
      if_pos (by decide)]
    exact hstatus _ rfl
  · rw [hpath, hmethod, if_neg (by decide), if_neg (by decide), if_neg (by decide),
      if_neg (by decide), if_pos (by decide)]
    intro heq
    cases heq

/-- A query is ignored if and only if the request without it is not one of the four that
are recognized by their whole target: `GET /`, `GET /healthz`, `GET /v1/features` and
`POST /v1/sessions`. -/
theorem queryIgnored_iff (pages : Pages c) (ρ : Registry c) (request : HttpRequest)
    (query : CppString) : QueryIgnored pages ρ request query ↔ ¬request.ComparedWhole := by
  constructor
  · intro hignored hcompared
    have hdispatched := hignored.dispatched
    rw [clientRoute_comparedWhole_query pages ρ hcompared,
      clientRoute_of_comparedWhole pages ρ hcompared] at hdispatched
    exact route_comparedWhole_ne pages ρ hcompared hdispatched.symm
  · intro hcompared
    refine ⟨clientRoute_query pages ρ hcompared query, fun host input => ?_⟩
    unfold handleHttp
    rw [route_query pages ρ hcompared query]

/-- A probe that adds a query to the health check gets an error. -/
theorem query_not_ignored :
    ¬QueryIgnored samplePages { shared := sampleShared }
      { method := str "GET", path := str "/healthz" } (str "probe=1") := by
  intro hignored
  have hstatus := congrArg HttpResponse.status (hignored.answered sampleHost {})
  revert hstatus
  decide

end SctpConformance
