import SctpConformance.Server.JsonEncode

/-!
# Session views

The texts of `SessionJson` and `SummaryJson`.  Both print one entry for each
feature of the catalog, in catalog order; the summary also counts the entries
by state.  The entries are parameters here, because the two functions read the
executions one at a time under their own locks.

Main results:

- Definition `countState`: how many entries of a summary are in a state.
- Definitions `sessionJson` and `summaryJson`: the texts.
-/

namespace SctpConformance

variable {c : Catalog}

/-- A feature of the catalog with the execution that was read for it. -/
abbrev Entry (c : Catalog) := c.Ref × FeatureExecution

/-- The path of the dashboard of a session. -/
def dashboardPath (sessionId : CppString) : CppString :=
  str "/sessions/" ++ sessionId ++ str "/dashboard"

/-- `FeatureJson` of an entry, without the contract. -/
def entryJson (entry : Entry c) : CppString :=
  featureJsonLocked (c.definition entry.1) entry.2 false

/-- The object of a session that is sent when it is created or asked for. -/
def sessionJson (session : Session c) (entries : List (Entry c)) : CppString :=
  str "\x7b\"session_id\":" ++ jsonQuote session.id ++
    str ",\"agent_name\":" ++ jsonQuote session.agentName ++
    str ",\"environment_name\":" ++ jsonQuote session.environmentName ++
    str ",\"created_at\":" ++ jsonQuote (isoTime session.createdAt) ++
    str ",\"active_feature_id\":" ++ jsonQuote session.activeFeatureId ++
    str ",\"dashboard_path\":" ++ jsonQuote (dashboardPath session.id) ++
    str ",\"features\":[" ++ commaSeparated (entries.map entryJson) ++ str "]\x7d"

/-- The counter that the loop of `SummaryJson` keeps for one state. -/
def countState (entries : List (Entry c)) (state : FeatureState) : Nat :=
  entries.countP fun entry => entry.2.state = state

/-- `SummaryJson`: the counts of a session, and its features. -/
def summaryJson (sessionId : CppString) (entries : List (Entry c)) : CppString :=
  let count := countState entries
  str "\x7b\"session_id\":" ++ jsonQuote sessionId ++
    str ",\"passed\":" ++ decimal (count .passed) ++
    str ",\"failed\":" ++ decimal (count .failed) ++
    str ",\"unsupported\":" ++ decimal (count .unsupported) ++
    str ",\"timed_out\":" ++ decimal (count .timedOut) ++
    str ",\"pending\":" ++ decimal (count .pending) ++
    str ",\"active\":" ++ decimal (count .active) ++
    str ",\"pending_or_active\":" ++ decimal (count .pending + count .active) ++
    str ",\"complete\":" ++ jsonBool (count .pending = 0 ∧ count .active = 0) ++
    str ",\"features\":[" ++ commaSeparated (entries.map entryJson) ++ str "]\x7d"

end SctpConformance
