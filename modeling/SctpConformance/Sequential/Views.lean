import SctpConformance.Json.Views
import SctpConformance.Sequential.Runs

/-!
# The two views of a session

`SummaryJson` applies the deadline of each feature before it reads its state;
`SessionJson` reads the states as they are, and the active feature from the id that the
session keeps.  The two agree as long as no deadline has passed unnoticed.

Main results:

- Theorem `summaryEntries_shown`: a summary shows each feature as its deadline leaves it.
- Theorem `active_shown`: the id that a session keeps is that of the active feature shown.
- Theorem `session_summary_agree_iff`: the views agree exactly if no active feature is
  overdue.
-/

namespace SctpConformance

variable {c : Catalog} {host : Host} {σ : Shared c} {s : Sequential c} {session : Nat}
  {now : TimePoint}

/-! ## What the views show -/

/-- The views of one session agree. -/
structure ViewsAgree (sessionView : SessionView) (summary : SummaryView) : Prop where
  states : sessionView.features = summary.features
  active :
    match summary.features.filter fun feature => feature.state = .active with
    | [] => sessionView.activeFeatureId = []
    | [feature] => sessionView.activeFeatureId = feature.id
    | _ => False

/-- An active feature whose deadline has come. -/
def Overdue (σ : Shared c) (now : TimePoint) (x : Target c) : Prop :=
  (σ.execution x).state = .active ∧ (σ.execution x).deadlineAt ≤ now

instance (σ : Shared c) (now : TimePoint) : DecidablePred (Overdue σ now) := fun _ =>
  inferInstanceAs (Decidable (_ ∧ _))

/-- The features of a session with their states. -/
def shownNow (σ : Shared c) (session : Nat) : List ShownFeature :=
  (List.finRange c.features.length).map fun r => ⟨c.id r, (σ.execution ⟨session, r⟩).state⟩

/-- The features of a session with the states that their deadlines leave them in. -/
def shownPolled (σ : Shared c) (session : Nat) (now : TimePoint) : List ShownFeature :=
  (List.finRange c.features.length).map fun r =>
    ⟨c.id r, ((σ.progress ⟨session, r⟩).poll now).state⟩

/-- A look at the clock changes the verdict of an overdue feature only. -/
theorem poll_state_eq_iff (x : Target c) :
    ((σ.progress x).poll now).state = (σ.execution x).state ↔ ¬Overdue σ now x := by
  rw [← state_progress]
  unfold Progress.poll
  by_cases hoverdue : (σ.progress x).state = .active ∧ (σ.progress x).deadlineAt ≤ now
  · rw [if_pos hoverdue]
    refine iff_of_false ?_ fun h => h ⟨by rw [← state_progress]; exact hoverdue.1, hoverdue.2⟩
    rw [hoverdue.1]
    simp
  · rw [if_neg hoverdue]
    refine iff_of_true rfl fun h => hoverdue ⟨?_, h.2⟩
    rw [state_progress]
    exact h.1

/-- Deadlines change nothing of what is shown exactly if none has come. -/
theorem shownPolled_eq_iff :
    shownPolled σ session now = shownNow σ session ↔ ∀ r, ¬Overdue σ now ⟨session, r⟩ := by
  unfold shownPolled shownNow
  rw [List.map_inj_left]
  constructor
  · intro h r
    have hr := h r (List.mem_finRange r)
    rw [ShownFeature.mk.injEq] at hr
    exact (poll_state_eq_iff _).mp hr.2
  · intro h r _
    rw [(poll_state_eq_iff ⟨session, r⟩).mpr (h r)]

/-- A summary shows each feature as its deadline leaves it. -/
theorem summaryEntries_shown (left : List c.Ref) (hnodup : left.Nodup)
    (entries : List (Entry c)) :
    (summaryEntries now session σ left entries).2.map shown =
      entries.map shown ++ left.map fun r =>
        ⟨c.id r, ((σ.progress ⟨session, r⟩).poll now).state⟩ := by
  induction left generalizing σ entries with
  | nil => simp [summaryEntries]
  | cons r left ih =>
      rcases List.nodup_cons.mp hnodup with ⟨hr, hleft⟩
      rw [summaryEntries, ih hleft]
      have hone : ((σ.maybeTimeout now ⟨session, r⟩).execution ⟨session, r⟩).state =
          ((σ.progress ⟨session, r⟩).poll now).state := by
        rw [← state_progress, progress_maybeTimeout, if_pos rfl]
      -- the deadline of one feature is not that of another
      have hrest : ∀ r' ∈ left, (σ.maybeTimeout now ⟨session, r⟩).progress ⟨session, r'⟩ =
          σ.progress ⟨session, r'⟩ := by
        intro r' hr'
        rw [progress_maybeTimeout, if_neg]
        intro heq
        cases heq
        exact hr hr'
      rw [List.map_append, List.append_assoc, List.map_cons, List.map_nil, List.singleton_append,
        List.map_cons, shown, hone]
      refine congrArg _ (congrArg _ (List.map_congr_left fun r' hr' => ?_))
      rw [hrest r' hr']

/-! ## The active feature -/

/-- The id that a session keeps is that of the active feature, if one is shown. -/
theorem active_shown (h : Tidy σ) (session : Nat) :
    match (shownNow σ session).filter fun feature => feature.state = .active with
    | [] => σ.activeId session = []
    | [feature] => σ.activeId session = feature.id
    | _ => False := by
  have hfilter : (shownNow σ session).filter (fun feature => feature.state = .active) =
      ((List.finRange c.features.length).filter fun r =>
        (σ.execution ⟨session, r⟩).state = .active).map fun r =>
          ⟨c.id r, (σ.execution ⟨session, r⟩).state⟩ := List.filter_map ..
  by_cases hsome : ∃ r, (σ.execution ⟨session, r⟩).state = .active
  · rcases hsome with ⟨r, hr⟩
    have hone : ∀ r' ∈ List.finRange c.features.length,
        decide ((σ.execution ⟨session, r'⟩).state = .active) = (r' == r) := by
      intro r' _
      by_cases hactive : (σ.execution ⟨session, r'⟩).state = .active
      · have heq := h.active_unique (x := ⟨session, r⟩) (y := ⟨session, r'⟩) rfl hr hactive
        cases heq
        simp [hactive]
      · have hne : r' ≠ r := fun heq => hactive (heq ▸ hr)
        simp [hactive, hne]
    rw [hfilter, List.filter_congr hone, List.filter_beq,
      List.count_eq_one_of_mem (List.nodup_finRange _) (List.mem_finRange r)]
    exact (h.named ⟨session, r⟩).mpr hr
  · push Not at hsome
    have hnone : ∀ r ∈ List.finRange c.features.length,
        ¬decide ((σ.execution ⟨session, r⟩).state = .active) = true := by
      intro r _
      simp [hsome r]
    rw [hfilter, List.filter_eq_nil_iff.mpr hnone]
    exact h.activeId_eq_nil hsome

/-! ## Agreement -/

/-- The session view shows the states as they are. -/
theorem handle_session_read (host : Host) (now : TimePoint) (s : Sequential c) (session : Nat)
    (calls : List SocketCalls) :
    SessionView.read (s.handle host now (.session session) calls).2.body =
      some ⟨s.shared.activeId session, shownNow s.shared session⟩ := by
  have hbody : (s.handle host now (.session session) calls).2.body =
      sessionJson (s.shared.sessions session) ((List.finRange c.features.length).map fun r =>
        (r, (s.shared.sessions session).features r)) := rfl
  rw [hbody, sessionJson_read, List.map_map]
  rfl

/-- The summary shows the states that the deadlines leave. -/
theorem handle_summary_read (host : Host) (now : TimePoint) (s : Sequential c) (session : Nat)
    (calls : List SocketCalls) :
    ∃ summary, SummaryView.read (s.handle host now (.summary session) calls).2.body =
        some summary ∧
      summary.features = shownPolled s.shared session now := by
  have hbody : (s.handle host now (.summary session) calls).2.body =
      summaryJson ((summaryEntries now session (s.shared.openDescriptor .other)
          (List.finRange c.features.length) []).1.sessions session).id
        (summaryEntries now session (s.shared.openDescriptor .other)
          (List.finRange c.features.length) []).2 := rfl
  rw [hbody, summaryJson_read]
  exact ⟨_, rfl, summaryEntries_shown _ (List.nodup_finRange _) []⟩

/-- In a tidy state the views agree exactly if no active feature is overdue. -/
theorem Tidy.views_agree_iff (h : Tidy σ) {summary : SummaryView}
    (hsummary : summary.features = shownPolled σ session now) :
    ViewsAgree ⟨σ.activeId session, shownNow σ session⟩ summary ↔
      ∀ r, ¬Overdue σ now ⟨session, r⟩ := by
  rw [← shownPolled_eq_iff]
  constructor
  · intro hagree
    exact hsummary.symm.trans hagree.states.symm
  · intro hsame
    refine ⟨(hsummary.trans hsame).symm, ?_⟩
    rw [hsummary, hsame]
    exact active_shown h session

/-- In every reachable state, and at every time, the two views of a session agree exactly if
no active feature of the session has reached its deadline. -/
theorem session_summary_agree_iff (host : Host) {start : Sequential c} (hstart : start.Initial)
    (events : List (Timed c)) (now : TimePoint) (session : Nat) :
    let s := start.run host events
    let first := s.handle host now (.session session) []
    let second := first.1.handle host now (.summary session) []
    ∃ sessionView summary, SessionView.read first.2.body = some sessionView ∧
      SummaryView.read second.2.body = some summary ∧
      (ViewsAgree sessionView summary ↔ ∀ r, ¬Overdue s.shared now ⟨session, r⟩) := by
  intro s first second
  have horderly : Orderly s := Sequential.run_orderly (orderly_of_initial hstart) host events
  rcases handle_summary_read host now first.1 session [] with ⟨summary, hread, hsummary⟩
  exact ⟨_, summary, handle_session_read host now s session [], hread,
    horderly.tidy.views_agree_iff hsummary⟩

/-! ## A deadline that has passed unnoticed -/

/-- A feature is started and nothing happens after that. -/
def startedOnce : List (Timed sampleCatalog) :=
  [⟨0, .request (.feature socketCreate .start) []⟩]

theorem session_summary_agree_iff_startedOnce :
    let s := sampleServer.run sampleHost startedOnce
    let first := s.handle sampleHost (seconds 20) (.session 0) []
    let second := first.1.handle sampleHost (seconds 20) (.summary 0) []
    ∃ sessionView summary, SessionView.read first.2.body = some sessionView ∧
      SummaryView.read second.2.body = some summary ∧
      (ViewsAgree sessionView summary ↔ ∀ r, ¬Overdue s.shared (seconds 20) ⟨0, r⟩) :=
  session_summary_agree_iff sampleHost sampleServer_initial startedOnce (seconds 20) 0

/-- At its deadline the feature is active in one view and timed out in the other. -/
theorem views_disagree :
    ¬∀ (c : Catalog) (host : Host) (start : Sequential c) (events : List (Timed c))
      (now : TimePoint) (session : Nat), start.Initial →
      let s := start.run host events
      let first := s.handle host now (.session session) []
      let second := first.1.handle host now (.summary session) []
      ∃ sessionView summary, SessionView.read first.2.body = some sessionView ∧
        SummaryView.read second.2.body = some summary ∧ ViewsAgree sessionView summary := by
  intro hall
  rcases hall sampleCatalog sampleHost sampleServer startedOnce (seconds 20) 0
    sampleServer_initial with ⟨sessionView, summary, hsession, hsummary, hagree⟩
  have horderly : Orderly (sampleServer.run sampleHost startedOnce) :=
    Sequential.run_orderly (orderly_of_initial sampleServer_initial) sampleHost startedOnce
  rcases handle_summary_read sampleHost (seconds 20) ((sampleServer.run sampleHost
    startedOnce).handle sampleHost (seconds 20) (.session 0) []).1 0 [] with
    ⟨summary', hread, hpolled⟩
  rw [handle_session_read] at hsession
  rw [hread] at hsummary
  cases hsession
  cases hsummary
  exact (horderly.tidy.views_agree_iff hpolled).mp hagree socketCreate.feature (by decide)

end SctpConformance
