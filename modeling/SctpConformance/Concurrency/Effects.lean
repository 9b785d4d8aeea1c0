import SctpConformance.Server.Concurrent

/-!
# What the sections do

One lemma for each part of the shared state: the only ways in which a section
can change it, with what the section puts in front of the rest when it does.
The invariants of the concurrent server are derived from these lemmas; no later
proof unfolds a section.

Main results:

- Theorem `exec_state`: a section changes the state of a feature only by
  activating it or by ending it, and ending it leads to `finish`.
- Theorem `exec_flags`: the completion flags are set and a feature passes only by
  `mark_network_complete` or an accepted report.
- Theorem `exec_activeId`: `active_feature_id` is written by a start and cleared
  for the feature it names.
- Theorem `exec_activeFds`: descriptors are published by a start and taken away
  to be closed.
- Theorem `exec_descriptors`: the descriptor table changes by one socket opened
  or one descriptor closed.
-/

namespace SctpConformance

open Library

variable {c : Catalog} {host : Host} {σ : Shared c} {s : Section c} {input : Input}

/-! ## The parts of the shared state -/

namespace Shared

/-- Only this execution is replaced. -/
@[simp]
theorem execution_setExecution (x y : Target c) (e : FeatureExecution) :
    (σ.setExecution x e).execution y = if y = x then e else σ.execution y := by
  rcases x with ⟨session, feature⟩
  rcases y with ⟨session', feature'⟩
  by_cases hsession : session' = session
  · subst hsession
    by_cases hfeature : feature' = feature
    · subst hfeature
      simp [execution, setExecution]
    · simp [execution, setExecution, hfeature]
  · simp [execution, setExecution, hsession]

/-- The name of the active feature is no part of an execution. -/
@[simp]
theorem execution_setActiveId (session : Nat) (id : CppString) (x : Target c) :
    (σ.setActiveId session id).execution x = σ.execution x := by
  by_cases hsession : x.session = session
  · subst hsession
    simp [execution, setActiveId]
  · simp [execution, setActiveId, hsession]

/-- Neither is a descriptor. -/
@[simp]
theorem execution_openDescriptor (d : Descriptor c) (x : Target c) :
    (σ.openDescriptor d).execution x = σ.execution x :=
  rfl

/-- Nor is a listening socket. -/
@[simp]
theorem execution_openListening (owner x : Target c) :
    (σ.openListening owner).execution x = σ.execution x :=
  rfl

/-- Closing a descriptor changes no execution. -/
@[simp]
theorem execution_closeDescriptor (fd : Nat) (x : Target c) :
    (σ.closeDescriptor fd).execution x = σ.execution x :=
  rfl

/-- An execution does not name itself. -/
@[simp]
theorem activeId_setExecution (x : Target c) (e : FeatureExecution) (session : Nat) :
    (σ.setExecution x e).activeId session = σ.activeId session := by
  by_cases hsession : session = x.session
  · subst hsession
    simp [activeId, setExecution]
  · simp [activeId, setExecution, hsession]

/-- Only this session gets another active feature. -/
@[simp]
theorem activeId_setActiveId (session session' : Nat) (id : CppString) :
    (σ.setActiveId session id).activeId session' =
      if session' = session then id else σ.activeId session' := by
  by_cases hsession : session' = session
  · subst hsession
    simp [activeId, setActiveId]
  · simp [activeId, setActiveId, hsession]

/-- A new descriptor names no feature. -/
@[simp]
theorem activeId_openDescriptor (d : Descriptor c) (session : Nat) :
    (σ.openDescriptor d).activeId session = σ.activeId session :=
  rfl

/-- Neither does a listening socket. -/
@[simp]
theorem activeId_openListening (owner : Target c) (session : Nat) :
    (σ.openListening owner).activeId session = σ.activeId session :=
  rfl

/-- Nor does one that is closed. -/
@[simp]
theorem activeId_closeDescriptor (fd session : Nat) :
    (σ.closeDescriptor fd).activeId session = σ.activeId session :=
  rfl

/-- The descriptors are no part of an execution. -/
@[simp]
theorem descriptors_setExecution (x : Target c) (e : FeatureExecution) :
    (σ.setExecution x e).descriptors = σ.descriptors :=
  rfl

/-- Nor are they part of a name. -/
@[simp]
theorem descriptors_setActiveId (session : Nat) (id : CppString) :
    (σ.setActiveId session id).descriptors = σ.descriptors :=
  rfl

/-- An execution opens no sockets. -/
@[simp]
theorem opened_setExecution (x : Target c) (e : FeatureExecution) :
    (σ.setExecution x e).opened = σ.opened :=
  rfl

/-- Neither does a name. -/
@[simp]
theorem opened_setActiveId (session : Nat) (id : CppString) :
    (σ.setActiveId session id).opened = σ.opened :=
  rfl

end Shared

/-! ## The state of a feature -/

variable (host σ s input)

/-- A section changes the state of a feature only by activating it or by ending
it.  Only a feature without a verdict is ended, and whoever ends it has its
descriptors to take and its `active_feature_id` to clear. -/
theorem exec_state (x : Target c) :
    (((exec host σ s input).shared.execution x).state = (σ.execution x).state) ∨
    ((∃ h sockets, s = .activate h sockets ∧ h.target = x) ∧
      ((exec host σ s input).shared.execution x).state = .active) ∨
    (((σ.execution x).state = .pending ∨ (σ.execution x).state = .active) ∧
      ((exec host σ s input).shared.execution x).state.Terminal ∧
      ∃ tail, (exec host σ s input).next = finish x ++ tail) := by
  cases s with
  | maybeTimeout y =>
      simp only [exec]
      split
      · exact Or.inl rfl
      · rename_i e htimeout
        rcases FeatureExecution.timeOut_eq_some_iff.mp htimeout with ⟨hactive, -, rfl⟩
        by_cases hxy : x = y
        · subst hxy
          exact Or.inr (Or.inr ⟨Or.inr hactive, by simp [FeatureState.Terminal], [], rfl⟩)
        · exact Or.inl (by simp [hxy])
  | activate h sockets =>
      by_cases hx : x = h.target
      · exact Or.inr (Or.inl ⟨⟨h, sockets, rfl, hx.symm⟩, by simp [exec, hx]⟩)
      · exact Or.inl (by simp [exec, hx])
  | complete h body =>
      simp only [exec]
      split
      · exact Or.inl rfl
      · split
        · exact Or.inl rfl
        · rename_i e finished hcomplete
          have haccepted := FeatureExecution.complete_accepted hcomplete
          by_cases hx : x = h.target
          · subst hx
            rcases haccepted.2.2.2.2.2.2.2 with ⟨rfl, hstate, -⟩ | ⟨rfl, hstate, -⟩
            · exact Or.inr (Or.inr ⟨Or.inr haccepted.1,
                by simp [hstate, FeatureState.Terminal], [.readFeature h], rfl⟩)
            · exact Or.inl (by simp [hstate, haccepted.1])
          · exact Or.inl (by simp [hx])
  | unsupported h body =>
      simp only [exec]
      split
      · exact Or.inl rfl
      · split
        · exact Or.inl rfl
        · rename_i e hunsupported
          rcases FeatureExecution.markUnsupported_accepted hunsupported with ⟨hstate, rfl⟩
          by_cases hx : x = h.target
          · subst hx
            exact Or.inr (Or.inr ⟨hstate, by simp [FeatureState.Terminal], [.readFeature h], rfl⟩)
          · exact Or.inl (by simp [hx])
  | markFailed y message =>
      simp only [exec]
      split
      · exact Or.inl rfl
      · rename_i e hfail
        rcases FeatureExecution.fail_eq_some_iff.mp hfail with ⟨hactive, rfl⟩
        by_cases hxy : x = y
        · subst hxy
          exact Or.inr (Or.inr ⟨Or.inr hactive, by simp [FeatureState.Terminal], [], rfl⟩)
        · exact Or.inl (by simp [hxy])
  | markNetworkComplete y =>
      simp only [exec]
      split
      · exact Or.inl rfl
      · rename_i e finished hobserve
        have hobserved := FeatureExecution.observe_eq_some hobserve
        by_cases hxy : x = y
        · subst hxy
          rcases hobserved.2.2.2.2.2 with ⟨rfl, hstate, -⟩ | ⟨rfl, hstate, -⟩
          · exact Or.inr (Or.inr ⟨Or.inr hobserved.1,
              by simp [hstate, FeatureState.Terminal], [], rfl⟩)
          · exact Or.inl (by simp [hstate, hobserved.1])
        · exact Or.inl (by simp [hxy])
  | adjustMessage h =>
      rcases FeatureExecution.adjustMessage_eq (σ.execution h.target)
        (c.definition h.target.feature) with ⟨message, hmessage⟩
      refine Or.inl ?_
      by_cases hx : x = h.target <;> simp [exec, hmessage, hx]
  | takeActiveFds y => exact Or.inl (by by_cases hx : x = y <;> simp [exec, hx])
  | setActiveFds h sockets => exact Or.inl (by by_cases hx : x = h.target <;> simp [exec, hx])
  | setContract h contract => exact Or.inl (by by_cases hx : x = h.target <;> simp [exec, hx])
  | _ => exact Or.inl (by simp only [exec] <;> (repeat' split) <;> simp)

/-- The two completion flags are set, and a feature passes, only by what
`mark_network_complete` or an accepted report makes of the feature. -/
theorem exec_flags (x : Target c) :
    (((exec host σ s input).shared.execution x).networkComplete =
        (σ.execution x).networkComplete ∧
      ((exec host σ s input).shared.execution x).agentComplete =
        (σ.execution x).agentComplete ∧
      (((exec host σ s input).shared.execution x).state = .passed →
        (σ.execution x).state = .passed)) ∨
    (s = .markNetworkComplete x ∧ ∃ finished,
      (σ.execution x).observe (c.definition x.feature) input.now =
        some ((exec host σ s input).shared.execution x, finished)) ∨
    (∃ h body report finished, s = .complete h body ∧ h.target = x ∧
      parseCompleteReport body = .ok report ∧
      (σ.execution x).complete (c.definition x.feature) report input.now =
        .ok ((exec host σ s input).shared.execution x, finished)) := by
  cases s with
  | maybeTimeout y =>
      refine Or.inl ?_
      simp only [exec]
      split
      · exact ⟨rfl, rfl, id⟩
      · rename_i e htimeout
        rcases FeatureExecution.timeOut_eq_some_iff.mp htimeout with ⟨-, -, rfl⟩
        by_cases hx : x = y <;> simp [hx]
  | activate h sockets =>
      refine Or.inl ?_
      by_cases hx : x = h.target <;> simp [exec, hx, FeatureExecution.activate]
  | complete h body =>
      simp only [exec]
      split
      · exact Or.inl ⟨rfl, rfl, id⟩
      · rename_i report hreport
        split
        · exact Or.inl ⟨rfl, rfl, id⟩
        · rename_i e finished hcomplete
          by_cases hx : x = h.target
          · subst hx
            exact Or.inr (Or.inr ⟨h, body, report, finished, rfl, rfl, hreport,
              by simpa using hcomplete⟩)
          · exact Or.inl (by simp [hx])
  | unsupported h body =>
      refine Or.inl ?_
      simp only [exec]
      split
      · exact ⟨rfl, rfl, id⟩
      · split
        · exact ⟨rfl, rfl, id⟩
        · rename_i e hunsupported
          rcases FeatureExecution.markUnsupported_accepted hunsupported with ⟨-, rfl⟩
          by_cases hx : x = h.target <;> simp [hx]
  | markFailed y message =>
      refine Or.inl ?_
      simp only [exec]
      split
      · exact ⟨rfl, rfl, id⟩
      · rename_i e hfail
        rcases FeatureExecution.fail_eq_some_iff.mp hfail with ⟨-, rfl⟩
        by_cases hx : x = y <;> simp [hx]
  | markNetworkComplete y =>
      simp only [exec]
      split
      · exact Or.inl ⟨rfl, rfl, id⟩
      · rename_i e finished hobserve
        by_cases hx : x = y
        · subst hx
          exact Or.inr (Or.inl ⟨rfl, finished, by simpa using hobserve⟩)
        · exact Or.inl (by simp [hx])
  | adjustMessage h =>
      rcases FeatureExecution.adjustMessage_eq (σ.execution h.target)
        (c.definition h.target.feature) with ⟨message, hmessage⟩
      refine Or.inl ?_
      by_cases hx : x = h.target <;> simp [exec, hmessage, hx]
  | takeActiveFds y => exact Or.inl (by by_cases hx : x = y <;> simp [exec, hx])
  | setActiveFds h sockets => exact Or.inl (by by_cases hx : x = h.target <;> simp [exec, hx])
  | setContract h contract => exact Or.inl (by by_cases hx : x = h.target <;> simp [exec, hx])
  | _ =>
      refine Or.inl ?_
      simp only [exec]
      (repeat' split) <;> simp

/-! ## The other parts of the shared state -/

/-- `active_feature_id` is written by a start and cleared for the feature it names. -/
theorem exec_activeId (session : Nat) :
    ((exec host σ s input).shared.activeId session = σ.activeId session) ∨
    (∃ h sockets, s = .setActiveFeature h sockets ∧ h.target.session = session ∧
      (exec host σ s input).shared.activeId session = c.id h.target.feature) ∨
    (∃ x, s = .clearActiveFeature x ∧ x.session = session ∧
      σ.activeId session = c.id x.feature ∧
      (exec host σ s input).shared.activeId session = []) := by
  cases s with
  | setActiveFeature h sockets =>
      by_cases hsession : session = h.target.session
      · exact Or.inr (Or.inl ⟨h, sockets, rfl, hsession.symm, by simp [exec, hsession]⟩)
      · exact Or.inl (by simp [exec, hsession])
  | clearActiveFeature x =>
      by_cases hsession : session = x.session
      · subst hsession
        by_cases hid : σ.activeId x.session = c.id x.feature
        · exact Or.inr (Or.inr ⟨x, rfl, rfl, hid, by simp [exec, hid]⟩)
        · exact Or.inl (by simp [exec, hid])
      · exact Or.inl (by simp only [exec]; split <;> simp [hsession])
  | _ => exact Or.inl (by simp only [exec] <;> (repeat' split) <;> simp)

/-- After `clear_active_feature` the session does not name the feature. -/
theorem exec_clearActiveFeature (x : Target c) :
    (exec host σ (.clearActiveFeature x) input).shared.activeId x.session ≠ c.id x.feature := by
  simp only [exec]
  split
  · simpa using (c.id_ne_nil x.feature).symm
  · assumption

/-- Descriptors are published by a start and taken away to be closed. -/
theorem exec_activeFds (x : Target c) :
    (((exec host σ s input).shared.execution x).activeFds = (σ.execution x).activeFds) ∨
    (∃ h sockets, s = .setActiveFds h sockets ∧ h.target = x ∧
      ((exec host σ s input).shared.execution x).activeFds =
        sockets.map ListeningSocket.fd) ∨
    (s = .takeActiveFds x ∧ ((exec host σ s input).shared.execution x).activeFds = [] ∧
      (exec host σ s input).next = (σ.execution x).activeFds.map (.closeFd x)) := by
  cases s with
  | takeActiveFds y =>
      by_cases hx : x = y
      · subst hx
        exact Or.inr (Or.inr ⟨rfl, by simp [exec], rfl⟩)
      · exact Or.inl (by simp [exec, hx])
  | setActiveFds h sockets =>
      by_cases hx : x = h.target
      · exact Or.inr (Or.inl ⟨h, sockets, rfl, hx.symm, by simp [exec, hx]⟩)
      · exact Or.inl (by simp [exec, hx])
  | maybeTimeout y =>
      simp only [exec]
      split
      · exact Or.inl rfl
      · rename_i e htimeout
        rcases FeatureExecution.timeOut_eq_some_iff.mp htimeout with ⟨-, -, rfl⟩
        exact Or.inl (by by_cases hx : x = y <;> simp [hx])
  | activate h sockets => exact Or.inl (by by_cases hx : x = h.target <;> simp [exec, hx])
  | complete h body =>
      simp only [exec]
      split
      · exact Or.inl rfl
      · split
        · exact Or.inl rfl
        · rename_i hcomplete
          have haccepted := FeatureExecution.complete_accepted hcomplete
          exact Or.inl (by by_cases hx : x = h.target <;> simp [hx, haccepted])
  | unsupported h body =>
      simp only [exec]
      split
      · exact Or.inl rfl
      · split
        · exact Or.inl rfl
        · rename_i hunsupported
          rcases FeatureExecution.markUnsupported_accepted hunsupported with ⟨-, rfl⟩
          exact Or.inl (by by_cases hx : x = h.target <;> simp [hx])
  | markFailed y message =>
      simp only [exec]
      split
      · exact Or.inl rfl
      · rename_i hfail
        rcases FeatureExecution.fail_eq_some_iff.mp hfail with ⟨-, rfl⟩
        exact Or.inl (by by_cases hx : x = y <;> simp [hx])
  | markNetworkComplete y =>
      simp only [exec]
      split
      · exact Or.inl rfl
      · rename_i hobserve
        have hobserved := FeatureExecution.observe_eq_some hobserve
        exact Or.inl (by by_cases hx : x = y <;> simp [hx, hobserved])
  | adjustMessage h =>
      rcases FeatureExecution.adjustMessage_eq (σ.execution h.target)
        (c.definition h.target.feature) with ⟨message, hmessage⟩
      exact Or.inl (by by_cases hx : x = h.target <;> simp [exec, hmessage, hx])
  | setContract h contract => exact Or.inl (by by_cases hx : x = h.target <;> simp [exec, hx])
  | _ => exact Or.inl (by simp only [exec] <;> (repeat' split) <;> simp)

/-- The execution in whose record a section publishes descriptors. -/
def Section.publishes : Section c → Option (Target c)
  | .setActiveFds h _ => some h.target
  | _ => none

/-- The execution from whose record a section takes the descriptors. -/
def Section.takes : Section c → Option (Target c)
  | .takeActiveFds x => some x
  | _ => none

variable {s} in
/-- Other sections leave the published descriptors alone. -/
theorem exec_activeFds_of_none (hpublishes : s.publishes = none) (htakes : s.takes = none)
    (x : Target c) :
    ((exec host σ s input).shared.execution x).activeFds = (σ.execution x).activeFds := by
  rcases exec_activeFds host σ s input x with hsame | ⟨h, sockets, rfl, -, -⟩ | ⟨rfl, -, -⟩
  · exact hsame
  · simp [Section.publishes] at hpublishes
  · simp [Section.takes] at htakes

/-- The execution for which a section opens a socket. -/
def Section.opens : Section c → Option (Target c)
  | .openSocket h _ => some h.target
  | _ => none

/-- The descriptor that a section closes. -/
def Section.closes : Section c → Option Nat
  | .closeFd _ fd => some fd
  | .respond client _ => some client
  | .hangUp client => some client
  | _ => none

/-- The descriptor table changes by one socket opened or one descriptor closed. -/
theorem exec_descriptors :
    ((exec host σ s input).shared.descriptors = σ.descriptors ∧
      (exec host σ s input).shared.opened = σ.opened) ∨
    (∃ h sockets, s = .openSocket h sockets ∧
      (exec host σ s input).shared = σ.openListening h.target ∧
      (exec host σ s input).next = [.setupSocket h sockets σ.descriptors.lowestFree]) ∨
    (∃ fd, s.closes = some fd ∧ (exec host σ s input).shared = σ.closeDescriptor fd ∧
      (exec host σ s input).next = []) := by
  cases s with
  | openSocket h sockets =>
      simp only [exec]
      split
      · exact Or.inl ⟨rfl, rfl⟩
      · split
        · exact Or.inl ⟨rfl, rfl⟩
        · exact Or.inr (Or.inl ⟨h, sockets, rfl, rfl, rfl⟩)
  | closeFd x fd => exact Or.inr (Or.inr ⟨fd, rfl, rfl, rfl⟩)
  | respond client response =>
      rw [exec_respond]
      exact Or.inr (Or.inr ⟨client, rfl, rfl, rfl⟩)
  | hangUp client => exact Or.inr (Or.inr ⟨client, rfl, rfl, rfl⟩)
  | _ =>
      refine Or.inl ?_
      simp only [exec]
      (repeat' split) <;> simp

variable {s} in
/-- Other sections leave the descriptor table alone. -/
theorem exec_descriptors_of_none (hopens : s.opens = none) (hcloses : s.closes = none) :
    (exec host σ s input).shared.descriptors = σ.descriptors := by
  rcases exec_descriptors host σ s input with ⟨hsame, -⟩ | ⟨h, sockets, rfl, -, -⟩ | ⟨fd, hfd, -, -⟩
  · exact hsame
  · simp [Section.opens] at hopens
  · simp [hfd] at hcloses

variable {s} in
/-- A section that closes a descriptor does nothing else. -/
theorem exec_closes {fd : Nat} (hcloses : s.closes = some fd) :
    (exec host σ s input).shared = σ.closeDescriptor fd ∧ (exec host σ s input).next = [] := by
  cases s with
  | closeFd x n =>
      cases hcloses
      exact ⟨rfl, rfl⟩
  | respond client response =>
      cases hcloses
      rw [exec_respond]
      exact ⟨rfl, rfl⟩
  | hangUp client =>
      cases hcloses
      exact ⟨rfl, rfl⟩
  | _ => simp [Section.closes] at hcloses

end SctpConformance
