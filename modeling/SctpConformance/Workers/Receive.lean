import Mathlib.Data.List.Induction
import SctpConformance.Library.Checklist
import SctpConformance.Server.Concurrent

/-!
# The receive worker

`run_receive_worker` is a checklist: it goes through the expected messages with
a cursor, skips notifications and gives up at the first outcome that deviates.
Its verdict on a sequence of outcomes is compared with a reference verdict that
speaks about the sequence as a whole.

Main results:

- Definitions `Complete` and `Deviates`: the reference verdict.
- Theorem `play_receive`: the worker is a reader of `expectedChecklist`.
- Theorem `receive_verdict`: the verdict of the worker is the reference verdict.
- Theorem `receiveMessages_complete_matched`: what a completed worker has matched,
  whatever associations its messages came from.
-/

namespace SctpConformance

open Library

/-! ## Expected messages -/

/-- Data with the payload, the stream and the PPID of a message. -/
def MessageSpec.Accepts (expected : MessageSpec) : ReceiveOutcome → Prop
  | .data payload stream ppid _ _ _ =>
      payload = materializePayload expected ∧ stream = expected.stream ∧ ppid = expected.ppid
  | _ => False

instance (expected : MessageSpec) : DecidablePred expected.Accepts
  | .data payload stream ppid _ _ _ => inferInstanceAs (Decidable (payload =
      materializePayload expected ∧ stream = expected.stream ∧ ppid = expected.ppid))
  | .error _ => inferInstanceAs (Decidable False)
  | .notification => inferInstanceAs (Decidable False)

/-- The number of addresses that `load_peer_addrs` returns after an outcome. -/
def ReceiveOutcome.peerAddrCount : ReceiveOutcome → Nat
  | .data _ _ _ _ _ peerAddrs => peerAddrs.length
  | _ => 0

/-- The outcomes of a worker without the notifications. -/
def dropNotifications (outcomes : List ReceiveOutcome) : List ReceiveOutcome :=
  outcomes.filter fun outcome => !decide (outcome = .notification)

/-- The three comparisons find nothing exactly if the data is the expected message. -/
theorem mismatch_eq_none_iff (featureId : CppString) (expected : MessageSpec)
    (payload : CppString) (stream : UInt16) (ppid assocId : UInt32) (eor : Bool)
    (peerAddrs : List CppString) :
    mismatch featureId expected payload stream ppid = none ↔
      expected.Accepts (.data payload stream ppid assocId eor peerAddrs) := by
  unfold mismatch MessageSpec.Accepts
  split
  · rename_i h
    simpa using fun hpayload => absurd hpayload.symm h
  · rename_i hpayload
    split
    · rename_i h
      simpa using fun _ hstream => absurd hstream.symm h
    · rename_i hstream
      split
      · rename_i h
        simpa using fun _ _ hppid => absurd hppid.symm h
      · rename_i hppid
        push Not at hpayload hstream hppid
        simp [hpayload, hstream, hppid]

/-! ## The reference verdict -/

/-- The outcomes begin with one for each expected message, and the first of them
shows enough peer addresses. -/
def Complete (expected : List MessageSpec) (expectedPeerAddrCount : Nat)
    (seen : List ReceiveOutcome) : Prop :=
  ∃ matched, matched <+: seen ∧ List.Forall₂ MessageSpec.Accepts expected matched ∧
    (expectedPeerAddrCount = 0 ∨ expected = [] ∨
      ∃ first ∈ matched.head?, expectedPeerAddrCount ≤ first.peerAddrCount)

/-- What makes an outcome deviate when it is the one for message `i`. -/
inductive Deviation (expected : List MessageSpec) (expectedPeerAddrCount : Nat) :
    Nat → ReceiveOutcome → Prop
  | error (i : Nat) (errno : Errno) :
      Deviation expected expectedPeerAddrCount i (.error errno)
  | mismatch {i : Nat} {message : MessageSpec} {outcome : ReceiveOutcome}
      (hmessage : expected[i]? = some message) (h : ¬message.Accepts outcome) :
      Deviation expected expectedPeerAddrCount i outcome
  | peerAddrs {outcome : ReceiveOutcome} (h : outcome.peerAddrCount < expectedPeerAddrCount) :
      Deviation expected expectedPeerAddrCount 0 outcome

/-- Some outcome for an expected message is the first to deviate. -/
def Deviates (expected : List MessageSpec) (expectedPeerAddrCount : Nat)
    (seen : List ReceiveOutcome) : Prop :=
  ∃ i < expected.length, (∃ outcome ∈ seen[i]?, Deviation expected expectedPeerAddrCount i outcome) ∧
    ∀ j < i, ∀ outcome ∈ seen[j]?, ¬Deviation expected expectedPeerAddrCount j outcome

/-! ## The checklist of a worker -/

section

variable (host : Host) (featureId : CppString) (timeoutText : String)
  (expected : List MessageSpec) (expectedPeerAddrCount : Nat)

/-- The expected messages in order; the peer addresses are looked at with the first. -/
def expectedChecklist : Checklist ReceiveOutcome CppString where
  size := expected.length
  skip outcome := decide (outcome = .notification)
  check i
    | .error errno =>
        some (if errno = .ewouldblock ∨ errno = .eagain then str timeoutText
          else host.strerror errno)
    | .notification => none
    | .data payload stream ppid _ _ peerAddrs =>
        match mismatch featureId (expected.getD i ⟨[], 0, 0, 0, false, [], 0, 0⟩)
            payload stream ppid with
        | some message => some message
        | none =>
            if i = 0 ∧ peerAddrs.length < expectedPeerAddrCount then
              some (str "peer address enumeration did not return enough addresses")
            else none

variable {host featureId timeoutText expected expectedPeerAddrCount}

/-- An entry is checked off by an outcome that does not deviate. -/
theorem expectedChecklist_check_eq_none_iff {i : Nat} {message : MessageSpec}
    (hmessage : expected[i]? = some message) {outcome : ReceiveOutcome}
    (hdata : outcome ≠ .notification) :
    (expectedChecklist host featureId timeoutText expected expectedPeerAddrCount).check i outcome
        = none ↔
      message.Accepts outcome ∧ (i = 0 → expectedPeerAddrCount ≤ outcome.peerAddrCount) := by
  cases outcome with
  | error errno => simp [expectedChecklist, MessageSpec.Accepts]
  | notification => contradiction
  | data payload stream ppid assocId eor peerAddrs =>
      have hget : expected.getD i ⟨[], 0, 0, 0, false, [], 0, 0⟩ = message := by
        simp [hmessage]
      have hmismatch :=
        mismatch_eq_none_iff featureId message payload stream ppid assocId eor peerAddrs
      simp only [expectedChecklist, hget]
      split
      · rename_i text htext
        have hnot : ¬message.Accepts (.data payload stream ppid assocId eor peerAddrs) := by
          rw [← hmismatch, htext]
          simp
        simp [hnot]
      · rename_i hnone
        simp [hmismatch.mp hnone, ReceiveOutcome.peerAddrCount]

/-- An outcome deviates exactly if it is not accepted. -/
theorem deviation_iff {i : Nat} {message : MessageSpec}
    (hmessage : expected[i]? = some message) {outcome : ReceiveOutcome} :
    Deviation expected expectedPeerAddrCount i outcome ↔
      ¬(message.Accepts outcome ∧ (i = 0 → expectedPeerAddrCount ≤ outcome.peerAddrCount)) := by
  constructor
  · intro h
    cases h with
    | error errno => simp [MessageSpec.Accepts]
    | mismatch hmessage' h =>
        cases hmessage.symm.trans hmessage'
        exact fun haccepts => h haccepts.1
    | peerAddrs h => exact fun haccepts => absurd (haccepts.2 rfl) (Nat.not_le.mpr h)
  · intro h
    by_cases haccepts : message.Accepts outcome
    · have hpeers : i = 0 ∧ outcome.peerAddrCount < expectedPeerAddrCount := by
        simpa [haccepts] using h
      rcases hpeers with ⟨rfl, hpeers⟩
      exact .peerAddrs hpeers
    · exact .mismatch hmessage haccepts

/-- The checklist is passed by what completes the worker. -/
theorem expectedChecklist_passes_iff {seen : List ReceiveOutcome}
    (hseen : ∀ outcome ∈ seen, outcome ≠ .notification) :
    (expectedChecklist host featureId timeoutText expected expectedPeerAddrCount).Passes seen ↔
      Complete expected expectedPeerAddrCount seen := by
  have hentry : ∀ i message, expected[i]? = some message → ∀ outcome ∈ seen[i]?,
      ((expectedChecklist host featureId timeoutText expected expectedPeerAddrCount).check i
          outcome = none ↔
        message.Accepts outcome ∧ (i = 0 → expectedPeerAddrCount ≤ outcome.peerAddrCount)) := by
    intro i message hmessage outcome houtcome
    exact expectedChecklist_check_eq_none_iff hmessage
      (hseen outcome (List.mem_of_getElem? houtcome))
  constructor
  · intro hpasses
    have hall : ∀ i (hi : i < expected.length), ∃ outcome ∈ seen[i]?,
        expected[i].Accepts outcome ∧
          (i = 0 → expectedPeerAddrCount ≤ outcome.peerAddrCount) := by
      intro i hi
      rcases hpasses i hi with ⟨outcome, houtcome, hcheck⟩
      exact ⟨outcome, houtcome,
        (hentry i expected[i] (List.getElem?_eq_getElem hi) outcome houtcome).mp hcheck⟩
    have hlength : expected.length ≤ seen.length := by
      by_contra hshort
      rcases hall seen.length (Nat.not_le.mp hshort) with ⟨outcome, houtcome, -⟩
      simp at houtcome
    refine ⟨seen.take expected.length, List.take_prefix _ _, ?_, ?_⟩
    · rw [List.forall₂_iff_get]
      refine ⟨by simpa using hlength, fun i hi hi' => ?_⟩
      rcases hall i hi with ⟨outcome, houtcome, haccepts, -⟩
      have hget : seen[i] = outcome := by
        simpa [List.getElem?_eq_some_iff, hi.trans_le hlength] using houtcome
      simpa [hget] using haccepts
    · rcases Nat.eq_zero_or_pos expected.length with hzero | hpos
      · exact .inr (.inl (List.eq_nil_of_length_eq_zero hzero))
      · rcases hall 0 hpos with ⟨outcome, houtcome, -, hpeers⟩
        refine .inr (.inr ⟨outcome, ?_, hpeers rfl⟩)
        rw [List.head?_take, if_neg hpos.ne', List.head?_eq_getElem?]
        exact houtcome
  · rintro ⟨matched, ⟨rest, rfl⟩, hmatched, hpeers⟩ i hi
    have hi' : i < matched.length := hmatched.length_eq ▸ hi
    have hget : (matched ++ rest)[i]? = some matched[i] := by
      rw [List.getElem?_append_left hi', List.getElem?_eq_getElem hi']
    refine ⟨matched[i], hget, ?_⟩
    refine (hentry i expected[i] (List.getElem?_eq_getElem hi) _ hget).mpr ⟨?_, ?_⟩
    · exact (List.forall₂_iff_get.mp hmatched).2 i hi hi'
    · rintro rfl
      rcases hpeers with hzero | hnil | ⟨first, hfirst, hpeers⟩
      · omega
      · subst hnil
        exact absurd hi (Nat.lt_irrefl 0)
      · rw [List.head?_eq_getElem?, List.getElem?_eq_getElem hi'] at hfirst
        cases hfirst
        exact hpeers

/-- The checklist is failed by what deviates. -/
theorem expectedChecklist_deviates_iff {seen : List ReceiveOutcome}
    (hseen : ∀ outcome ∈ seen, outcome ≠ .notification) :
    (∃ message k, (expectedChecklist host featureId timeoutText expected
        expectedPeerAddrCount).Deviates seen k message) ↔
      Deviates expected expectedPeerAddrCount seen := by
  have hentry : ∀ i < expected.length, ∀ outcome ∈ seen[i]?,
      ((expectedChecklist host featureId timeoutText expected expectedPeerAddrCount).check i
          outcome = none ↔ ¬Deviation expected expectedPeerAddrCount i outcome) := by
    intro i hi outcome houtcome
    have hmessage : expected[i]? = some expected[i] := List.getElem?_eq_getElem hi
    rw [deviation_iff hmessage, not_not]
    exact expectedChecklist_check_eq_none_iff hmessage
      (hseen outcome (List.mem_of_getElem? houtcome))
  constructor
  · rintro ⟨message, k, hk, ⟨outcome, houtcome, hdeviant⟩, hfirst⟩
    refine ⟨k, hk, ⟨outcome, houtcome, ?_⟩, fun j hj outcome' houtcome' => ?_⟩
    · by_contra hnot
      simp [(hentry k hk outcome houtcome).mpr hnot] at hdeviant
    · rcases hfirst j hj with ⟨outcome'', houtcome'', hnone⟩
      cases Option.mem_unique houtcome' houtcome''
      exact (hentry j (hj.trans hk) outcome' houtcome').mp hnone
  · rintro ⟨k, hk, ⟨outcome, houtcome, hdeviant⟩, hfirst⟩
    have hsome : (expectedChecklist host featureId timeoutText expected
        expectedPeerAddrCount).check k outcome ≠ none :=
      fun hnone => (hentry k hk outcome houtcome).mp hnone hdeviant
    rcases Option.ne_none_iff_exists'.mp hsome with ⟨message, hmessage⟩
    refine ⟨message, k, hk, ⟨outcome, houtcome, hmessage⟩, fun j hj => ?_⟩
    have hj' : j < seen.length :=
      hj.trans (List.getElem?_eq_some_iff.mp houtcome).1
    have hget : seen[j]? = some seen[j] := List.getElem?_eq_getElem hj'
    exact ⟨seen[j], hget, (hentry j (hj.trans hk) _ hget).mpr (hfirst j hj _ hget)⟩

/-! ## The worker as a reader -/

/-- The step of the worker at a stage of its checklist. -/
def receiveStep (fd : Nat) (expected : List MessageSpec) (expectedPeerAddrCount : Nat) :
    Checklist.Stage CppString → WorkerStep
  | .waiting i =>
      .receive (.receive fd expected expectedPeerAddrCount i
        (decide (0 < i ∧ 0 < expectedPeerAddrCount)))
  | .done => .markNetworkComplete
  | .failed message => .markFailed message

/-- The text for a receive that runs into the timeout of the socket. -/
def receiveTimeoutText : String :=
  "timed out waiting for SCTP client traffic"

/-- The loop head is a stage of the reader. -/
theorem receiveLoop_eq (fd i : Nat) :
    receiveLoop fd expected expectedPeerAddrCount i (decide (0 < i ∧ 0 < expectedPeerAddrCount)) =
      receiveStep fd expected expectedPeerAddrCount
        ((expectedChecklist host featureId timeoutText expected
          expectedPeerAddrCount).stage i) := by
  by_cases hi : i < expected.length
  · have hstage : (expectedChecklist host featureId timeoutText expected
        expectedPeerAddrCount).stage i = .waiting i := if_pos hi
    rw [receiveLoop, if_pos hi, hstage, receiveStep]
  · have hstage : (expectedChecklist host featureId timeoutText expected
        expectedPeerAddrCount).stage i = .done := if_neg hi
    rw [receiveLoop, if_neg hi, hstage, receiveStep]

/-- One receive is one step of the reader. -/
theorem receiveStep_advance (fd : Nat) (stage : Checklist.Stage CppString)
    (outcome : ReceiveOutcome) :
    (receiveStep fd expected expectedPeerAddrCount stage).advance host featureId
        (.received outcome) =
      receiveStep fd expected expectedPeerAddrCount
        ((expectedChecklist host featureId receiveTimeoutText expected
          expectedPeerAddrCount).step stage outcome) := by
  cases stage with
  | done => rfl
  | failed message => rfl
  | waiting i =>
      cases outcome with
      | error errno => rfl
      | notification => rfl
      | data payload stream ppid assocId eor peerAddrs =>
          change (WorkerState.receive fd expected expectedPeerAddrCount i
            (decide (0 < i ∧ 0 < expectedPeerAddrCount))).onReceive host featureId
              (.data payload stream ppid assocId eor peerAddrs) = _
          simp only [WorkerState.onReceive]
          split
          · rename_i message hmessage
            have hcheck : (expectedChecklist host featureId receiveTimeoutText expected
                expectedPeerAddrCount).check i (.data payload stream ppid assocId eor peerAddrs) =
                  some message := by
              simp [expectedChecklist, -List.getD_eq_getElem?_getD, hmessage]
            rw [Checklist.step_eq_failed rfl hcheck, receiveStep]
          · rename_i hnone
            have hcheck : (expectedChecklist host featureId receiveTimeoutText expected
                expectedPeerAddrCount).check i (.data payload stream ppid assocId eor peerAddrs) =
                  if i = 0 ∧ peerAddrs.length < expectedPeerAddrCount then
                    some (str "peer address enumeration did not return enough addresses")
                  else none := by
              simp [expectedChecklist, -List.getD_eq_getElem?_getD, hnone]
            -- `checked_peer_addrs` is false exactly while nothing is matched
            split
            · rename_i hunchecked
              have hi : i = 0 := by simpa [hunchecked.2] using hunchecked.1
              split
              · rename_i hfew
                rw [if_pos ⟨hi, hfew⟩] at hcheck
                rw [Checklist.step_eq_failed rfl hcheck, receiveStep]
              · rename_i henough
                rw [if_neg fun h => henough h.2] at hcheck
                rw [Checklist.step_eq_stage rfl hcheck, ← receiveLoop_eq]
                simp [hunchecked.2]
            · rename_i hchecked
              have hcount : 0 < i ∨ expectedPeerAddrCount = 0 := by
                by_contra hnot
                push Not at hnot
                exact hchecked (by simpa [Nat.le_zero.mp hnot.1] using Nat.pos_of_ne_zero hnot.2)
              rw [if_neg (by omega)] at hcheck
              rw [Checklist.step_eq_stage rfl hcheck, ← receiveLoop_eq]
              rcases hcount with hi | hcount
              · simp [hi]
              · simp [hcount]

/-- What the worker does after a list of outcomes of its receives. -/
def playReceive (host : Host) (featureId : CppString) (fd : Nat) (expected : List MessageSpec)
    (expectedPeerAddrCount : Nat) (outcomes : List ReceiveOutcome) : WorkerStep :=
  (Worker.receive fd expected expectedPeerAddrCount).start.play host featureId
    (outcomes.map .received)

/-- The worker is a reader of its checklist. -/
theorem play_receive (fd : Nat) (outcomes : List ReceiveOutcome) :
    playReceive host featureId fd expected expectedPeerAddrCount outcomes =
      receiveStep fd expected expectedPeerAddrCount
        ((expectedChecklist host featureId receiveTimeoutText expected expectedPeerAddrCount).run
          ((expectedChecklist host featureId receiveTimeoutText expected
            expectedPeerAddrCount).stage 0) outcomes) := by
  have hstart : (Worker.receive fd expected expectedPeerAddrCount).start =
      receiveStep fd expected expectedPeerAddrCount
        ((expectedChecklist host featureId receiveTimeoutText expected
          expectedPeerAddrCount).stage 0) := by
    simpa [Worker.start] using
      (receiveLoop_eq fd 0 : receiveLoop fd expected expectedPeerAddrCount 0
        (decide (0 < 0 ∧ 0 < expectedPeerAddrCount)) = _)
  rw [playReceive, hstart]
  generalize (expectedChecklist host featureId receiveTimeoutText expected
    expectedPeerAddrCount).stage 0 = stage
  induction outcomes generalizing stage with
  | nil => rfl
  | cons outcome outcomes ih =>
      rw [List.map_cons, Checklist.run_cons, ← ih, ← receiveStep_advance]
      rfl

/-! ## The verdict of the worker -/

/-- The worker has made one of its two final calls. -/
def WorkerStep.Decided (next : WorkerStep) : Prop :=
  next = .markNetworkComplete ∨ ∃ message, next = .markFailed message

/-- A worker that has decided makes no further call. -/
theorem WorkerStep.Decided.play {next : WorkerStep} (h : next.Decided)
    (inputs : List WorkerInput) : next.play host featureId inputs = next := by
  induction inputs with
  | nil => rfl
  | cons input inputs ih =>
      have hadvance : next.advance host featureId input = next := by
        rcases h with rfl | ⟨message, rfl⟩
        · cases input <;> rfl
        · cases input <;> rfl
      simpa [WorkerStep.play, hadvance] using ih

/-- No notification is left. -/
theorem dropNotifications_ne {outcomes : List ReceiveOutcome} {outcome : ReceiveOutcome}
    (h : outcome ∈ dropNotifications outcomes) : outcome ≠ .notification := by
  simpa using (List.mem_filter.mp h).2

/-- The worker completes exactly on the reference verdict. -/
theorem playReceive_complete_iff (fd : Nat) (outcomes : List ReceiveOutcome) :
    playReceive host featureId fd expected expectedPeerAddrCount outcomes =
        .markNetworkComplete ↔
      Complete expected expectedPeerAddrCount (dropNotifications outcomes) := by
  rw [play_receive, ← expectedChecklist_passes_iff fun _ h => dropNotifications_ne h]
  refine Iff.trans ?_ (Checklist.run_eq_done_iff outcomes)
  generalize (expectedChecklist host featureId receiveTimeoutText expected
    expectedPeerAddrCount).run _ outcomes = stage
  cases stage <;> simp [receiveStep]

/-- The worker fails exactly on a first deviation. -/
theorem playReceive_failed_iff (fd : Nat) (outcomes : List ReceiveOutcome) :
    (∃ message, playReceive host featureId fd expected expectedPeerAddrCount outcomes =
        .markFailed message) ↔
      Deviates expected expectedPeerAddrCount (dropNotifications outcomes) := by
  rw [← expectedChecklist_deviates_iff fun _ h => dropNotifications_ne h]
  refine exists_congr fun message => ?_
  rw [play_receive]
  refine Iff.trans ?_ (Checklist.run_eq_failed_iff outcomes message)
  generalize (expectedChecklist host featureId receiveTimeoutText expected
    expectedPeerAddrCount).run _ outcomes = stage
  cases stage <;> simp [receiveStep]

/-- Only the outcomes other than notifications count. -/
theorem playReceive_dropNotifications (fd : Nat) (outcomes : List ReceiveOutcome) :
    playReceive host featureId fd expected expectedPeerAddrCount (dropNotifications outcomes) =
      playReceive host featureId fd expected expectedPeerAddrCount outcomes := by
  rw [play_receive, play_receive]
  exact congrArg _ (Checklist.run_relevant _ outcomes)

/-- Outcomes can be gone through in parts. -/
theorem playReceive_append (fd : Nat) (outcomes more : List ReceiveOutcome) :
    playReceive host featureId fd expected expectedPeerAddrCount (outcomes ++ more) =
      (playReceive host featureId fd expected expectedPeerAddrCount outcomes).play host featureId
        (more.map .received) := by
  rw [playReceive, playReceive, List.map_append, WorkerStep.play_append]

/-- The verdict of the worker is the reference verdict: it completes on a complete
sequence, fails on a first deviation, never does both, takes nothing after its
decision, and pays no heed to notifications. -/
theorem receive_verdict (host : Host) (featureId : CppString) (fd : Nat)
    (expected : List MessageSpec) (expectedPeerAddrCount : Nat)
    (outcomes : List ReceiveOutcome) :
    let verdict := playReceive host featureId fd expected expectedPeerAddrCount
    (verdict outcomes = .markNetworkComplete ↔
      Complete expected expectedPeerAddrCount (dropNotifications outcomes)) ∧
    ((∃ message, verdict outcomes = .markFailed message) ↔
      Deviates expected expectedPeerAddrCount (dropNotifications outcomes)) ∧
    (¬∃ before before' message, before <+: outcomes ∧ before' <+: outcomes ∧
      verdict before = .markNetworkComplete ∧ verdict before' = .markFailed message) ∧
    (∀ more, (verdict outcomes).Decided → verdict (outcomes ++ more) = verdict outcomes) ∧
    ∀ others, dropNotifications others = dropNotifications outcomes →
      verdict others = verdict outcomes := by
  intro verdict
  have hstays : ∀ outcomes more, (verdict outcomes).Decided →
      verdict (outcomes ++ more) = verdict outcomes := by
    intro outcomes more hdecided
    exact (playReceive_append fd outcomes more).trans (hdecided.play _)
  refine ⟨playReceive_complete_iff fd outcomes, playReceive_failed_iff fd outcomes, ?_,
    hstays outcomes, ?_⟩
  · -- the verdict at the end is the one of either prefix
    rintro ⟨before, before', message, ⟨more, hmore⟩, ⟨more', hmore'⟩, hcomplete, hfailed⟩
    have hend := hstays before more (.inl hcomplete)
    have hend' := hstays before' more' (.inr ⟨message, hfailed⟩)
    rw [hmore, hcomplete] at hend
    rw [hmore', hfailed, hend] at hend'
    contradiction
  · intro others hothers
    calc
      verdict others = verdict (dropNotifications others) :=
        (playReceive_dropNotifications fd others).symm
      _ = verdict (dropNotifications outcomes) := by rw [hothers]
      _ = verdict outcomes := playReceive_dropNotifications fd outcomes

end

/-! ## Whose messages -/

/-- The association that a message came from. -/
def ReceiveOutcome.assocId : ReceiveOutcome → Option UInt32
  | .data _ _ _ assocId _ _ => some assocId
  | _ => none

/-- An outcome without the association it came from. -/
def ReceiveOutcome.eraseAssociation : ReceiveOutcome → ReceiveOutcome
  | .data payload stream ppid _ endOfRecord peerAddrs =>
      .data payload stream ppid 0 endOfRecord peerAddrs
  | outcome => outcome

/-- What a worker of a feature does after a list of outcomes of its receives. -/
def FeatureDefinition.verdict (feature : FeatureDefinition) (host : Host)
    (worker : Worker) (outcomes : List ReceiveOutcome) : WorkerStep :=
  worker.start.play host feature.id (outcomes.map .received)

/-- The receive worker does not look at associations. -/
theorem receiveStep_eraseAssociation {host : Host} {featureId : CppString} {fd : Nat}
    {expected : List MessageSpec} {expectedPeerAddrCount : Nat}
    (stage : Checklist.Stage CppString) (outcome : ReceiveOutcome) :
    (receiveStep fd expected expectedPeerAddrCount stage).advance host featureId
        (.received outcome.eraseAssociation) =
      (receiveStep fd expected expectedPeerAddrCount stage).advance host featureId
        (.received outcome) := by
  cases stage <;> cases outcome <;> rfl

/-- The association ids make no difference. -/
theorem playReceive_eraseAssociation {host : Host} {featureId : CppString} {fd : Nat}
    {expected : List MessageSpec} {expectedPeerAddrCount : Nat}
    (outcomes : List ReceiveOutcome) :
    playReceive host featureId fd expected expectedPeerAddrCount
        (outcomes.map ReceiveOutcome.eraseAssociation) =
      playReceive host featureId fd expected expectedPeerAddrCount outcomes := by
  induction outcomes using List.reverseRecOn with
  | nil => rfl
  | append_singleton outcomes outcome ih =>
      rw [List.map_append, playReceive_append, playReceive_append, ih, play_receive]
      exact receiveStep_eraseAssociation _ outcome

/-- A completed worker has matched the first messages that arrived on its socket, in
their order; the same messages from other associations complete it too. -/
theorem receiveMessages_complete_matched (host : Host) {feature : FeatureDefinition}
    (hkind : feature.scenarioKind = .receiveMessages) {sockets : List ListeningSocket}
    {worker : Worker} (hworker : feature.worker sockets = some worker)
    {outcomes : List ReceiveOutcome}
    (hcomplete : feature.verdict host worker outcomes = .markNetworkComplete) :
    (∃ matched, matched <+: dropNotifications outcomes ∧
      List.Forall₂ MessageSpec.Accepts feature.clientSendMessages matched) ∧
    ∀ others, others.map ReceiveOutcome.eraseAssociation =
        outcomes.map ReceiveOutcome.eraseAssociation →
      feature.verdict host worker others = .markNetworkComplete := by
  simp only [FeatureDefinition.worker, hkind, Option.map_eq_some_iff] at hworker
  rcases hworker with ⟨socketInfo, -, rfl⟩
  refine ⟨?_, fun others hothers => ?_⟩
  · rcases (playReceive_complete_iff _ outcomes).mp hcomplete with ⟨matched, hbegin, hmatched, -⟩
    exact ⟨matched, hbegin, hmatched⟩
  · calc
      feature.verdict host _ others =
          playReceive host feature.id socketInfo.fd feature.clientSendMessages
            feature.expectedPeerAddrCount (others.map ReceiveOutcome.eraseAssociation) :=
        (playReceive_eraseAssociation others).symm
      _ = feature.verdict host _ outcomes := by
        rw [hothers]
        exact playReceive_eraseAssociation outcomes
      _ = .markNetworkComplete := hcomplete

/-- The two messages of a feature, from two associations. -/
def alphaBeta : List ReceiveOutcome :=
  [.data (str "alpha") 1 100 1 true [], .data (str "beta") 1 101 2 true []]

theorem receiveMessages_complete_matched_two :
    (∃ matched, matched <+: dropNotifications alphaBeta ∧
      List.Forall₂ MessageSpec.Accepts
        (sampleCatalog.definition multiMessage.feature).clientSendMessages matched) ∧
    ∀ others, others.map ReceiveOutcome.eraseAssociation =
        alphaBeta.map ReceiveOutcome.eraseAssociation →
      (sampleCatalog.definition multiMessage.feature).verdict sampleHost
        (.receive 5 (sampleCatalog.definition multiMessage.feature).clientSendMessages 0) others =
          .markNetworkComplete :=
  receiveMessages_complete_matched sampleHost (by decide)
    (show FeatureDefinition.worker _ [⟨5, [], []⟩] = _ by decide) (by decide)

/-- Two clients can share the messages of a feature between them. -/
theorem receiveMessages_two_associations :
    ¬∀ (host : Host) (feature : FeatureDefinition) (sockets : List ListeningSocket)
      (worker : Worker) (outcomes : List ReceiveOutcome),
      feature.scenarioKind = .receiveMessages → 2 ≤ feature.clientSendMessages.length →
      feature.worker sockets = some worker →
      feature.verdict host worker outcomes = .markNetworkComplete →
      ∃ assocId, ∀ outcome ∈
          (dropNotifications outcomes).take feature.clientSendMessages.length,
        outcome.assocId = some assocId := by
  intro hall
  rcases hall sampleHost (sampleCatalog.definition multiMessage.feature) [⟨5, [], []⟩]
    (.receive 5 (sampleCatalog.definition multiMessage.feature).clientSendMessages 0) alphaBeta
    (by decide) (by decide) (by decide) (by decide) with ⟨assocId, hsame⟩
  have halpha := hsame (.data (str "alpha") 1 100 1 true []) (by decide)
  have hbeta := hsame (.data (str "beta") 1 101 2 true []) (by decide)
  exact absurd (halpha.trans hbeta.symm) (by decide)

end SctpConformance
