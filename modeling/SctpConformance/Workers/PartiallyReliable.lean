import Mathlib.Data.List.TakeWhile
import SctpConformance.Workers.Receive

/-!
# The partial-reliability worker

`run_pr_receive_worker` tells messages apart by their payloads alone and takes its
decision at the receive timeout.  The other receive workers compare the stream and the
PPID as well.

Main results:

- Definitions `receivedData` and `firstError`: what decides a sequence of receives.
- Theorem `playPrReceive_complete_iff`: the worker completes exactly if the final payload,
  and no other, has come before the timeout.
- Theorem `metadata_enforced_iff`: a completed worker has matched the expected messages
  in stream and PPID exactly if the final payload came with the right metadata.
-/

namespace SctpConformance

variable {host : Host} {featureId : CppString} {fd : Nat} {expected : List MessageSpec}

/-! ## Up to the first error -/

/-- The payload, if a message has been received. -/
def ReceiveOutcome.payload? : ReceiveOutcome → Option CppString
  | .data payload _ _ _ _ _ => some payload
  | _ => none

/-- The error, if the call has failed. -/
def ReceiveOutcome.errno? : ReceiveOutcome → Option Errno
  | .error errno => some errno
  | _ => none

/-- The data received before the first error. -/
def receivedData (outcomes : List ReceiveOutcome) : List ReceiveOutcome :=
  dropNotifications (outcomes.takeWhile fun outcome => outcome.errno?.isNone)

/-- The first error of all calls. -/
def firstError (outcomes : List ReceiveOutcome) : Option Errno :=
  outcomes.findSome? ReceiveOutcome.errno?

@[simp]
theorem receivedData_nil : receivedData [] = [] :=
  rfl

/-- After an error nothing more is received. -/
@[simp]
theorem receivedData_error (errno : Errno) (outcomes : List ReceiveOutcome) :
    receivedData (.error errno :: outcomes) = [] := by
  simp [receivedData, ReceiveOutcome.errno?, dropNotifications]

/-- Notifications are left out. -/
@[simp]
theorem receivedData_notification (outcomes : List ReceiveOutcome) :
    receivedData (.notification :: outcomes) = receivedData outcomes := by
  simp [receivedData, ReceiveOutcome.errno?, dropNotifications]

/-- Every message counts. -/
@[simp]
theorem receivedData_data (payload : CppString) (stream : UInt16) (ppid assocId : UInt32)
    (eor : Bool) (peerAddrs : List CppString) (outcomes : List ReceiveOutcome) :
    receivedData (.data payload stream ppid assocId eor peerAddrs :: outcomes) =
      .data payload stream ppid assocId eor peerAddrs :: receivedData outcomes := by
  simp [receivedData, ReceiveOutcome.errno?, dropNotifications]

/-- Received data is data. -/
theorem receivedData_isSome {outcomes : List ReceiveOutcome} {outcome : ReceiveOutcome}
    (h : outcome ∈ receivedData outcomes) : outcome.payload?.isSome := by
  have hnot := dropNotifications_ne h
  have herror := List.mem_takeWhile_imp (List.mem_of_mem_filter h)
  cases outcome with
  | error errno => contradiction
  | notification => contradiction
  | data payload stream ppid assocId eor peerAddrs => rfl

/-- The socket ran into its receive timeout. -/
def Errno.IsTimeout (errno : Errno) : Prop :=
  errno = .ewouldblock ∨ errno = .eagain

instance (errno : Errno) : Decidable errno.IsTimeout :=
  inferInstanceAs (Decidable (_ ∨ _))

/-! ## When the worker completes -/

/-- The final payload and not the one that may be dropped. -/
def FinalOnly (expected : List MessageSpec) (outcome : ReceiveOutcome) : Prop :=
  outcome.payload? = expected.getLast?.map materializePayload ∧
    outcome.payload? ≠ expected.head?.map materializePayload

instance (expected : List MessageSpec) : DecidablePred (FinalOnly expected) := fun _ =>
  inferInstanceAs (Decidable (_ ∧ _))

/-- At least one message has come, all of them the final one, and then the timeout. -/
structure PrComplete (expected : List MessageSpec) (outcomes : List ReceiveOutcome) : Prop where
  long : 2 ≤ expected.length
  timeout : ∃ errno ∈ firstError outcomes, errno.IsTimeout
  some : receivedData outcomes ≠ []
  finalOnly : ∀ outcome ∈ receivedData outcomes, FinalOnly expected outcome

/-- What the worker does after a list of outcomes of its receives. -/
def playPrReceive (host : Host) (featureId : CppString) (fd : Nat) (expected : List MessageSpec)
    (outcomes : List ReceiveOutcome) : WorkerStep :=
  (Worker.prReceive fd expected).start.play host featureId (outcomes.map .received)

/-- A message that has expired makes the feature complete. -/
theorem onReceive_timeout {errno : Errno} (h : errno.IsTimeout) :
    (WorkerState.prReceive fd expected false true).onReceive host featureId (.error errno) =
      .markNetworkComplete := by
  have hcond : errno = .ewouldblock ∨ errno = .eagain := h
  simp [WorkerState.onReceive, hcond]

/-- Every other error ends the worker with a failure. -/
theorem onReceive_error (host : Host) (featureId : CppString) (fd : Nat)
    (expected : List MessageSpec) {errno : Errno} {sawSkipped sawFinal : Bool}
    (h : ¬(errno.IsTimeout ∧ sawFinal = true ∧ sawSkipped = false)) :
    ((WorkerState.prReceive fd expected sawSkipped sawFinal).onReceive host featureId
      (.error errno)).Decided ∧
    (WorkerState.prReceive fd expected sawSkipped sawFinal).onReceive host featureId
      (.error errno) ≠ .markNetworkComplete := by
  simp only [WorkerState.onReceive]
  split
  · rename_i hcond
    split
    · exact ⟨.inr ⟨_, rfl⟩, by simp⟩
    · rename_i hskipped
      exact absurd ⟨hcond.1, hcond.2, by simpa using hskipped⟩ h
  · exact ⟨.inr ⟨_, rfl⟩, by simp [receiveError]⟩

/-- The final message is remembered. -/
theorem onReceive_final {outcome : ReceiveOutcome} (h : FinalOnly expected outcome)
    (hdata : outcome.payload?.isSome) (sawSkipped sawFinal : Bool) :
    (WorkerState.prReceive fd expected sawSkipped sawFinal).onReceive host featureId outcome =
      .receive (.prReceive fd expected sawSkipped true) := by
  cases outcome with
  | error errno => contradiction
  | notification => contradiction
  | data payload stream ppid assocId eor peerAddrs =>
      simp only [WorkerState.onReceive]
      exact (if_neg h.2).trans (if_pos h.1)

/-- Any other message keeps the worker from completing. -/
theorem onReceive_not_final (host : Host) (featureId : CppString) (fd : Nat)
    {outcome : ReceiveOutcome} (h : ¬FinalOnly expected outcome)
    (hdata : outcome.payload?.isSome) (sawSkipped sawFinal : Bool) :
    (WorkerState.prReceive fd expected sawSkipped sawFinal).onReceive host featureId outcome =
        .receive (.prReceive fd expected true sawFinal) ∨
      ∃ text, (WorkerState.prReceive fd expected sawSkipped sawFinal).onReceive host featureId
        outcome = .markFailed text := by
  cases outcome with
  | error errno => contradiction
  | notification => contradiction
  | data payload stream ppid assocId eor peerAddrs =>
      simp only [WorkerState.onReceive]
      split
      · exact .inl rfl
      · rename_i hskipped
        split
        · rename_i hfinal
          exact absurd ⟨hfinal, hskipped⟩ h
        · exact .inr ⟨_, rfl⟩

/-- From either of its flags on, the worker completes at the timeout, if nothing but the
final message has come. -/
theorem play_prReceive_complete_iff (sawSkipped sawFinal : Bool)
    (outcomes : List ReceiveOutcome) :
    (WorkerStep.receive (.prReceive fd expected sawSkipped sawFinal)).play host featureId
        (outcomes.map .received) = .markNetworkComplete ↔
      sawSkipped = false ∧ (∃ errno ∈ firstError outcomes, errno.IsTimeout) ∧
        (sawFinal = true ∨ receivedData outcomes ≠ []) ∧
          ∀ outcome ∈ receivedData outcomes, FinalOnly expected outcome := by
  induction outcomes generalizing sawSkipped sawFinal with
  | nil => simp [WorkerStep.play, firstError]
  | cons outcome outcomes ih =>
      change ((WorkerState.prReceive fd expected sawSkipped sawFinal).onReceive host featureId
        outcome).play host featureId (outcomes.map .received) = _ ↔ _
      cases outcome with
      | notification =>
          rw [receivedData_notification]
          exact ih sawSkipped sawFinal
      | error errno =>
          have hfirst : firstError (.error errno :: outcomes) = some errno := rfl
          rw [hfirst, receivedData_error]
          by_cases hdecides : errno.IsTimeout ∧ sawFinal = true ∧ sawSkipped = false
          · rcases hdecides with ⟨htimeout, rfl, rfl⟩
            rw [onReceive_timeout htimeout, WorkerStep.Decided.play (.inl rfl)]
            simpa using htimeout
          · rcases onReceive_error host featureId fd expected hdecides with
              ⟨hdecided, hnot⟩
            rw [hdecided.play]
            refine iff_of_false hnot ?_
            rintro ⟨hskipped, ⟨errno', herrno, htimeout⟩, hfinal, -⟩
            cases herrno
            exact hdecides ⟨htimeout, by simpa using hfinal, hskipped⟩
      | data payload stream ppid assocId eor peerAddrs =>
          have hfirst : firstError (.data payload stream ppid assocId eor peerAddrs :: outcomes) =
              firstError outcomes := rfl
          rw [hfirst, receivedData_data]
          by_cases hfinal : FinalOnly expected (.data payload stream ppid assocId eor peerAddrs)
          · rw [onReceive_final hfinal rfl, ih]
            simp [hfinal]
          · refine iff_of_false ?_ fun h => hfinal (h.2.2.2 _ List.mem_cons_self)
            rcases onReceive_not_final host featureId fd hfinal rfl sawSkipped sawFinal with
              hnext | ⟨text, hnext⟩
            · rw [hnext, ih]
              simp
            · rw [hnext, WorkerStep.Decided.play (.inr ⟨text, rfl⟩)]
              simp

/-- The worker completes exactly if the final payload, and no other, has come before the
receive timeout. -/
theorem playPrReceive_complete_iff {outcomes : List ReceiveOutcome} :
    playPrReceive host featureId fd expected outcomes = .markNetworkComplete ↔
      PrComplete expected outcomes := by
  rw [playPrReceive, Worker.start]
  split
  · rename_i hshort
    rw [WorkerStep.Decided.play (.inr ⟨_, rfl⟩)]
    refine iff_of_false (by simp) fun h => ?_
    exact absurd h.long (Nat.not_le.mpr hshort)
  · rename_i hlong
    rw [play_prReceive_complete_iff]
    constructor
    · rintro ⟨-, htimeout, hsome, hfinal⟩
      exact ⟨Nat.not_lt.mp hlong, htimeout, by simpa using hsome, hfinal⟩
    · rintro ⟨-, htimeout, hsome, hfinal⟩
      exact ⟨rfl, htimeout, .inr hsome, hfinal⟩

/-! ## Metadata -/

/-- Some message was the last expected one, and each was an expected one. -/
def MetadataEnforced (expected : List MessageSpec) (outcomes : List ReceiveOutcome) : Prop :=
  (∃ outcome ∈ receivedData outcomes, ∃ last ∈ expected.getLast?, last.Accepts outcome) ∧
    ∀ outcome ∈ receivedData outcomes, ∃ message ∈ expected, message.Accepts outcome

/-- Data on the stream and with the PPID of a message. -/
def MessageSpec.SameMetadata (expected : MessageSpec) : ReceiveOutcome → Prop
  | .data _ stream ppid _ _ _ => stream = expected.stream ∧ ppid = expected.ppid
  | _ => False

/-- Some message had the stream and the PPID of the last expected one, and each had those
of an expected message with the final payload. -/
def FinalMetadata (expected : List MessageSpec) (outcomes : List ReceiveOutcome) : Prop :=
  (∃ outcome ∈ receivedData outcomes, ∃ last ∈ expected.getLast?, last.SameMetadata outcome) ∧
    ∀ outcome ∈ receivedData outcomes, ∃ message ∈ expected,
      expected.getLast?.map materializePayload = some (materializePayload message) ∧
        message.SameMetadata outcome

/-- A message is accepted by its payload and its metadata. -/
theorem MessageSpec.accepts_iff {message : MessageSpec} {outcome : ReceiveOutcome} :
    message.Accepts outcome ↔
      outcome.payload? = some (materializePayload message) ∧ message.SameMetadata outcome := by
  cases outcome <;> simp [MessageSpec.Accepts, MessageSpec.SameMetadata, ReceiveOutcome.payload?]

/-- What completes the worker is right in stream and PPID exactly if the final payload came
with the right metadata. -/
theorem PrComplete.metadataEnforced_iff {outcomes : List ReceiveOutcome}
    (h : PrComplete expected outcomes) :
    MetadataEnforced expected outcomes ↔ FinalMetadata expected outcomes := by
  have hpayload : ∀ outcome ∈ receivedData outcomes,
      outcome.payload? = expected.getLast?.map materializePayload :=
    fun outcome hmem => (h.finalOnly outcome hmem).1
  refine and_congr (exists_congr fun outcome => and_congr_right fun hmem => ?_)
    (forall₂_congr fun outcome hmem => ?_)
  · refine exists_congr fun last => and_congr_right fun hlast => ?_
    rw [MessageSpec.accepts_iff, hpayload outcome hmem, Option.mem_def.mp hlast]
    simp
  · refine exists_congr fun message => and_congr_right fun _ => ?_
    rw [MessageSpec.accepts_iff, hpayload outcome hmem]

/-- A completed worker has enforced stream and PPID exactly if the final payload, when it
completes the worker, came with the right metadata. -/
theorem metadata_enforced_iff (host : Host) (featureId : CppString) (fd : Nat)
    (expected : List MessageSpec) (outcomes : List ReceiveOutcome) :
    (playPrReceive host featureId fd expected outcomes = .markNetworkComplete →
        MetadataEnforced expected outcomes) ↔
      (PrComplete expected outcomes → FinalMetadata expected outcomes) := by
  rw [playPrReceive_complete_iff]
  exact forall_congr' fun hcomplete => hcomplete.metadataEnforced_iff

/-- The final message on another stream and with another PPID, and then the timeout. -/
def wrongMetadata : List ReceiveOutcome :=
  [.data (str "pr-ttl-delivered") 0 0 1 true [], .error .eagain]

/-- The worker completes on a message with the wrong metadata. -/
theorem completes_on_wrong_metadata :
    ¬∀ (host : Host) (featureId : CppString) (fd : Nat) (expected : List MessageSpec)
      (outcomes : List ReceiveOutcome), 2 ≤ expected.length →
      playPrReceive host featureId fd expected outcomes = .markNetworkComplete →
      MetadataEnforced expected outcomes := by
  intro hall
  have hdata : receivedData wrongMetadata = [.data (str "pr-ttl-delivered") 0 0 1 true []] :=
    rfl
  have hcomplete : playPrReceive sampleHost (str "pr_sctp_ttl") 5
      (sampleCatalog.definition prSctpTtl.feature).clientSendMessages wrongMetadata =
        .markNetworkComplete := by
    refine playPrReceive_complete_iff.mpr ⟨by decide, ⟨_, rfl, by decide⟩, by decide, ?_⟩
    intro outcome hmem
    rw [hdata, List.mem_singleton] at hmem
    subst hmem
    refine ⟨by decide, fun heq => ?_⟩
    -- the droppable message begins with its own payload
    have hbegin := materializePayload_prefix ⟨str "pr-ttl-drop", 17, 1701, 32768, false,
      str "ttl", 250, 0⟩
    rw [← Option.some.inj heq] at hbegin
    exact absurd hbegin (by decide)
  rcases hall sampleHost (str "pr_sctp_ttl") 5
    (sampleCatalog.definition prSctpTtl.feature).clientSendMessages wrongMetadata (by decide)
    hcomplete with ⟨⟨outcome, hmem, last, hlast, haccepts⟩, -⟩
  cases hlast
  rw [hdata, List.mem_singleton] at hmem
  subst hmem
  exact absurd haccepts.2.1 (by decide)

end SctpConformance
