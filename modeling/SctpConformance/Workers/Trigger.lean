import SctpConformance.Workers.PartiallyReliable

/-!
# The trigger worker

`run_send_after_trigger_worker` awaits one message and then sends its own.  It compares
the trigger with the bytes it has received as a NUL-terminated string, while the other
workers compare whole payloads.

Main results:

- Definition `WorkerStep.sends`: the calls of `sctp_sendv` that a worker makes.
- Theorem `sends_sendLoop`: the messages are sent in their order, up to the first error.
- Theorem `cString_eq_iff`: which received bytes read as the trigger.
- Theorem `exactTrigger_iff`: the worker takes exactly the trigger for the trigger, if and
  only if no NUL byte is in the way.
-/

namespace SctpConformance

variable (host : Host) (featureId : CppString)

/-! ## Sending -/

/-- The message that a call of `sctp_sendv` sends, and the association it is for. -/
def WorkerStep.sending : WorkerStep → WorkerInput → Option (UInt32 × MessageSpec)
  | .send (.sendMessages _ assocId (message :: _)), .sent _ => some (assocId, message)
  | _, _ => none

/-- The calls of `sctp_sendv` that a worker makes while its calls have the given outcomes. -/
def WorkerStep.sends (next : WorkerStep) : List WorkerInput → List (UInt32 × MessageSpec)
  | [] => []
  | input :: inputs =>
      (next.sending input).toList ++ (next.advance host featureId input).sends inputs

/-- The number of sends that the loop makes: it stops after the first error. -/
def sendCount : List SendOutcome → Nat
  | [] => 0
  | none :: results => sendCount results + 1
  | some _ :: _ => 1

variable {host featureId}

/-- The inputs can be gone through in parts. -/
theorem WorkerStep.sends_append (next : WorkerStep) (inputs inputs' : List WorkerInput) :
    next.sends host featureId (inputs ++ inputs') =
      next.sends host featureId inputs ++
        (next.play host featureId inputs).sends host featureId inputs' := by
  induction inputs generalizing next with
  | nil => rfl
  | cons input inputs ih =>
      rw [List.cons_append, WorkerStep.sends, ih, WorkerStep.sends, List.append_assoc]
      rfl

/-- A worker that has decided sends nothing. -/
theorem WorkerStep.Decided.sends {next : WorkerStep} (h : next.Decided)
    (inputs : List WorkerInput) : next.sends host featureId inputs = [] := by
  induction inputs with
  | nil => rfl
  | cons input inputs ih =>
      have hadvance : next.advance host featureId input = next := by
        rcases h with rfl | ⟨message, rfl⟩ <;> cases input <;> rfl
      have hsending : next.sending input = none := by
        rcases h with rfl | ⟨message, rfl⟩ <;> rfl
      rw [WorkerStep.sends, hadvance, ih, hsending]
      rfl

/-- The messages are sent in their order, each once, up to the first error. -/
theorem sends_sendLoop (fd : Nat) (assocId : UInt32) (messages : List MessageSpec)
    (results : List SendOutcome) :
    (sendLoop fd assocId messages).sends host featureId (results.map .sent) =
      (messages.take (sendCount results)).map fun message => (assocId, message) := by
  induction results generalizing messages with
  | nil => simp [WorkerStep.sends, sendCount]
  | cons result results ih =>
      cases messages with
      | nil =>
          rw [List.take_nil, List.map_nil]
          exact WorkerStep.Decided.sends (.inl rfl) _
      | cons message messages =>
          cases result with
          | none =>
              rw [sendCount, List.take_succ_cons, List.map_cons, List.map_cons, ← ih]
              rfl
          | some errno =>
              have hfailed : (WorkerStep.markFailed (host.strerror errno)).Decided :=
                .inr ⟨_, rfl⟩
              have hrest : (WorkerStep.markFailed (host.strerror errno)).sends host featureId
                  (results.map .sent) = [] := hfailed.sends _
              simpa [sendCount, WorkerStep.sends, sendLoop, WorkerStep.sending,
                WorkerStep.advance, WorkerState.onSend] using hrest

/-! ## The comparison -/

/-- A received buffer read as a C string. -/
def cString (bytes : CppString) : CppString :=
  bytes.takeWhile (· ≠ 0)

@[simp]
theorem cString_nil : cString [] = [] :=
  rfl

/-- A C string ends at its first zero byte. -/
@[simp]
theorem cString_nul (bytes : CppString) : cString (0 :: bytes) = [] := by
  simp [cString]

/-- Any other byte belongs to it. -/
theorem cString_cons {b : UInt8} (hb : b ≠ 0) (bytes : CppString) :
    cString (b :: bytes) = b :: cString bytes := by
  simp [cString, hb]

/-- Received bytes read as the trigger if they are the trigger, or continue it with a NUL
byte; a trigger with a NUL byte is never read. -/
theorem cString_eq_iff (trigger bytes : CppString) :
    trigger = cString bytes ↔
      0 ∉ trigger ∧ (bytes = trigger ∨ ∃ rest, bytes = trigger ++ 0 :: rest) := by
  induction bytes generalizing trigger with
  | nil =>
      constructor
      · rintro rfl
        exact ⟨List.not_mem_nil, .inl rfl⟩
      · rintro ⟨-, rfl | ⟨rest, hrest⟩⟩
        · rfl
        · simp at hrest
  | cons b bytes ih =>
      by_cases hb : b = 0
      · subst hb
        rw [cString_nul]
        constructor
        · rintro rfl
          exact ⟨List.not_mem_nil, .inr ⟨bytes, rfl⟩⟩
        · rintro ⟨hnul, rfl | ⟨rest, hrest⟩⟩
          · exact absurd List.mem_cons_self hnul
          · cases trigger with
            | nil => rfl
            | cons t trigger =>
                rw [List.cons_append, List.cons.injEq] at hrest
                exact absurd (hrest.1 ▸ List.mem_cons_self) hnul
      · rw [cString_cons hb]
        cases trigger with
        | nil =>
            refine iff_of_false (by simp) ?_
            rintro ⟨-, heq | ⟨rest, heq⟩⟩
            · simp at heq
            · exact hb (List.cons.inj heq).1
        | cons t trigger =>
            rw [List.cons.injEq, ih trigger]
            constructor
            · rintro ⟨rfl, hnul, hbytes⟩
              refine ⟨fun hmem => ?_, ?_⟩
              · rcases List.mem_cons.mp hmem with hzero | hmem
                · exact hb hzero.symm
                · exact hnul hmem
              · rcases hbytes with rfl | ⟨rest, rfl⟩
                · exact .inl rfl
                · exact .inr ⟨rest, rfl⟩
            · rintro ⟨hnul, hbytes⟩
              rw [List.mem_cons, not_or] at hnul
              rcases hbytes with heq | ⟨rest, heq⟩
              · exact ⟨(List.cons.inj heq).1.symm, hnul.2, .inl (List.cons.inj heq).2⟩
              · exact ⟨(List.cons.inj heq).1.symm, hnul.2, .inr ⟨rest, (List.cons.inj heq).2⟩⟩

/-! ## The worker -/

section

variable {fd : Nat} {trigger : CppString} {messages : List MessageSpec}

/-- What the worker does after a list of outcomes of its receives. -/
def playTrigger (host : Host) (featureId : CppString) (fd : Nat) (trigger : CppString)
    (messages : List MessageSpec) (outcomes : List ReceiveOutcome) : WorkerStep :=
  (Worker.sendAfterTrigger fd trigger messages).start.play host featureId
    (outcomes.map .received)

/-- What the worker sends in a run: it receives, and then its sends have the given results. -/
def sentMessages (host : Host) (featureId : CppString) (fd : Nat) (trigger : CppString)
    (messages : List MessageSpec) (outcomes : List ReceiveOutcome)
    (results : List SendOutcome) : List (UInt32 × MessageSpec) :=
  (Worker.sendAfterTrigger fd trigger messages).start.sends host featureId
    (outcomes.map .received ++ results.map .sent)

/-- A receive sends nothing. -/
theorem sends_received (next : WorkerStep) (outcomes : List ReceiveOutcome) :
    next.sends host featureId (outcomes.map .received) = [] := by
  induction outcomes generalizing next with
  | nil => rfl
  | cons outcome outcomes ih =>
      have hsending : next.sending (.received outcome) = none := by
        unfold WorkerStep.sending
        split
        · contradiction
        · rfl
      rw [List.map_cons, WorkerStep.sends, hsending, ih]
      rfl

/-- A worker that waits for a message sends nothing. -/
theorem sends_receive (state : WorkerState) (results : List SendOutcome) :
    (WorkerStep.receive state).sends host featureId (results.map .sent) = [] := by
  induction results with
  | nil => rfl
  | cons result results ih => exact ih

/-- What is sent after the trigger is what the worker sends from then on. -/
theorem sentMessages_eq (outcomes : List ReceiveOutcome) (results : List SendOutcome) :
    sentMessages host featureId fd trigger messages outcomes results =
      (playTrigger host featureId fd trigger messages outcomes).sends host featureId
        (results.map .sent) := by
  rw [sentMessages, WorkerStep.sends_append, sends_received, List.nil_append]
  rfl

/-- A worker that sends does not look at what it might receive. -/
theorem sendLoop_play_received (assocId : UInt32) (outcomes : List ReceiveOutcome) :
    (sendLoop fd assocId messages).play host featureId (outcomes.map .received) =
      sendLoop fd assocId messages := by
  cases messages with
  | nil => exact WorkerStep.Decided.play (.inl rfl) _
  | cons message messages =>
      induction outcomes with
      | nil => rfl
      | cons outcome outcomes ih => exact ih

/-- The first data decides. -/
theorem playTrigger_some (host : Host) (featureId : CppString) (fd : Nat) (trigger : CppString)
    (messages : List MessageSpec) {outcomes : List ReceiveOutcome} {payload : CppString}
    {stream : UInt16} {ppid assocId : UInt32} {eor : Bool} {peerAddrs : List CppString}
    (h : (receivedData outcomes).head? =
      some (.data payload stream ppid assocId eor peerAddrs)) :
    playTrigger host featureId fd trigger messages outcomes =
      if trigger ≠ [] ∧ trigger ≠ cString payload then
        .markFailed (str "unexpected trigger payload")
      else sendLoop fd assocId messages := by
  induction outcomes with
  | nil => contradiction
  | cons outcome outcomes ih =>
      cases outcome with
      | error errno => simp at h
      | notification => exact ih (by simpa using h)
      | data payload' stream' ppid' assocId' eor' peerAddrs' =>
          rw [receivedData_data, List.head?_cons] at h
          cases h
          change ((WorkerState.awaitTrigger fd trigger messages).onReceive host featureId
            (.data payload stream ppid assocId eor peerAddrs)).play host featureId
              (outcomes.map .received) = _
          simp only [WorkerState.onReceive]
          by_cases hwrong : trigger ≠ [] ∧ trigger ≠ cString payload
          · have hcond : trigger ≠ [] ∧ trigger ≠ payload.takeWhile (· ≠ 0) := hwrong
            rw [if_pos hcond, if_pos hwrong]
            exact WorkerStep.Decided.play (.inr ⟨_, rfl⟩) _
          · have hcond : ¬(trigger ≠ [] ∧ trigger ≠ payload.takeWhile (· ≠ 0)) := hwrong
            rw [if_neg hcond, if_neg hwrong]
            exact sendLoop_play_received assocId outcomes

/-- Without data nothing is sent. -/
theorem playTrigger_none (host : Host) (featureId : CppString) (fd : Nat) (trigger : CppString)
    (messages : List MessageSpec) {outcomes : List ReceiveOutcome} (h : receivedData outcomes = []) :
    playTrigger host featureId fd trigger messages outcomes =
        .receive (.awaitTrigger fd trigger messages) ∨
      ∃ text, playTrigger host featureId fd trigger messages outcomes = .markFailed text := by
  induction outcomes with
  | nil => exact .inl rfl
  | cons outcome outcomes ih =>
      cases outcome with
      | notification => exact ih (by simpa using h)
      | data payload stream ppid assocId eor peerAddrs => simp at h
      | error errno => exact .inr ⟨_, WorkerStep.Decided.play (.inr ⟨_, rfl⟩) _⟩

/-! ## The exact trigger -/

/-- Exactly the trigger makes the worker send: its messages in order, each once, up to the
first error.  Any other first message fails it, and without one it sends nothing. -/
structure ExactTrigger (host : Host) (featureId : CppString) (fd : Nat) (trigger : CppString)
    (messages : List MessageSpec) (outcomes : List ReceiveOutcome) : Prop where
  matched : ∀ first ∈ (receivedData outcomes).head?, first.payload? = some trigger →
    ∀ assocId ∈ first.assocId,
      playTrigger host featureId fd trigger messages outcomes = sendLoop fd assocId messages ∧
      ∀ results, sentMessages host featureId fd trigger messages outcomes results =
        (messages.take (sendCount results)).map fun message => (assocId, message)
  other : ∀ first ∈ (receivedData outcomes).head?, first.payload? ≠ some trigger →
    (∃ text, playTrigger host featureId fd trigger messages outcomes = .markFailed text) ∧
      ∀ results, sentMessages host featureId fd trigger messages outcomes results = []
  silent : receivedData outcomes = [] →
    ∀ results, sentMessages host featureId fd trigger messages outcomes results = []

/-- No NUL byte is in the way: a trigger without one is not continued by one, and one with a
NUL byte is not received. -/
def NoNulInTheWay (trigger : CppString) (outcomes : List ReceiveOutcome) : Prop :=
  ∀ first ∈ (receivedData outcomes).head?, ∀ payload ∈ first.payload?,
    (0 ∉ trigger → ∀ rest, payload ≠ trigger ++ 0 :: rest) ∧ (0 ∈ trigger → payload ≠ trigger)

/-- The loop itself does not make the feature fail. -/
theorem sendLoop_ne_markFailed (assocId : UInt32) (text : CppString) :
    sendLoop fd assocId messages ≠ .markFailed text := by
  cases messages <;> simp [sendLoop]

/-- The comparison as a C string is the comparison of the payloads, if no NUL byte is in
the way. -/
theorem cString_ne_iff {payload : CppString}
    (h : (0 ∉ trigger → ∀ rest, payload ≠ trigger ++ 0 :: rest) ∧
      (0 ∈ trigger → payload ≠ trigger)) :
    trigger ≠ cString payload ↔ payload ≠ trigger := by
  rw [Ne, cString_eq_iff, not_iff_not]
  constructor
  · rintro ⟨hnul, heq | ⟨rest, heq⟩⟩
    · exact heq
    · exact absurd heq (h.1 hnul rest)
  · intro heq
    exact ⟨fun hnul => h.2 hnul heq, .inl heq⟩

/-- The worker takes exactly the trigger for the trigger if and only if no NUL byte is in
the way. -/
theorem exactTrigger_iff (host : Host) (featureId : CppString) (fd : Nat)
    {trigger : CppString} (htrigger : trigger ≠ []) (messages : List MessageSpec)
    (outcomes : List ReceiveOutcome) :
    ExactTrigger host featureId fd trigger messages outcomes ↔ NoNulInTheWay trigger outcomes := by
  constructor
  · intro hexact first hfirst payload hpayload
    cases first with
    | error errno => contradiction
    | notification => contradiction
    | data payload' stream ppid assocId eor peerAddrs =>
        cases hpayload
        have hplay := playTrigger_some host featureId fd trigger messages hfirst
        refine ⟨fun hnul rest heq => ?_, fun hnul heq => ?_⟩
        · -- the continued trigger reads as the trigger, so the worker goes on
          have hreads : trigger = cString payload :=
            (cString_eq_iff trigger payload).mpr ⟨hnul, .inr ⟨rest, heq⟩⟩
          rw [if_neg fun hwrong => hwrong.2 hreads] at hplay
          have hother : some payload ≠ some trigger := by simp [heq]
          rcases (hexact.other _ hfirst hother).1 with ⟨text, hfailed⟩
          exact sendLoop_ne_markFailed assocId text (hplay.symm.trans hfailed)
        · -- the trigger itself does not read as the trigger
          have hreads : trigger ≠ cString payload := fun hreads =>
            ((cString_eq_iff trigger payload).mp hreads).1 hnul
          rw [if_pos ⟨htrigger, hreads⟩] at hplay
          have hsends := (hexact.matched _ hfirst (congrArg some heq) assocId rfl).1
          exact sendLoop_ne_markFailed assocId _ (hsends.symm.trans hplay)
  · intro hfree
    refine ⟨fun first hfirst hmatched assocId hassoc => ?_, fun first hfirst hother => ?_,
      fun hnone results => ?_⟩
    · cases first with
      | error errno => contradiction
      | notification => contradiction
      | data payload stream ppid assocId' eor peerAddrs =>
          cases hassoc
          have hreads := cString_ne_iff (hfree _ hfirst payload rfl)
          have hplay := playTrigger_some host featureId fd trigger messages hfirst
          rw [if_neg fun hwrong => hreads.mp hwrong.2 (Option.some.inj hmatched)] at hplay
          refine ⟨hplay, fun results => ?_⟩
          rw [sentMessages_eq, hplay, sends_sendLoop]
    · have hdata := receivedData_isSome (List.mem_of_mem_head? hfirst)
      cases first with
      | error errno => contradiction
      | notification => contradiction
      | data payload stream ppid assocId eor peerAddrs =>
          have hreads := cString_ne_iff (hfree _ hfirst payload rfl)
          have hplay := playTrigger_some host featureId fd trigger messages hfirst
          rw [if_pos ⟨htrigger, hreads.mpr fun heq => hother (congrArg some heq)⟩] at hplay
          refine ⟨⟨_, hplay⟩, fun results => ?_⟩
          rw [sentMessages_eq, hplay]
          exact WorkerStep.Decided.sends (.inr ⟨_, rfl⟩) _
    · rw [sentMessages_eq]
      rcases playTrigger_none host featureId fd trigger messages hnone with hplay | ⟨text, hplay⟩
      · rw [hplay, sends_receive]
      · rw [hplay]
        exact WorkerStep.Decided.sends (.inr ⟨_, rfl⟩) _

end

/-! ## A NUL byte in the way -/

/-- The trigger of a feature of the catalog. -/
def streamAddReady : CppString :=
  str "stream-add-ready"

/-- The answer of that feature. -/
def streamAddAck : List MessageSpec :=
  [⟨str "stream-add-ack", 16, 1602, 0, false, [], 0, 0⟩]

/-- The trigger, continued with a NUL byte and two more bytes. -/
def continuedTrigger : List ReceiveOutcome :=
  [.data (streamAddReady ++ [0, 33, 33]) 0 0 1 true []]

theorem exactTrigger_iff_continued :
    ExactTrigger sampleHost (str "stream_reconfig_add_streams") 5 streamAddReady streamAddAck
        continuedTrigger ↔
      NoNulInTheWay streamAddReady continuedTrigger :=
  exactTrigger_iff sampleHost (str "stream_reconfig_add_streams") 5 (by decide) streamAddAck
    continuedTrigger

/-- The worker answers a message that is longer than the trigger. -/
theorem answers_continued_trigger :
    ¬∀ (host : Host) (featureId : CppString) (fd : Nat) (trigger : CppString)
      (messages : List MessageSpec) (outcomes : List ReceiveOutcome), trigger ≠ [] →
      ExactTrigger host featureId fd trigger messages outcomes := by
  intro hall
  have hexact := hall sampleHost (str "stream_reconfig_add_streams") 5 streamAddReady
    streamAddAck continuedTrigger (by decide)
  rcases (hexact.other _ rfl (by decide)).1 with ⟨text, hfailed⟩
  have hsends : playTrigger sampleHost (str "stream_reconfig_add_streams") 5 streamAddReady
      streamAddAck continuedTrigger = sendLoop 5 1 streamAddAck := by decide
  exact sendLoop_ne_markFailed 1 text (hsends.symm.trans hfailed)

end SctpConformance
