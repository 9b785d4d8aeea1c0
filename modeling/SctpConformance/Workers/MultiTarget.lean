import SctpConformance.Sequential.Handlers
import SctpConformance.Workers.Receive
import Mathlib.Algebra.GroupWithZero.Nat

/-!
# The multi-target worker

`run_receive_multi_target_worker` awaits one message on each of its sockets, in
the order of the sockets; the client sends in any order.  A socket is a queue:
what arrives on it is appended, and a receive takes the first entry or blocks.

Main results:

- Theorem `play_multiTarget`: the worker is a reader of `expectedChecklist`.
- Definition `Mailboxes.run`: the worker over its queues, in any interleaving of
  arrivals and receives.
- Theorem `Standing.run`: after any interleaving, the worker stands where the first
  messages of its sockets put it.
- Theorem `Ready.completes`: with the right first messages, it completes.
- Theorem `startFeature_opened`: what a start that succeeds has opened.
- Theorem `multiTarget_scoring`: contract, sockets and verdict of such a start.
-/

namespace SctpConformance

open Library

variable {host : Host} {featureId : CppString} {fds : List Nat} {expected : List MessageSpec}

/-! ## The worker as a reader -/

/-- The step of the worker at a stage of its checklist. -/
def multiTargetStep (fds : List Nat) (expected : List MessageSpec) :
    Checklist.Stage CppString → WorkerStep
  | .waiting i => .receive (.receiveMultiTarget fds expected i)
  | .done => .markNetworkComplete
  | .failed message => .markFailed message

/-- The text for a receive that runs into the timeout of the socket. -/
def multiTargetTimeoutText : String :=
  "timed out waiting for one-to-many SCTP client traffic"

/-- The loop head is a stage of the reader. -/
theorem receiveMultiTargetLoop_eq (host : Host) (featureId : CppString) (i : Nat) :
    receiveMultiTargetLoop fds expected i =
      multiTargetStep fds expected
        ((expectedChecklist host featureId multiTargetTimeoutText expected 0).stage i) := by
  by_cases hi : i < expected.length
  · have hstage : (expectedChecklist host featureId multiTargetTimeoutText expected 0).stage i =
        .waiting i := if_pos hi
    rw [receiveMultiTargetLoop, if_pos hi, hstage, multiTargetStep]
  · have hstage : (expectedChecklist host featureId multiTargetTimeoutText expected 0).stage i =
        .done := if_neg hi
    rw [receiveMultiTargetLoop, if_neg hi, hstage, multiTargetStep]

/-- One receive is one step of the reader. -/
theorem multiTargetStep_advance (host : Host) (featureId : CppString) (fds : List Nat)
    (expected : List MessageSpec) (stage : Checklist.Stage CppString)
    (outcome : ReceiveOutcome) :
    (multiTargetStep fds expected stage).advance host featureId (.received outcome) =
      multiTargetStep fds expected
        ((expectedChecklist host featureId multiTargetTimeoutText expected 0).step stage
          outcome) := by
  cases stage with
  | done => rfl
  | failed message => rfl
  | waiting i =>
      cases outcome with
      | error errno => rfl
      | notification => rfl
      | data payload stream ppid assocId eor peerAddrs =>
          change (WorkerState.receiveMultiTarget fds expected i).onReceive host featureId
            (.data payload stream ppid assocId eor peerAddrs) = _
          simp only [WorkerState.onReceive]
          split
          · rename_i message hmessage
            have hcheck : (expectedChecklist host featureId multiTargetTimeoutText expected
                0).check i (.data payload stream ppid assocId eor peerAddrs) = some message := by
              simp [expectedChecklist, -List.getD_eq_getElem?_getD, hmessage]
            rw [Checklist.step_eq_failed rfl hcheck, multiTargetStep]
          · rename_i hnone
            have hcheck : (expectedChecklist host featureId multiTargetTimeoutText expected
                0).check i (.data payload stream ppid assocId eor peerAddrs) = none := by
              simp [expectedChecklist, -List.getD_eq_getElem?_getD, hnone]
            rw [Checklist.step_eq_stage rfl hcheck, ← receiveMultiTargetLoop_eq]

/-- The worker is a reader of its checklist. -/
theorem play_multiTarget (hlength : fds.length = expected.length)
    (outcomes : List ReceiveOutcome) :
    (Worker.receiveMultiTarget fds expected).start.play host featureId
        (outcomes.map .received) =
      multiTargetStep fds expected
        ((expectedChecklist host featureId multiTargetTimeoutText expected 0).run
          ((expectedChecklist host featureId multiTargetTimeoutText expected 0).stage 0)
          outcomes) := by
  rw [Worker.start, if_neg (not_not.mpr hlength),
    receiveMultiTargetLoop_eq host featureId]
  generalize (expectedChecklist host featureId multiTargetTimeoutText expected 0).stage 0 = stage
  induction outcomes generalizing stage with
  | nil => rfl
  | cons outcome outcomes ih =>
      rw [List.map_cons, Checklist.run_cons, ← ih, ← multiTargetStep_advance]
      rfl

/-- The worker completes exactly if the first messages it receives are the expected ones. -/
theorem play_multiTarget_complete_iff (hlength : fds.length = expected.length)
    (outcomes : List ReceiveOutcome) :
    (Worker.receiveMultiTarget fds expected).start.play host featureId
        (outcomes.map .received) = .markNetworkComplete ↔
      Complete expected 0 (dropNotifications outcomes) := by
  rw [play_multiTarget hlength, ← expectedChecklist_passes_iff fun _ h => dropNotifications_ne h]
  refine Iff.trans ?_ (Checklist.run_eq_done_iff outcomes)
  generalize (expectedChecklist host featureId multiTargetTimeoutText expected 0).run _
    outcomes = stage
  cases stage <;> simp [multiTargetStep]

/-- The expected message moves the worker on to its next socket. -/
theorem onReceive_accepts (host : Host) (featureId : CppString) (fds : List Nat) {i : Nat}
    {message : MessageSpec} {outcome : ReceiveOutcome}
    (hmessage : expected[i]? = some message) (haccepts : message.Accepts outcome) :
    (WorkerState.receiveMultiTarget fds expected i).onReceive host featureId outcome =
      receiveMultiTargetLoop fds expected (i + 1) := by
  have hdata : outcome ≠ .notification := by
    rintro rfl
    exact haccepts
  have hcheck : (expectedChecklist host featureId multiTargetTimeoutText expected 0).check i
      outcome = none :=
    (expectedChecklist_check_eq_none_iff hmessage hdata).mpr ⟨haccepts, fun _ => Nat.zero_le _⟩
  have hnext := multiTargetStep_advance host featureId fds expected (.waiting i) outcome
  rwa [Checklist.step_eq_stage (by simp [expectedChecklist, hdata]) hcheck,
    ← receiveMultiTargetLoop_eq] at hnext

/-- Any other message ends it. -/
theorem onReceive_rejects (host : Host) (featureId : CppString) (fds : List Nat) {i : Nat}
    {message : MessageSpec} {outcome : ReceiveOutcome}
    (hmessage : expected[i]? = some message) (hdata : outcome ≠ .notification)
    (hrejects : ¬message.Accepts outcome) :
    ∃ text, (WorkerState.receiveMultiTarget fds expected i).onReceive host featureId outcome =
      .markFailed text := by
  have hcheck : (expectedChecklist host featureId multiTargetTimeoutText expected 0).check i
      outcome ≠ none :=
    fun hnone => hrejects ((expectedChecklist_check_eq_none_iff hmessage hdata).mp hnone).1
  rcases Option.ne_none_iff_exists'.mp hcheck with ⟨text, hcheck⟩
  have hnext := multiTargetStep_advance host featureId fds expected (.waiting i) outcome
  rw [Checklist.step_eq_failed (by simp [expectedChecklist, hdata]) hcheck] at hnext
  exact ⟨text, hnext⟩

/-- The sockets of a worker have different descriptors. -/
theorem getD_ne_getD (hlength : fds.length = expected.length) (hnodup : fds.Nodup) {i j : Nat}
    (hij : i < j) (hj : j < expected.length) : fds.getD j 0 ≠ fds.getD i 0 := by
  have hget : ∀ k (hk : k < fds.length), fds.getD k 0 = fds[k] := by
    intro k hk
    simp [hk]
  have hj : j < fds.length := hlength ▸ hj
  rw [hget i (hij.trans hj), hget j hj]
  exact fun heq => hij.ne' ((List.Nodup.getElem_inj_iff hnodup).mp heq)

/-- A change for one socket leaves those of the later messages alone. -/
theorem update_getD {α : Type} (hlength : fds.length = expected.length) (hnodup : fds.Nodup)
    {i j : Nat} (hij : i < j) (hj : j < expected.length) (queued : Nat → α) (rest : α) :
    Function.update queued (fds.getD i 0) rest (fds.getD j 0) = queued (fds.getD j 0) :=
  Function.update_of_ne (getD_ne_getD hlength hnodup hij hj) _ _

/-! ## Queues -/

/-- What arrives on a socket: a message or a notification. -/
abbrev Incoming :=
  { outcome : ReceiveOutcome // ∀ errno, outcome ≠ .error errno }

/-- Something arrives on the socket of a descriptor, or the worker makes its next receive. -/
inductive Delivery where
  | arrive (fd : Nat) (arrival : Incoming)
  | receive

/-- What waits on each descriptor, and what the worker does next. -/
structure Mailboxes where
  queued : Nat → List ReceiveOutcome
  next : WorkerStep

namespace Mailboxes

variable (host featureId)

/-- The receive of a worker takes the first entry of the queue of its descriptor, and
blocks while there is none. -/
def step (s : Mailboxes) : Delivery → Mailboxes
  | .arrive fd arrival =>
      { s with queued := Function.update s.queued fd (s.queued fd ++ [arrival.val]) }
  | .receive =>
      match s.next with
      | .receive state =>
          match s.queued state.fd with
          | [] => s
          | outcome :: rest =>
              { queued := Function.update s.queued state.fd rest
                next := state.onReceive host featureId outcome }
      | _ => s

/-- One delivery after the other. -/
def run (s : Mailboxes) (deliveries : List Delivery) : Mailboxes :=
  deliveries.foldl (step host featureId) s

/-- A receive on a queue that has an entry. -/
theorem step_receive {s : Mailboxes} {state : WorkerState} {outcome : ReceiveOutcome}
    {rest : List ReceiveOutcome} (hnext : s.next = .receive state)
    (hqueue : s.queued state.fd = outcome :: rest) :
    s.step host featureId .receive =
      { queued := Function.update s.queued state.fd rest
        next := state.onReceive host featureId outcome } := by
  simp only [step, hnext, hqueue]

/-- Nothing has arrived yet. -/
def empty (worker : Worker) : Mailboxes where
  queued _ := []
  next := worker.start

end Mailboxes

/-- What has arrived on a descriptor, in order. -/
def arrivedOn (fd : Nat) (deliveries : List Delivery) : List ReceiveOutcome :=
  deliveries.filterMap fun
    | .arrive fd' arrival => if fd' = fd then some arrival.val else none
    | .receive => none

/-- The first message among the outcomes of a socket. -/
def firstMessage (outcomes : List ReceiveOutcome) : Option ReceiveOutcome :=
  (dropNotifications outcomes).head?

/-- The first message on socket `i` is the expected message `i`. -/
def FirstMatches (fds : List Nat) (expected : List MessageSpec)
    (arrived : Nat → List ReceiveOutcome) (i : Nat) : Prop :=
  ∃ outcome ∈ firstMessage (arrived (fds.getD i 0)),
    ∃ message ∈ expected[i]?, message.Accepts outcome

/-- What arrives later does not change the first message. -/
theorem firstMessage_append {outcomes : List ReceiveOutcome} {first : ReceiveOutcome}
    (h : firstMessage outcomes = some first) (more : List ReceiveOutcome) :
    firstMessage (outcomes ++ more) = some first := by
  unfold firstMessage dropNotifications at h ⊢
  rw [List.filter_append, List.head?_append, h, Option.some_or]

/-- A notification is no message. -/
theorem firstMessage_notification (outcomes : List ReceiveOutcome) :
    firstMessage (.notification :: outcomes) = firstMessage outcomes := by
  simp [firstMessage, dropNotifications]

/-- Anything else is the first message when it arrives first. -/
theorem firstMessage_cons {outcome : ReceiveOutcome} (h : outcome ≠ .notification)
    (outcomes : List ReceiveOutcome) : firstMessage (outcome :: outcomes) = some outcome := by
  simp [firstMessage, dropNotifications, h]

/-! ## Where the worker stands -/

/-- The worker stands where what has arrived puts it: the sockets it is done with had
the right first message, and of the others it has taken notifications only. -/
inductive Standing (fds : List Nat) (expected : List MessageSpec)
    (arrived : Nat → List ReceiveOutcome) (s : Mailboxes) : Prop
  | awaiting (i : Nat) (inRange : i < expected.length)
      (next : s.next = .receive (.receiveMultiTarget fds expected i))
      (matched : ∀ j < i, FirstMatches fds expected arrived j)
      (left : ∀ j, i ≤ j → j < expected.length →
        dropNotifications (s.queued (fds.getD j 0)) = dropNotifications (arrived (fds.getD j 0)))
  | complete (next : s.next = .markNetworkComplete)
      (matched : ∀ j < expected.length, FirstMatches fds expected arrived j)
  | failed (i : Nat) (inRange : i < expected.length) (message : CppString)
      (next : s.next = .markFailed message) (first : ReceiveOutcome)
      (arrives : firstMessage (arrived (fds.getD i 0)) = some first)
      (wrong : ∀ m ∈ expected[i]?, ¬m.Accepts first)

section

variable {arrived : Nat → List ReceiveOutcome} {s : Mailboxes}

/-- A first message that matches goes on matching. -/
theorem FirstMatches.append {i : Nat} (h : FirstMatches fds expected arrived i)
    (more : Nat → List ReceiveOutcome) :
    FirstMatches fds expected (fun fd => arrived fd ++ more fd) i := by
  rcases h with ⟨outcome, houtcome, hmessage⟩
  exact ⟨outcome, firstMessage_append houtcome _, hmessage⟩

/-- An arrival moves no worker. -/
theorem Standing.arrive (h : Standing fds expected arrived s) (fd : Nat) (incoming : Incoming) :
    Standing fds expected
      (fun fd' => arrived fd' ++ if fd = fd' then [incoming.val] else [])
      (s.step host featureId (.arrive fd incoming)) := by
  cases h with
  | awaiting i inRange next matched left =>
      refine .awaiting i inRange next (fun j hj => (matched j hj).append _) fun j hij hj => ?_
      have hleft := left j hij hj
      simp only [Mailboxes.step, Function.update_apply]
      split
      · rename_i hfd
        rw [hfd] at hleft
        rw [hfd, if_pos rfl]
        simpa [dropNotifications] using hleft
      · rename_i hfd
        rw [if_neg (Ne.symm hfd), List.append_nil]
        exact hleft
  | complete next matched => exact .complete next fun j hj => (matched j hj).append _
  | failed i inRange message next first arrives wrong =>
      exact .failed i inRange message next first (firstMessage_append arrives _) wrong

/-- A receive moves the worker on, past a notification or by its check of a message. -/
theorem Standing.receive (hlength : fds.length = expected.length) (hnodup : fds.Nodup)
    (h : Standing fds expected arrived s) :
    Standing fds expected arrived (s.step host featureId .receive) := by
  cases h with
  | complete next matched =>
      refine .complete ?_ matched
      simp [Mailboxes.step, next]
  | failed i inRange message next first arrives wrong =>
      refine .failed i inRange message ?_ first arrives wrong
      simp [Mailboxes.step, next]
  | awaiting i inRange next matched left =>
      have hfd : (WorkerState.receiveMultiTarget fds expected i).fd = fds.getD i 0 := rfl
      have hqueue := left i le_rfl inRange
      cases hq : s.queued (fds.getD i 0) with
      | nil =>
          have hblocked : s.step host featureId .receive = s := by
            simp only [Mailboxes.step, next, hfd, hq]
          rw [hblocked]
          exact .awaiting i inRange next matched left
      | cons outcome rest =>
          rw [Mailboxes.step_receive host featureId next (hfd ▸ hq), hfd]
          rw [hq] at hqueue
          by_cases hdata : outcome = .notification
          · subst hdata
            refine .awaiting i inRange rfl matched fun j hij hj => ?_
            dsimp only
            rcases Nat.eq_or_lt_of_le hij with rfl | hlt
            · rw [Function.update_self, ← hqueue]
              simp [dropNotifications]
            · rw [update_getD hlength hnodup hlt hj]
              exact left j hij hj
          · have hfirst : firstMessage (arrived (fds.getD i 0)) = some outcome := by
              rw [firstMessage, ← hqueue]
              exact firstMessage_cons hdata rest
            have hmessage : expected[i]? = some expected[i] := List.getElem?_eq_getElem inRange
            by_cases haccepts : expected[i].Accepts outcome
            · have hnext := onReceive_accepts host featureId fds hmessage haccepts
              have hmatched : ∀ j < i + 1, FirstMatches fds expected arrived j := by
                intro j hj
                rcases Nat.eq_or_lt_of_le (Nat.le_of_lt_succ hj) with rfl | hlt
                · exact ⟨outcome, hfirst, expected[j], hmessage, haccepts⟩
                · exact matched j hlt
              by_cases hlast : i + 1 < expected.length
              · refine .awaiting (i + 1) hlast (hnext.trans (if_pos hlast)) hmatched
                  fun j hij hj => ?_
                dsimp only
                rw [update_getD hlength hnodup hij hj]
                exact left j (Nat.le_of_succ_le hij) hj
              · exact .complete (hnext.trans (if_neg hlast)) fun j hj =>
                  hmatched j (by omega)
            · rcases onReceive_rejects host featureId fds hmessage hdata haccepts with ⟨text, hnext⟩
              refine .failed i inRange text hnext outcome hfirst fun m hm => ?_
              cases Option.mem_unique hm hmessage
              exact haccepts

/-- After any interleaving the worker stands where the arrivals put it. -/
theorem Standing.run (host : Host) (featureId : CppString)
    (hlength : fds.length = expected.length) (hnodup : fds.Nodup)
    (deliveries : List Delivery) :
    Standing fds expected (fun fd => arrivedOn fd deliveries)
      ((Mailboxes.empty (.receiveMultiTarget fds expected)).run host featureId deliveries) := by
  induction deliveries using List.reverseRecOn with
  | nil =>
      have hstart : (Worker.receiveMultiTarget fds expected).start =
          receiveMultiTargetLoop fds expected 0 := by
        rw [Worker.start, if_neg (not_not.mpr hlength)]
      by_cases hsome : 0 < expected.length
      · exact .awaiting 0 hsome (hstart.trans (if_pos hsome))
          (fun j hj => absurd hj (Nat.not_lt_zero j)) fun _ _ _ => rfl
      · exact .complete (hstart.trans (if_neg hsome)) fun j hj => absurd hj (by omega)
  | append_singleton deliveries delivery ih =>
      rw [Mailboxes.run, List.foldl_append]
      cases delivery with
      | receive => simpa [arrivedOn, Mailboxes.run] using ih.receive hlength hnodup
      | arrive fd incoming =>
          have harrived : (fun fd' => arrivedOn fd' (deliveries ++ [.arrive fd incoming])) =
              fun fd' => arrivedOn fd' deliveries ++ if fd = fd' then [incoming.val] else [] := by
            funext fd'
            by_cases hfd : fd = fd' <;> simp [arrivedOn, hfd]
          rw [harrived]
          change Standing fds expected _ (Mailboxes.step host featureId
            (Mailboxes.run host featureId _ deliveries) (.arrive fd incoming))
          exact ih.arrive fd incoming

/-! ## The worker gets on -/

/-- The number of receives that a queue takes up to its first message. -/
def receivesNeeded (outcomes : List ReceiveOutcome) : Nat :=
  (outcomes.takeWhile fun outcome => decide (outcome = .notification)).length + 1

/-- The receives up to the first message are not changed by later arrivals. -/
theorem receivesNeeded_append {outcomes : List ReceiveOutcome} {first : ReceiveOutcome}
    (h : firstMessage outcomes = some first) (more : List ReceiveOutcome) :
    receivesNeeded (outcomes ++ more) = receivesNeeded outcomes := by
  induction outcomes with
  | nil => simp [firstMessage, dropNotifications] at h
  | cons outcome outcomes ih =>
      by_cases hdata : outcome = .notification
      · subst hdata
        rw [firstMessage_notification] at h
        simpa [receivesNeeded] using ih h
      · simp [receivesNeeded, hdata]

/-- The worker awaits message `i`, and the right first message waits on its socket and
on every socket after it. -/
structure Ready (fds : List Nat) (expected : List MessageSpec) (s : Mailboxes) (i : Nat) :
    Prop where
  inRange : i < expected.length
  next : s.next = .receive (.receiveMultiTarget fds expected i)
  waiting : ∀ j, i ≤ j → j < expected.length → FirstMatches fds expected s.queued j

/-- The deliveries that a receive call takes. -/
def Delivery.isReceive : Delivery → Bool
  | .receive => true
  | .arrive _ _ => false

/-- The receives that a worker takes to its end, if message `i` is its next. -/
def receivesLeft (fds : List Nat) (queued : Nat → List ReceiveOutcome) (i : Nat) : Nat :=
  ((fds.drop i).map fun fd => receivesNeeded (queued fd)).sum

/-- The receives of one socket, and those of the sockets behind it. -/
theorem receivesLeft_eq {i : Nat} (hi : i < fds.length) (queued : Nat → List ReceiveOutcome) :
    receivesLeft fds queued i =
      receivesNeeded (queued (fds.getD i 0)) + receivesLeft fds queued (i + 1) := by
  rw [receivesLeft, List.drop_eq_getElem_cons hi, List.map_cons, List.sum_cons]
  simp [receivesLeft, hi]

/-- The queues of sockets before the next one do not count. -/
theorem receivesLeft_congr {queued queued' : Nat → List ReceiveOutcome} {i : Nat}
    (h : ∀ j, i ≤ j → j < fds.length →
      receivesNeeded (queued (fds.getD j 0)) = receivesNeeded (queued' (fds.getD j 0))) :
    receivesLeft fds queued i = receivesLeft fds queued' i := by
  refine congrArg List.sum (List.map_congr_left fun fd hfd => ?_)
  rcases List.mem_iff_getElem.mp hfd with ⟨k, hk, rfl⟩
  have hk' : i + k < fds.length := by
    rw [List.length_drop] at hk
    omega
  simpa [hk'] using h (i + k) (Nat.le_add_right i k) hk'

/-- Deliveries can be gone through in parts. -/
theorem Mailboxes.run_append (s : Mailboxes) (deliveries more : List Delivery) :
    s.run host featureId (deliveries ++ more) =
      (s.run host featureId deliveries).run host featureId more := by
  simp [Mailboxes.run]

/-- A worker that is done stays so. -/
theorem Mailboxes.run_complete {s : Mailboxes} (h : s.next = .markNetworkComplete)
    (deliveries : List Delivery) :
    (s.run host featureId deliveries).next = .markNetworkComplete := by
  induction deliveries generalizing s with
  | nil => exact h
  | cons delivery deliveries ih =>
      refine ih ?_
      cases delivery with
      | arrive fd incoming => exact h
      | receive => simp [Mailboxes.step, h]

/-- A queue can only grow when something arrives. -/
theorem Mailboxes.queued_arrive (s : Mailboxes) (fd : Nat) (incoming : Incoming) (fd' : Nat) :
    ∃ more, (s.step host featureId (.arrive fd incoming)).queued fd' = s.queued fd' ++ more := by
  by_cases hfd : fd' = fd
  · subst hfd
    exact ⟨[incoming.val], by simp [Mailboxes.step]⟩
  · exact ⟨[], by simp [Mailboxes.step, hfd]⟩

/-- What arrives later does not change the first messages. -/
theorem Ready.arrive {i : Nat} (h : Ready fds expected s i) (fd : Nat) (incoming : Incoming) :
    Ready fds expected (s.step host featureId (.arrive fd incoming)) i := by
  refine ⟨h.inRange, h.next, fun j hij hj => ?_⟩
  rcases h.waiting j hij hj with ⟨outcome, houtcome, hmessage⟩
  rcases s.queued_arrive fd incoming (fds.getD j 0) with ⟨more, hmore⟩
  refine ⟨outcome, ?_, hmessage⟩
  rw [hmore]
  exact firstMessage_append houtcome more

/-- A queue with a first message needs no more receives when it grows. -/
theorem Ready.receivesLeft_arrive (hlength : fds.length = expected.length) {i : Nat}
    (h : Ready fds expected s i) (fd : Nat) (incoming : Incoming) :
    receivesLeft fds (s.step host featureId (.arrive fd incoming)).queued i =
      receivesLeft fds s.queued i := by
  refine receivesLeft_congr fun j hij hj => ?_
  rcases h.waiting j hij (hlength ▸ hj) with ⟨outcome, houtcome, -⟩
  rcases s.queued_arrive fd incoming (fds.getD j 0) with ⟨more, hmore⟩
  rw [hmore]
  exact receivesNeeded_append houtcome more

/-- The first messages of the later sockets wait on when a queue before them is read. -/
theorem FirstMatches.of_later (hlength : fds.length = expected.length) (hnodup : fds.Nodup)
    {queued : Nat → List ReceiveOutcome} {i j : Nat} (hij : i < j) (hj : j < expected.length)
    (rest : List ReceiveOutcome) (h : FirstMatches fds expected queued j) :
    FirstMatches fds expected (Function.update queued (fds.getD i 0) rest) j := by
  rcases h with ⟨later, hlater, hmatches⟩
  refine ⟨later, ?_, hmatches⟩
  rwa [update_getD hlength hnodup hij hj]

/-- A notification is read, and one receive less is left. -/
theorem Ready.notification (hlength : fds.length = expected.length) (hnodup : fds.Nodup) {i : Nat}
    (h : Ready fds expected s i) {rest : List ReceiveOutcome}
    (hqueue : s.queued (fds.getD i 0) = .notification :: rest) :
    Ready fds expected (s.step host featureId .receive) i ∧
      receivesLeft fds s.queued i =
        receivesLeft fds (s.step host featureId .receive).queued i + 1 := by
  have hi : i < fds.length := hlength ▸ h.inRange
  rw [Mailboxes.step_receive host featureId h.next hqueue]
  constructor
  · refine ⟨h.inRange, rfl, fun j hij hj => ?_⟩
    rcases Nat.eq_or_lt_of_le hij with rfl | hlt
    · rcases h.waiting i le_rfl h.inRange with ⟨first, hfirst, hmatches⟩
      refine ⟨first, ?_, hmatches⟩
      change first ∈ firstMessage (Function.update s.queued (fds.getD i 0) rest (fds.getD i 0))
      rw [hqueue, firstMessage_notification] at hfirst
      rwa [Function.update_self]
    · exact (h.waiting j hij hj).of_later hlength hnodup hlt hj rest
  · change _ = receivesLeft fds (Function.update s.queued (fds.getD i 0) rest) i + 1
    have hothers : receivesLeft fds (Function.update s.queued (fds.getD i 0) rest) (i + 1) =
        receivesLeft fds s.queued (i + 1) :=
      receivesLeft_congr fun j hij hj => by rw [update_getD hlength hnodup hij (hlength ▸ hj)]
    have hneeded : receivesNeeded (.notification :: rest) = receivesNeeded rest + 1 := by
      simp [receivesNeeded]
    rw [receivesLeft_eq hi, receivesLeft_eq hi, hothers, Function.update_self, hqueue, hneeded]
    omega

/-- The message is read and accepted.  The worker completes, or is ready for the next one
with fewer receives left. -/
theorem Ready.accepted (hlength : fds.length = expected.length) (hnodup : fds.Nodup) {i : Nat}
    (h : Ready fds expected s i) {outcome : ReceiveOutcome} {rest : List ReceiveOutcome}
    (hqueue : s.queued (fds.getD i 0) = outcome :: rest) (hdata : outcome ≠ .notification) :
    (s.step host featureId .receive).next = .markNetworkComplete ∨
      Ready fds expected (s.step host featureId .receive) (i + 1) ∧
        receivesLeft fds (s.step host featureId .receive).queued (i + 1) + 1 ≤
          receivesLeft fds s.queued i := by
  have hi : i < fds.length := hlength ▸ h.inRange
  rcases h.waiting i le_rfl h.inRange with ⟨first, hfirst, message, hmessage, haccepts⟩
  rw [hqueue, firstMessage_cons hdata] at hfirst
  cases hfirst
  have hnext := onReceive_accepts host featureId fds hmessage haccepts
  rw [Mailboxes.step_receive host featureId h.next hqueue]
  by_cases hlast : i + 1 < expected.length
  · refine Or.inr ⟨⟨hlast, hnext.trans (if_pos hlast), fun j hij hj => ?_⟩, ?_⟩
    · exact (h.waiting j (Nat.le_of_succ_le hij) hj).of_later hlength hnodup hij hj rest
    · change receivesLeft fds (Function.update s.queued (fds.getD i 0) rest) (i + 1) + 1 ≤ _
      have hothers : receivesLeft fds (Function.update s.queued (fds.getD i 0) rest) (i + 1) =
          receivesLeft fds s.queued (i + 1) :=
        receivesLeft_congr fun j hij hj => by rw [update_getD hlength hnodup hij (hlength ▸ hj)]
      have hneeded : 1 ≤ receivesNeeded (s.queued (fds.getD i 0)) := Nat.le_add_left 1 _
      rw [hothers, receivesLeft_eq hi]
      omega
  · exact Or.inl (hnext.trans (if_neg hlast))

/-- With the right first messages in its queues the worker completes, whatever else
arrives meanwhile. -/
theorem Ready.completes (hlength : fds.length = expected.length) (hnodup : fds.Nodup) {i : Nat}
    (h : Ready fds expected s i) {deliveries : List Delivery}
    (henough : receivesLeft fds s.queued i ≤ deliveries.countP Delivery.isReceive) :
    (s.run host featureId deliveries).next = .markNetworkComplete := by
  induction deliveries generalizing s i with
  | nil =>
      rw [receivesLeft_eq (hlength ▸ h.inRange), receivesNeeded] at henough
      simp at henough
  | cons delivery deliveries ih =>
      cases delivery with
      | arrive fd incoming =>
          refine ih (h.arrive fd incoming) ?_
          rw [h.receivesLeft_arrive hlength]
          exact henough
      | receive =>
          change (Mailboxes.run host featureId (s.step host featureId .receive)
            deliveries).next = _
          simp only [List.countP_cons, Delivery.isReceive, if_true] at henough
          cases hqueue : s.queued (fds.getD i 0) with
          | nil =>
              rcases h.waiting i le_rfl h.inRange with ⟨first, hfirst, -⟩
              rw [hqueue] at hfirst
              contradiction
          | cons outcome rest =>
              by_cases hdata : outcome = .notification
              · subst hdata
                rcases h.notification hlength hnodup hqueue with ⟨hready, hleft⟩
                exact ih hready (by omega)
              · rcases h.accepted hlength hnodup hqueue hdata with
                  hcomplete | ⟨hready, hleft⟩
                · exact Mailboxes.run_complete hcomplete deliveries
                · exact ih hready (by omega)

end

/-- Once the right first messages have arrived, a number of receives completes the worker. -/
theorem Standing.completes {arrived : Nat → List ReceiveOutcome} {s : Mailboxes}
    (hlength : fds.length = expected.length) (hnodup : fds.Nodup)
    (h : Standing fds expected arrived s)
    (hright : ∀ i < expected.length, FirstMatches fds expected arrived i) :
    ∃ enough, ∀ more : List Delivery, enough ≤ more.countP Delivery.isReceive →
      (s.run host featureId more).next = .markNetworkComplete := by
  cases h with
  | awaiting i inRange next matched left =>
      refine ⟨receivesLeft fds s.queued i, fun more hmore => ?_⟩
      refine Ready.completes hlength hnodup ⟨inRange, next, fun j hij hj => ?_⟩ hmore
      rcases hright j hj with ⟨outcome, houtcome, hmessage⟩
      refine ⟨outcome, ?_, hmessage⟩
      rwa [firstMessage, left j hij hj]
  | complete next matched =>
      exact ⟨0, fun more _ => Mailboxes.run_complete next more⟩
  | failed i inRange message next first arrives wrong =>
      rcases hright i inRange with ⟨outcome, houtcome, m, hm, haccepts⟩
      cases Option.mem_unique arrives houtcome
      exact absurd haccepts (wrong m hm)

/-! ## The start -/

section

variable {c : Catalog} {σ τ : Shared c} {x : Target c} {now : TimePoint}

/-- What one call of `create_listening_socket` has opened: a socket whose addresses have
the port that `getsockname` returned for it. -/
structure OpenedBy (host : Host) (feature : FeatureDefinition) (calls : SocketCalls)
    (port : UInt16) (socketInfo : ListeningSocket) : Prop where
  getsockname : calls.setup.getsocknameAgain = .ok port
  made : setupListeningSocket host feature.bindAddressCount socketInfo.fd calls.setup =
    .ok socketInfo
  advertiseAddrs : socketInfo.advertiseAddrs =
    withPort ((advertiseList host.options).take feature.bindAddressCount) port

/-- A socket that has been set up listens on the addresses of its feature. -/
theorem setupListeningSocket_openedBy {feature : FeatureDefinition} {fd : Nat}
    {calls : SocketCalls} {socketInfo : ListeningSocket}
    (h : setupListeningSocket host feature.bindAddressCount fd calls.setup = .ok socketInfo) :
    ∃ port, OpenedBy host feature calls port socketInfo := by
  have hfd := setupListeningSocket_fd h
  have hmade := h
  unfold setupListeningSocket at h
  dsimp only at h
  repeat' split at h
  all_goals first | contradiction | skip
  rename_i port hport
  cases h
  exact ⟨port, hport, hmade, rfl⟩

/-- So does one that has been created and set up. -/
theorem createListeningSocket_openedBy {calls : SocketCalls} {socketInfo : ListeningSocket}
    (h : createListeningSocket host σ x calls = (τ, .ok socketInfo)) :
    ∃ port, OpenedBy host (c.definition x.feature) calls port socketInfo := by
  unfold createListeningSocket at h
  dsimp only at h
  split at h
  · cases h
  · split at h
    · cases h
    · split at h
      · cases h
      · rename_i hsetup
        cases h
        exact setupListeningSocket_openedBy hsetup

/-- The sockets of a start, one for each call, in the order of the calls. -/
theorem createSockets_openedBy {count : Nat} {calls : List SocketCalls}
    {sockets opened : List ListeningSocket}
    (h : createSockets host σ x count calls sockets = (τ, .ok opened)) :
    ∃ fresh, opened = sockets ++ fresh ∧ fresh.length = count ∧
      ∀ i (hi : i < fresh.length), ∃ port,
        OpenedBy host (c.definition x.feature) (calls.getD i {}) port fresh[i] := by
  induction count generalizing σ calls sockets with
  | zero =>
      cases h
      exact ⟨[], by simp⟩
  | succ count ih =>
      unfold createSockets at h
      rcases hone : createListeningSocket host σ x (calls.headD {}) with ⟨σ', error | socketInfo⟩
      · rw [hone] at h
        cases h
      · rw [hone] at h
        rcases ih h with ⟨fresh, rfl, hlength, hfresh⟩
        refine ⟨socketInfo :: fresh, by simp, by simp [hlength], fun i hi => ?_⟩
        cases i with
        | zero =>
            have hcall : calls.getD 0 {} = calls.headD {} := by cases calls <;> rfl
            rw [hcall]
            exact createListeningSocket_openedBy hone
        | succ i =>
            have hrest := hfresh i (Nat.lt_of_succ_lt_succ hi)
            simpa using hrest

/-- The sockets of a start have different descriptors. -/
theorem createSockets_nodup {count : Nat} {calls : List SocketCalls}
    {sockets opened : List ListeningSocket}
    (hlisten : ListeningFor σ x (sockets.map ListeningSocket.fd))
    (hnodup : (sockets.map ListeningSocket.fd).Nodup)
    (h : createSockets host σ x count calls sockets = (τ, .ok opened)) :
    (opened.map ListeningSocket.fd).Nodup := by
  induction count generalizing σ calls sockets with
  | zero =>
      cases h
      exact hnodup
  | succ count ih =>
      unfold createSockets at h
      rcases hone : createListeningSocket host σ x (calls.headD {}) with ⟨σ', error | socketInfo⟩
      · rw [hone] at h
        cases h
      · rw [hone] at h
        rcases createListeningSocket_ok hone with ⟨rfl, hfd⟩
        have hnew : socketInfo.fd ∉ sockets.map ListeningSocket.fd := by
          intro hmem
          rcases hlisten _ hmem with ⟨serial, hserial⟩
          exact Slots.ne_lowestFree hserial hfd
        refine ih ?_ ?_ h
        · intro fd hmem
          rw [List.map_append, List.mem_append] at hmem
          rcases hmem with hmem | hmem
          · rcases hlisten fd hmem with ⟨serial, hserial⟩
            refine ⟨serial, ?_⟩
            rw [Shared.openListening, Slots.lookup_acquire,
              if_neg (Slots.ne_lowestFree hserial), hserial]
          · rw [List.map_cons, List.map_nil, List.mem_singleton] at hmem
            refine ⟨σ.opened, ?_⟩
            rw [Shared.openListening, Slots.lookup_acquire, if_pos (hmem.trans hfd)]
        · rw [List.map_append]
          refine List.nodup_append.mpr ⟨hnodup, List.nodup_singleton _, ?_⟩
          intro fd hmem fd' hmem' heq
          rw [List.map_cons, List.map_nil, List.mem_singleton] at hmem'
          exact hnew (hmem' ▸ heq ▸ hmem)

/-- A start that succeeds has opened its sockets and launched its worker. -/
theorem startFeature_opened {calls : List SocketCalls}
    (h : (startFeature host now σ x calls).response.status = 200) :
    ∃ τ sockets, createSockets host (σ.maybeTimeout now x) x
        (c.definition x.feature).targetCount calls [] = (τ, .ok sockets) ∧
      (startFeature host now σ x calls).shared = activateScenario now τ x sockets ∧
      (startFeature host now σ x calls).launched =
        ((c.definition x.feature).worker sockets).map fun worker => (x, worker.start) := by
  have hrefusal : ∀ message, (errorResponse 409 message).status ≠ 200 := by
    intro message
    change 409 ≠ 200
    decide
  unfold startFeature at h ⊢
  dsimp only at h ⊢
  split at h
  · exact absurd h (hrefusal _)
  · rename_i hfree
    split at h
    · exact absurd h (hrefusal _)
    · rename_i hpending
      split at h
      · exact absurd h (hrefusal _)
      · rename_i hprovided
        split at h
        · exact absurd h (hrefusal _)
        · rename_i τ sockets hcreated
          rw [if_neg hfree, if_neg hpending, if_neg hprovided, hcreated]
          exact ⟨τ, sockets, rfl, rfl, rfl⟩

/-- The adjusted message does not appear in the contract. -/
theorem contractJson_adjustMessage (e : FeatureExecution) (feature : FeatureDefinition) :
    (e.adjustMessage feature).contractJson = e.contractJson := by
  unfold FeatureExecution.adjustMessage
  split <;> rfl

/-- The contract of a start names the addresses of its sockets. -/
theorem contractJson_activateScenario (τ : Shared c) (x : Target c) (now : TimePoint)
    (sockets : List ListeningSocket) :
    ((activateScenario now τ x sockets).execution x).contractJson =
      buildContract (c.definition x.feature)
        ((c.definition x.feature).connectAddrs sockets) := by
  simp [activateScenario, contractJson_adjustMessage]

/-- If every entry has a value, the values stay in their places. -/
theorem filterMap_getElem? {α β : Type*} {f : α → Option β} {l : List α}
    (h : ∀ a ∈ l, (f a).isSome) {i : Nat} (hi : i < l.length) :
    (l.filterMap f)[i]? = f l[i] := by
  induction l generalizing i with
  | nil => exact absurd hi (Nat.not_lt_zero i)
  | cons a l ih =>
      rcases Option.isSome_iff_exists.mp (h a List.mem_cons_self) with ⟨b, hb⟩
      rw [List.filterMap_cons_some hb]
      cases i with
      | zero => simp [hb]
      | succ i =>
          simpa using ih (fun a ha => h a (List.mem_cons_of_mem _ ha)) (Nat.lt_of_succ_lt_succ hi)

/-- The address for message `i` is the first that socket `i` advertises. -/
theorem connectAddrs_getElem? (host : Host) {feature : FeatureDefinition}
    (hkind : feature.scenarioKind = .receiveMessagesMultiTarget)
    {sockets : List ListeningSocket}
    (hsockets : ∀ socketInfo ∈ sockets, ∃ port, socketInfo.advertiseAddrs =
      withPort ((advertiseList host.options).take feature.bindAddressCount) port)
    {i : Nat} (hi : i < sockets.length) :
    (feature.connectAddrs sockets)[i]? = sockets[i].advertiseAddrs.head? := by
  simp only [FeatureDefinition.connectAddrs, hkind]
  cases haddrs : (advertiseList host.options).take feature.bindAddressCount with
  | nil =>
      have hnone : ∀ socketInfo ∈ sockets, socketInfo.advertiseAddrs.head? = none := by
        intro socketInfo hmem
        rcases hsockets socketInfo hmem with ⟨port, hport⟩
        simp [hport, haddrs, withPort]
      rw [List.filterMap_eq_nil_iff.mpr hnone, hnone _ (List.getElem_mem hi)]
      rfl
  | cons first rest =>
      refine filterMap_getElem? (f := fun socketInfo : ListeningSocket =>
        socketInfo.advertiseAddrs.head?) (fun socketInfo hmem => ?_) hi
      rcases hsockets socketInfo hmem with ⟨port, hport⟩
      simp [hport, haddrs, withPort]

/-! ## Scoring -/

/-- What a start of a multi-target feature has set up: for each expected message one
socket, whose first advertised address is the one the contract gives for that message
and on which the worker awaits it. -/
structure Aligned (host : Host) (feature : FeatureDefinition) (calls : List SocketCalls)
    (sockets : List ListeningSocket) (connectAddresses : List CppString) : Prop where
  length : sockets.length = feature.clientSendMessages.length
  entry : ∀ i (hi : i < sockets.length), ∃ port,
    OpenedBy host feature (calls.getD i {}) port sockets[i] ∧
    connectAddresses[i]? =
      (withPort ((advertiseList host.options).take feature.bindAddressCount) port).head? ∧
    (WorkerState.receiveMultiTarget (sockets.map ListeningSocket.fd)
      feature.clientSendMessages i).fd = sockets[i].fd

/-- A start of a multi-target feature hands out the addresses of the sockets its worker
reads.  The worker completes if and only if the first message on each socket is the
expected one, in whatever order the messages arrive. -/
theorem multiTarget_scoring (host : Host) (now : TimePoint) (σ : Shared c) (x : Target c)
    (calls : List SocketCalls) {contract : OneToManyContract}
    (hkind : (c.definition x.feature).scenarioKind = .receiveMessagesMultiTarget)
    (hcontract : (c.definition x.feature).oneToMany = some contract)
    (hassociations : contract.expectedAssociations =
      (c.definition x.feature).clientSendMessages.length)
    (hstarted : (startFeature host now σ x calls).response.status = 200) :
    ∃ sockets connectAddresses,
      let expected := (c.definition x.feature).clientSendMessages
      let fds := sockets.map ListeningSocket.fd
      let worker := Worker.receiveMultiTarget fds expected
      let after := (Mailboxes.empty worker).run host (c.id x.feature)
      (startFeature host now σ x calls).launched = some (x, worker.start) ∧
      ((startFeature host now σ x calls).shared.execution x).contractJson =
        buildContract (c.definition x.feature) connectAddresses ∧
      Aligned host (c.definition x.feature) calls sockets connectAddresses ∧
      ∀ deliveries,
        ((after deliveries).next = .markNetworkComplete → ∀ i < expected.length,
          FirstMatches fds expected (fun fd => arrivedOn fd deliveries) i) ∧
        ((∀ i < expected.length,
            FirstMatches fds expected (fun fd => arrivedOn fd deliveries) i) →
          ∃ enough, ∀ more, enough ≤ more.countP Delivery.isReceive →
            (after (deliveries ++ more)).next = .markNetworkComplete) := by
  rcases startFeature_opened hstarted with ⟨τ, sockets, hcreated, hshared, hlaunched⟩
  have hnil : ListeningFor (σ.maybeTimeout now x) x
      (([] : List ListeningSocket).map ListeningSocket.fd) :=
    fun _ hfd => absurd hfd List.not_mem_nil
  have hnodup := createSockets_nodup hnil List.nodup_nil hcreated
  rcases createSockets_openedBy hcreated with ⟨fresh, hfresh, hcount, hopened⟩
  rw [List.nil_append] at hfresh
  subst hfresh
  have hlength : sockets.length = (c.definition x.feature).clientSendMessages.length := by
    rw [hcount, FeatureDefinition.targetCount, hkind, hcontract]
    exact hassociations
  have hfds : (sockets.map ListeningSocket.fd).length =
      (c.definition x.feature).clientSendMessages.length := by
    rw [List.length_map, hlength]
  refine ⟨sockets, (c.definition x.feature).connectAddrs sockets, ?_, ?_, ⟨hlength, ?_⟩, ?_⟩
  · rw [hlaunched, FeatureDefinition.worker, hkind]
    rfl
  · rw [hshared, contractJson_activateScenario]
  · intro i hi
    rcases hopened i hi with ⟨port, hport⟩
    refine ⟨port, hport, ?_, by simp [WorkerState.fd, hi]⟩
    rw [← hport.advertiseAddrs]
    refine connectAddrs_getElem? host hkind (fun socketInfo hmem => ?_) hi
    rcases List.mem_iff_getElem.mp hmem with ⟨k, hk, rfl⟩
    rcases hopened k hk with ⟨port, hport⟩
    exact ⟨port, hport.advertiseAddrs⟩
  · intro deliveries
    have hstanding := Standing.run host (c.id x.feature) hfds hnodup deliveries
    refine ⟨fun hcomplete => ?_, fun hright => ?_⟩
    · cases hstanding with
      | awaiting i inRange next => exact absurd (next.symm.trans hcomplete) (by simp)
      | complete next matched => exact matched
      | failed i inRange message next => exact absurd (next.symm.trans hcomplete) (by simp)
    · rcases hstanding.completes hfds hnodup hright with ⟨enough, hcompletes⟩
      refine ⟨enough, fun more hmore => ?_⟩
      rw [Mailboxes.run_append]
      exact hcompletes more hmore

/-- The multi-target feature of the sample catalog. -/
def oneToManyMultiAssoc : Target sampleCatalog :=
  multiAssoc

/-- The system calls of a start that opens the ports 5001 and 5002. -/
def twoPorts : List SocketCalls :=
  [{ setup := { getsocknameAgain := .ok 5001 } }, { setup := { getsocknameAgain := .ok 5002 } }]

theorem multiTarget_scoring_two :
    ∃ sockets connectAddresses,
      let feature := sampleCatalog.definition oneToManyMultiAssoc.feature
      let expected := feature.clientSendMessages
      let fds := sockets.map ListeningSocket.fd
      let worker := Worker.receiveMultiTarget fds expected
      let after := (Mailboxes.empty worker).run sampleHost
        (sampleCatalog.id oneToManyMultiAssoc.feature)
      let handled := startFeature sampleHost 0 sampleShared oneToManyMultiAssoc twoPorts
      handled.launched = some (oneToManyMultiAssoc, worker.start) ∧
      (handled.shared.execution oneToManyMultiAssoc).contractJson =
        buildContract feature connectAddresses ∧
      Aligned sampleHost feature twoPorts sockets connectAddresses ∧
      ∀ deliveries,
        ((after deliveries).next = .markNetworkComplete → ∀ i < expected.length,
          FirstMatches fds expected (fun fd => arrivedOn fd deliveries) i) ∧
        ((∀ i < expected.length,
            FirstMatches fds expected (fun fd => arrivedOn fd deliveries) i) →
          ∃ enough, ∀ more, enough ≤ more.countP Delivery.isReceive →
            (after (deliveries ++ more)).next = .markNetworkComplete) :=
  multiTarget_scoring sampleHost 0 sampleShared oneToManyMultiAssoc twoPorts
    (by decide) (show _ = some (⟨2, true, true⟩ : OneToManyContract) by decide) (by decide)
    (by decide)

end

end SctpConformance
