import SctpConformance.Workers.MultiTarget

/-!
# Messages read in pieces

`sctp_recvv` may return a user message in several pieces; `MSG_EOR` is set in the
flags of the last one only.  The receive workers test the flags for
`MSG_NOTIFICATION` and never for `MSG_EOR`, so a piece that equals an expected
payload passes for a message.

Main results:

- Structure `CutUp`: the pieces of each message that have been read so far.
- Theorem `whole_iff_endOfRecord`: what is read first consists of whole messages exactly
  if `MSG_EOR` is set throughout.
- Theorem `wholeMessages_iff`: a completed worker has matched whole messages exactly if
  the data it matched came with `MSG_EOR`.
-/

namespace SctpConformance

open Library

/-! ## Pieces -/

/-- A user message as its sender sent it. -/
structure UserMessage where
  payload : CppString
  stream : UInt16
  ppid : UInt32
  assocId : UInt32

/-- A piece of the message of the given number. -/
structure Piece where
  message : Nat
  bytes : CppString
  endOfRecord : Bool
  peerAddrs : List CppString
deriving DecidableEq

/-- What one receive returns. -/
inductive Reading where
  | error (errno : Errno)
  | notification
  | data (piece : Piece)

/-- What the worker gets for a reading. -/
def Reading.outcome (sent : Nat → UserMessage) : Reading → ReceiveOutcome
  | .error errno => .error errno
  | .notification => .notification
  | .data piece =>
      let message := sent piece.message
      .data piece.bytes message.stream message.ppid message.assocId piece.endOfRecord
        piece.peerAddrs

/-- The piece of a message, if one has been read. -/
def Reading.piece? : Reading → Option Piece
  | .data piece => some piece
  | _ => none

/-- The pieces that a list of receives has returned. -/
def piecesRead (readings : List Reading) : List Piece :=
  readings.filterMap Reading.piece?

/-- The pieces of one message among others. -/
def piecesOf (message : Nat) (pieces : List Piece) : List Piece :=
  pieces.filter fun piece => decide (piece.message = message)

/-- A payload read from its beginning: up to the last piece, which alone is marked, or
not so far. -/
inductive PiecesFrom : CppString → List Piece → Prop
  | unread (payload : CppString) : PiecesFrom payload []
  | last {payload : CppString} {piece : Piece} (bytes : piece.bytes = payload)
      (marked : piece.endOfRecord = true) : PiecesFrom payload [piece]
  | front {payload rest : CppString} {piece : Piece} {pieces : List Piece}
      (bytes : payload = piece.bytes ++ rest) (more : rest ≠ [])
      (unmarked : piece.endOfRecord = false) (cut : PiecesFrom rest pieces) :
      PiecesFrom payload (piece :: pieces)

/-- The pieces that have been read are cut from the messages that were sent. -/
def CutUp (sent : Nat → UserMessage) (pieces : List Piece) : Prop :=
  ∀ message, PiecesFrom (sent message).payload (piecesOf message pieces)

/-- A marked piece at the beginning is the whole message. -/
theorem PiecesFrom.of_marked {payload : CppString} {piece : Piece} {pieces : List Piece}
    (h : PiecesFrom payload (piece :: pieces)) (hmarked : piece.endOfRecord = true) :
    piece.bytes = payload ∧ pieces = [] := by
  cases h with
  | last bytes _ => exact ⟨bytes, rfl⟩
  | front _ _ unmarked _ =>
      rw [hmarked] at unmarked
      contradiction

/-- A piece that is the whole message is marked. -/
theorem PiecesFrom.marked {payload : CppString} {piece : Piece} {pieces : List Piece}
    (h : PiecesFrom payload (piece :: pieces)) (hwhole : piece.bytes = payload) :
    piece.endOfRecord = true := by
  cases h with
  | last _ marked => exact marked
  | front bytes more _ _ =>
      rw [← hwhole, List.self_eq_append_right] at bytes
      exact absurd bytes more

/-- What is read first consists of whole messages exactly if each piece is marked. -/
theorem whole_iff_endOfRecord {sent : Nat → UserMessage} {front back : List Piece}
    (h : CutUp sent (front ++ back)) :
    (∀ piece ∈ front, piece.bytes = (sent piece.message).payload) ↔
      ∀ piece ∈ front, piece.endOfRecord = true := by
  -- the pieces of a message begin with one that is read among the first
  have hsplit : ∀ piece ∈ front, ∃ first ∈ front, ∃ pieces, first.message = piece.message ∧
      piece ∈ first :: pieces ∧ PiecesFrom (sent piece.message).payload (first :: pieces) := by
    intro piece hmem
    have hcut := h piece.message
    have hpiece : piece ∈ piecesOf piece.message front := by simp [piecesOf, hmem]
    have happend : piecesOf piece.message (front ++ back) =
        piecesOf piece.message front ++ piecesOf piece.message back := List.filter_append ..
    rw [happend] at hcut
    cases hpieces : piecesOf piece.message front with
    | nil =>
        rw [hpieces] at hpiece
        contradiction
    | cons first pieces =>
        rw [hpieces] at hcut hpiece
        have hfirst : first ∈ piecesOf piece.message front := by
          rw [hpieces]
          exact List.mem_cons_self
        rcases List.mem_filter.mp hfirst with ⟨hmem', hsame⟩
        refine ⟨first, hmem', pieces ++ piecesOf piece.message back, by simpa using hsame, ?_,
          hcut⟩
        rcases List.mem_cons.mp hpiece with rfl | hlater
        · exact List.mem_cons_self
        · exact List.mem_cons_of_mem _ (List.mem_append_left _ hlater)
  constructor
  · intro hwhole piece hmem
    rcases hsplit piece hmem with ⟨first, hfirst, pieces, hsame, hpiece, hcut⟩
    have hmarked : first.endOfRecord = true :=
      hcut.marked (hsame ▸ hwhole first hfirst)
    rw [(hcut.of_marked hmarked).2, List.mem_singleton] at hpiece
    rw [hpiece, hmarked]
  · intro hall piece hmem
    rcases hsplit piece hmem with ⟨first, hfirst, pieces, hsame, hpiece, hcut⟩
    rcases hcut.of_marked (hall first hfirst) with ⟨hwhole, hnil⟩
    rw [hnil, List.mem_singleton] at hpiece
    rw [hpiece, hwhole, hsame]

/-! ## What the workers match -/

/-- The outcomes of a list of receives. -/
def readOutcomes (sent : Nat → UserMessage) (readings : List Reading) : List ReceiveOutcome :=
  readings.map (Reading.outcome sent)

/-- Every expected payload is the payload of a whole message, the one of which a piece was
matched with it. -/
def WholeMessages (sent : Nat → UserMessage) (expected : List MessageSpec)
    (readings : List Reading) : Prop :=
  ∀ i (_ : i < expected.length), ∃ piece ∈ (piecesRead readings)[i]?,
    materializePayload expected[i] = (sent piece.message).payload

/-- What comes first of the data, one piece for each expected message, is marked. -/
def EndOfRecordSet (expected : List MessageSpec) (readings : List Reading) : Prop :=
  ∀ piece ∈ (piecesRead readings).take expected.length, piece.endOfRecord = true

instance (expected : List MessageSpec) (readings : List Reading) :
    Decidable (EndOfRecordSet expected readings) :=
  inferInstanceAs (Decidable (∀ piece ∈ _, _))

/-- A sequence that completes a worker begins with data. -/
theorem Complete.pieces {sent : Nat → UserMessage} {expected : List MessageSpec}
    {expectedPeerAddrCount : Nat} {readings : List Reading}
    (h : Complete expected expectedPeerAddrCount (dropNotifications (readOutcomes sent readings))) :
    ∃ front back, piecesRead readings = front ++ back ∧
      List.Forall₂ (fun message piece => message.Accepts ((Reading.data piece).outcome sent))
        expected front := by
  rcases h with ⟨matched, hbegin, hmatched, -⟩
  clear expectedPeerAddrCount
  induction readings generalizing expected matched with
  | nil =>
      rw [show dropNotifications (readOutcomes sent []) = [] from rfl, List.prefix_nil] at hbegin
      subst hbegin
      cases hmatched
      exact ⟨[], [], rfl, .nil⟩
  | cons reading readings ih =>
      cases hmatched with
      | nil => exact ⟨[], _, rfl, .nil⟩
      | @cons message outcome expected matched haccepts hmatched =>
          cases reading with
          | notification => exact ih _ hbegin (.cons haccepts hmatched)
          | error errno =>
              rcases List.cons_prefix_cons.mp hbegin with ⟨rfl, -⟩
              exact absurd haccepts id
          | data piece =>
              rcases List.cons_prefix_cons.mp hbegin with ⟨rfl, hrest⟩
              rcases ih _ hrest hmatched with ⟨front, back, hpieces, hfront⟩
              refine ⟨piece :: front, back, ?_, .cons haccepts hfront⟩
              simpa [piecesRead, Reading.piece?] using hpieces

/-- What completes a worker is whole messages exactly if `MSG_EOR` is set throughout. -/
theorem Complete.wholeMessages {sent : Nat → UserMessage} {expected : List MessageSpec}
    {expectedPeerAddrCount : Nat} {readings : List Reading}
    (h : Complete expected expectedPeerAddrCount (dropNotifications (readOutcomes sent readings)))
    (hcut : CutUp sent (piecesRead readings)) :
    WholeMessages sent expected readings ↔ EndOfRecordSet expected readings := by
  rcases h.pieces with ⟨front, back, hpieces, hfront⟩
  have hlength := hfront.length_eq
  have htake : (piecesRead readings).take expected.length = front := by
    rw [hpieces, hlength, List.take_left]
  rw [EndOfRecordSet, htake, ← whole_iff_endOfRecord (hpieces ▸ hcut)]
  have hentry : ∀ i (hi : i < expected.length) (hi' : i < front.length),
      (piecesRead readings)[i]? = some front[i] ∧
        front[i].bytes = materializePayload expected[i] := by
    intro i hi hi'
    refine ⟨?_, ((List.forall₂_iff_get.mp hfront).2 i hi hi').1⟩
    rw [hpieces, List.getElem?_append_left hi', List.getElem?_eq_getElem hi']
  constructor
  · intro hwhole piece hmem
    rcases List.mem_iff_getElem.mp hmem with ⟨i, hi, rfl⟩
    rcases hwhole i (hlength ▸ hi) with ⟨piece, hpiece, hpayload⟩
    rcases hentry i (hlength ▸ hi) hi with ⟨hget, hbytes⟩
    cases Option.mem_unique hpiece hget
    rw [hbytes, hpayload]
  · intro hwhole i hi
    have hi' : i < front.length := hlength ▸ hi
    rcases hentry i hi hi' with ⟨hget, hbytes⟩
    refine ⟨front[i], hget, ?_⟩
    rw [← hbytes, hwhole _ (List.getElem_mem hi')]

/-- The messages that a worker matched were whole, if it completes, exactly if the data
that completes it came with `MSG_EOR` throughout. -/
theorem wholeMessages_iff (host : Host) (featureId : CppString) (expected : List MessageSpec)
    (sent : Nat → UserMessage) (readings : List Reading)
    (hcut : CutUp sent (piecesRead readings)) :
    (∀ fd expectedPeerAddrCount,
      (playReceive host featureId fd expected expectedPeerAddrCount (readOutcomes sent readings) =
          .markNetworkComplete → WholeMessages sent expected readings) ↔
        (Complete expected expectedPeerAddrCount (dropNotifications (readOutcomes sent readings)) →
          EndOfRecordSet expected readings)) ∧
    ∀ fds,
      ((Worker.receiveMultiTarget fds expected).start.play host featureId
            ((readOutcomes sent readings).map .received) = .markNetworkComplete →
          WholeMessages sent expected readings) ↔
        (fds.length = expected.length →
          Complete expected 0 (dropNotifications (readOutcomes sent readings)) →
            EndOfRecordSet expected readings) := by
  refine ⟨fun fd expectedPeerAddrCount => ?_, fun fds => ?_⟩
  · rw [playReceive_complete_iff]
    exact forall_congr' fun hcomplete => hcomplete.wholeMessages hcut
  · by_cases hlength : fds.length = expected.length
    · rw [play_multiTarget_complete_iff hlength]
      simp only [hlength, true_implies]
      exact forall_congr' fun hcomplete => hcomplete.wholeMessages hcut
    · -- a worker with the wrong number of sockets fails at once
      have hfails : (Worker.receiveMultiTarget fds expected).start.Decided :=
        .inr ⟨_, if_pos hlength⟩
      rw [hfails.play, Worker.start, if_pos hlength]
      simp [hlength]

/-! ## A message cut in two -/

/-- The expected message of a feature of the catalog. -/
def singleBoundary : List MessageSpec :=
  [⟨str "single-boundary", 1, 11, 0, false, [], 0, 0⟩]

/-- One message on the right stream, longer than the expected one. -/
def tooLong : Nat → UserMessage
  | 0 => ⟨str "single-boundary-and-more", 1, 11, 1⟩
  | _ => ⟨[], 0, 0, 0⟩

/-- It is read in two pieces. -/
def inTwo : List Reading :=
  [.data ⟨0, str "single-boundary", false, []⟩, .data ⟨0, str "-and-more", true, []⟩]

theorem cutUp_inTwo : CutUp tooLong (piecesRead inTwo)
  | 0 => @PiecesFrom.front _ (str "-and-more") _ _ (by decide) (by decide) rfl (.last rfl rfl)
  | _ + 1 => .unread _

theorem wholeMessages_iff_inTwo :
    (∀ fd expectedPeerAddrCount,
      (playReceive sampleHost (str "single_message_boundary") fd singleBoundary
          expectedPeerAddrCount (readOutcomes tooLong inTwo) = .markNetworkComplete →
        WholeMessages tooLong singleBoundary inTwo) ↔
      (Complete singleBoundary expectedPeerAddrCount
          (dropNotifications (readOutcomes tooLong inTwo)) → EndOfRecordSet singleBoundary inTwo)) ∧
    ∀ fds,
      ((Worker.receiveMultiTarget fds singleBoundary).start.play sampleHost
            (str "single_message_boundary") ((readOutcomes tooLong inTwo).map .received) =
          .markNetworkComplete → WholeMessages tooLong singleBoundary inTwo) ↔
        (fds.length = singleBoundary.length →
          Complete singleBoundary 0 (dropNotifications (readOutcomes tooLong inTwo)) →
            EndOfRecordSet singleBoundary inTwo) :=
  wholeMessages_iff sampleHost (str "single_message_boundary") singleBoundary tooLong inTwo
    cutUp_inTwo

/-- A worker completes on the first half of a longer message. -/
theorem completes_on_a_piece :
    ¬∀ (host : Host) (featureId : CppString) (fd : Nat) (expected : List MessageSpec)
      (expectedPeerAddrCount : Nat) (sent : Nat → UserMessage) (readings : List Reading),
      CutUp sent (piecesRead readings) →
      playReceive host featureId fd expected expectedPeerAddrCount (readOutcomes sent readings) =
        .markNetworkComplete →
      WholeMessages sent expected readings := by
  intro hall
  rcases hall sampleHost (str "single_message_boundary") 5 singleBoundary 0 tooLong inTwo
    cutUp_inTwo (by decide) 0 (by decide) with ⟨piece, hpiece, hpayload⟩
  cases hpiece
  exact absurd hpayload (by decide)

end SctpConformance
