import SctpConformance.Library.Filling
import SctpConformance.Server.Workers

/-!
# Filled payloads

`materialize_payload` with its loop turn by turn.  A message can ask for more bytes than
its payload has; the loop then repeats the payload, and cuts the last copy off.

Main results:

- Theorem `fillLoop_eq`: the loop ends, and leaves what the workers compare with.
- Theorem `Filling.turn`: what one turn keeps.
- Theorem `materializePayload_materialized`: `materialize_payload` ends for every message,
  with the bytes of the payload over and over.
-/

namespace SctpConformance

open Library

variable {payload out : CppString} {sizeBytes : Nat}

/-! ## The loop -/

/-- One turn of the loop of `materialize_payload`. -/
def fillTurn (payload : CppString) (sizeBytes : Nat) (out : CppString) : CppString :=
  let remaining := sizeBytes - out.length
  if payload.length ≤ remaining then out ++ payload
  else out ++ payload.take remaining

/-- The loop of `materialize_payload`, if it ends within so many turns. -/
def fillLoop (payload : CppString) (sizeBytes turns : Nat) (out : CppString) :
    Option CppString :=
  runLoop (fun out : CppString => out.length < sizeBytes) (fillTurn payload sizeBytes) turns out

/-- `materialize_payload`, if its loop ends within so many turns. -/
def materializeWithin (turns : Nat) (message : MessageSpec) : Option CppString :=
  if message.sizeBytes = 0 ∨ message.sizeBytes ≤ message.payload.length then some message.payload
  else if message.payload = [] then some (List.replicate message.sizeBytes 120)
  else fillLoop message.payload message.sizeBytes turns []

/-- What holds between two turns: there are copies of the payload and not too many bytes,
and while bytes are missing the copies are complete. -/
structure Filling (payload : CppString) (sizeBytes : Nat) (out : CppString) : Prop where
  copies : Copies payload out
  bounded : out.length ≤ sizeBytes
  complete : out.length < sizeBytes → payload.length ∣ out.length

theorem Filling.nil (payload : CppString) (sizeBytes : Nat) : Filling payload sizeBytes [] where
  copies := .nil payload
  bounded := Nat.zero_le _
  complete _ := Nat.dvd_zero _

/-- A turn adds another copy, or the part of it that is missing. -/
theorem Filling.turn (h : Filling payload sizeBytes out) (hmissing : out.length < sizeBytes) :
    Filling payload sizeBytes (fillTurn payload sizeBytes out) := by
  have hwhole := h.complete hmissing
  rw [fillTurn]
  split
  · rename_i hroom
    refine ⟨h.copies.append hwhole (List.prefix_refl payload), ?_, ?_⟩
    · rw [List.length_append]
      omega
    · intro _
      rw [List.length_append]
      exact Nat.dvd_add hwhole (Nat.dvd_refl payload.length)
  · rename_i hroom
    have hlength : (out ++ payload.take (sizeBytes - out.length)).length = sizeBytes := by
      rw [List.length_append, List.length_take]
      omega
    refine ⟨h.copies.append hwhole (List.take_prefix _ payload), hlength.le, ?_⟩
    intro hless
    omega

/-- A turn adds something, since the payload is not empty. -/
theorem fillTurn_length (hpayload : payload ≠ []) (hmissing : out.length < sizeBytes) :
    out.length < (fillTurn payload sizeBytes out).length := by
  have hpos := List.length_pos_of_ne_nil hpayload
  rw [fillTurn]
  split
  · rw [List.length_append]
    omega
  · rw [List.length_append, List.length_take]
    omega

/-- The loop ends within as many turns as bytes are missing. -/
theorem fillLoop_ends (hpayload : payload ≠ []) {turns : Nat}
    (h : Filling payload sizeBytes out) (hturns : sizeBytes - out.length ≤ turns) :
    ∃ result, fillLoop payload sizeBytes turns out = some result := by
  apply runLoop_ends (fun _ hs hmissing => Filling.turn hs hmissing)
    (fun out => sizeBytes - out.length) _ h hturns
  intro out _ hmissing
  have hlonger := fillTurn_length hpayload hmissing
  omega

/-- What the loop leaves are copies of the payload that have the size asked for. -/
theorem fillLoop_result {turns : Nat} {result : CppString}
    (hrun : fillLoop payload sizeBytes turns out = some result)
    (h : Filling payload sizeBytes out) :
    Copies payload result ∧ result.length = sizeBytes := by
  rcases runLoop_keeps (fun _ hs hmissing => Filling.turn hs hmissing) h hrun with
    ⟨hresult, hended⟩
  exact ⟨hresult.copies, le_antisymm hresult.bounded (not_lt.mp hended)⟩

/-! ## The bytes -/

/-- The payload that the workers compare with consists of such copies, too. -/
theorem fillPayload_copies (hpayload : payload ≠ []) (remaining : Nat) :
    Copies payload (fillPayload payload remaining) ∧
      (fillPayload payload remaining).length = remaining := by
  induction remaining using fillPayload.induct payload with
  | case1 =>
      rw [fillPayload]
      exact ⟨.nil payload, rfl⟩
  | case2 remaining hempty => contradiction
  | case3 remaining _ hroom ih =>
      rw [fillPayload, if_neg hpayload, if_pos hroom, List.length_append, ih.2]
      exact ⟨ih.1.copy_append, by omega⟩
  | case4 remaining _ hroom =>
      rw [fillPayload, if_neg hpayload, if_neg hroom, List.length_take]
      exact ⟨.of_initial (List.take_prefix _ payload), by omega⟩

/-- So the loop leaves what the workers compare with. -/
theorem fillLoop_eq (hpayload : payload ≠ []) {turns : Nat} (hturns : sizeBytes ≤ turns) :
    fillLoop payload sizeBytes turns [] = some (fillPayload payload sizeBytes) := by
  rcases fillLoop_ends hpayload (.nil payload sizeBytes) hturns with ⟨result, hrun⟩
  rcases fillLoop_result hrun (.nil payload sizeBytes) with ⟨hcopies, hlength⟩
  rcases fillPayload_copies hpayload sizeBytes with ⟨hcopies', hlength'⟩
  rw [hrun, hcopies.unique hcopies' (hlength.trans hlength'.symm)]

/-- The bytes of a message: as many as it asks for if its payload has fewer, and those of
its payload again and again, or the letter `x` if there are none. -/
structure Materialized (message : MessageSpec) (out : CppString) : Prop where
  length : out.length =
    if message.payload.length < message.sizeBytes then message.sizeBytes
    else message.payload.length
  bytes : ∀ k < out.length, out[k]? =
    if message.payload = [] then some 120 else message.payload[k % message.payload.length]?
  initial : message.payload <+: out
  bounded : out.length ≤ max message.sizeBytes message.payload.length

/-- Copies of the payload are such bytes, if they have the right length. -/
theorem Materialized.of_copies {message : MessageSpec} (hpayload : message.payload ≠ [])
    (hcopies : Copies message.payload out)
    (hlength : out.length = if message.payload.length < message.sizeBytes then message.sizeBytes
      else message.payload.length) : Materialized message out := by
  refine ⟨hlength, ?_, ?_, ?_⟩
  · intro k hk
    rw [if_neg hpayload, hcopies k hk]
  · apply hcopies.initial
    split at hlength
    · omega
    · omega
  · split at hlength
    · omega
    · omega

/-- The payload alone, when it is long enough. -/
theorem Materialized.of_payload {message : MessageSpec}
    (hlong : message.sizeBytes ≤ message.payload.length) :
    Materialized message message.payload := by
  have hlength : message.payload.length =
      if message.payload.length < message.sizeBytes then message.sizeBytes
      else message.payload.length := (if_neg (not_lt.mpr hlong)).symm
  by_cases hpayload : message.payload = []
  · refine ⟨hlength, ?_, List.prefix_refl _, le_max_right _ _⟩
    intro k hk
    rw [hpayload] at hk
    contradiction
  · exact .of_copies hpayload (.of_initial (List.prefix_refl _)) hlength

/-- The letters, when there is no payload. -/
theorem Materialized.of_letters {message : MessageSpec} (hpayload : message.payload = [])
    (hsize : 0 < message.sizeBytes) :
    Materialized message (List.replicate message.sizeBytes 120) := by
  refine ⟨?_, ?_, ?_, ?_⟩
  · rw [hpayload, List.length_nil, if_pos hsize, List.length_replicate]
  · intro k hk
    rw [List.length_replicate] at hk
    rw [if_pos hpayload, List.getElem?_replicate, if_pos hk]
  · rw [hpayload]
    exact List.nil_prefix
  · rw [List.length_replicate]
    exact le_max_left _ _

/-- For every message `materialize_payload` ends, within as many turns of its loop as
bytes are asked for, and its result is the filled payload. -/
theorem materializePayload_materialized (message : MessageSpec) :
    (∀ turns, message.sizeBytes ≤ turns →
      materializeWithin turns message = some (materializePayload message)) ∧
    Materialized message (materializePayload message) := by
  rw [materializePayload]
  by_cases hlong : message.sizeBytes = 0 ∨ message.sizeBytes ≤ message.payload.length
  · rw [if_pos hlong]
    refine ⟨?_, .of_payload (by omega)⟩
    intro turns _
    rw [materializeWithin, if_pos hlong]
  · rw [if_neg hlong]
    by_cases hpayload : message.payload = []
    · rw [if_pos hpayload]
      refine ⟨?_, .of_letters hpayload (by omega)⟩
      intro turns _
      rw [materializeWithin, if_neg hlong, if_pos hpayload]
    · rw [if_neg hpayload]
      have hcopies := fillPayload_copies hpayload message.sizeBytes
      refine ⟨?_, .of_copies hpayload hcopies.1 ?_⟩
      · intro turns hturns
        rw [materializeWithin, if_neg hlong, if_neg hpayload, fillLoop_eq hpayload hturns]
      · rw [hcopies.2, if_pos (by omega)]

example : materializeWithin 3 { payload := str "abc", sizeBytes := 8 } = some (str "abcabcab") := by
  decide

end SctpConformance
