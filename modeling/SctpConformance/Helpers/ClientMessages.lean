import SctpConformance.Helpers.CStrings
import SctpConformance.Runner.HelperOutput

/-!
# The messages that the C client sends

`encode_messages` of the runner writes the messages of a scenario into one argument;
`run_client` of the C helper copies the argument into a buffer of 512 bytes and reads
the copy with `parse_messages`.

Main results:

- Theorem `encodeUtf8_encodeMessages`: the bytes of the argument.
- Theorem `parseMessage_shortened`: what a message without its end is read as.
- Theorem `client_sends_iff`: the client sends what the scenario says exactly when the
  argument fits the buffer, or lacks no more than a last zero.
- Theorem `last_ppid_shortened`: an argument that is one byte too long for its PPID.
-/

namespace SctpConformance.FreebsdHelper

open Library
open Runner (encodeMessages encodeUtf8 encodeUtf8_append intText joinTexts Text)

/-! ## The parser -/

/-- `struct message_spec` -/
structure MessageSpec where
  payload : CppString
  stream : Nat
  ppid : Nat
deriving DecidableEq

/-- `MAX_MESSAGES` -/
def maxMessages : Nat :=
  16

/-- The body of the loop of `parse_messages`. -/
def parseMessage (spec : CppString) : Option MessageSpec :=
  match splitFirst 58 spec with
  | none => none
  | some (payload, rest) =>
      match splitFirst 58 rest with
      | none => none
      | some (streamStr, ppidStr) => some {
          payload := strlcpy 256 payload
          stream := strtoul streamStr % 2 ^ 16
          ppid := strtoul ppidStr % 2 ^ 32 }

/-- `parse_messages` -/
def parseMessages (raw : CppString) : Option (List MessageSpec) :=
  if raw = [] then some []
  else
    let parts := splitCsv raw
    if maxMessages < parts.length then none else readAll parseMessage parts

/-- The messages that `run_client` obtains from its argument. -/
def clientMessages (messages : CppString) : Option (List MessageSpec) :=
  parseMessages (strlcpy 512 messages)

/-- A list is accepted if it is not too long and each item is a message. -/
theorem parseMessages_eq_some_iff {raw : CppString} {specs : List MessageSpec} :
    parseMessages raw = some specs ↔ (fields 44 raw).length ≤ maxMessages ∧
      List.Forall₂ (fun spec value => parseMessage spec = some value) (fields 44 raw) specs := by
  by_cases hraw : raw = []
  · subst hraw
    simp [parseMessages, eq_comm]
  · by_cases hmany : maxMessages < (fields 44 raw).length
    · simp [parseMessages, hraw, splitCsv_eq, hmany, not_le.mpr hmany]
    · simp only [parseMessages, hraw, if_false, splitCsv_eq, hmany, readAll_eq_some_iff,
        not_lt.mp hmany, true_and]

/-- A message with both of its colons. -/
theorem parseMessage_parts {payload streamStr : CppString} (ppidStr : CppString)
    (hpayload : (58 : UInt8) ∉ payload) (hstream : (58 : UInt8) ∉ streamStr) :
    parseMessage (payload ++ 58 :: (streamStr ++ 58 :: ppidStr)) = some {
      payload := strlcpy 256 payload
      stream := strtoul streamStr % 2 ^ 16
      ppid := strtoul ppidStr % 2 ^ 32 } := by
  rw [parseMessage, splitFirst_append hpayload]
  dsimp only
  rw [splitFirst_append hstream]

/-- A message needs both of its colons. -/
theorem parseMessage_one_colon {spec payload streamStr : CppString}
    (hspec : spec <+: payload ++ 58 :: streamStr) (hpayload : (58 : UInt8) ∉ payload)
    (hstream : (58 : UInt8) ∉ streamStr) : parseMessage spec = none := by
  rcases hspec with ⟨back, hback⟩
  unfold parseMessage
  cases hfirst : splitFirst 58 spec with
  | none => rfl
  | some parts =>
      rcases parts with ⟨front, rest⟩
      rcases splitFirst_eq_some_iff.mp hfirst with ⟨hsplit, hfront⟩
      have hwhole : splitFirst 58 (payload ++ 58 :: streamStr) = some (front, rest ++ back) := by
        rw [← hback, hsplit, List.append_assoc, List.cons_append]
        exact splitFirst_append hfront
      rw [splitFirst_append hpayload] at hwhole
      cases hwhole
      have hrest : splitFirst 58 rest = none := by
        rw [splitFirst_eq_none_iff]
        exact fun hmem => hstream (List.mem_append_left back hmem)
      dsimp only
      rw [hrest]

/-! ## The argument -/

/-- Joined texts are encoded one by one. -/
theorem encodeUtf8_intercalate (separator : Text) (parts : List Text) :
    encodeUtf8 (separator.intercalate parts) =
      (encodeUtf8 separator).intercalate (parts.map encodeUtf8) := by
  induction parts with
  | nil => rfl
  | cons part parts ih =>
      cases parts with
      | nil => simp
      | cons next parts =>
          rw [List.intercalate_cons_cons, encodeUtf8_append, encodeUtf8_append, ih]
          simp

/-- A number that is not negative is written as the server writes it. -/
theorem encodeUtf8_intText {n : Int} (h : 0 ≤ n) : encodeUtf8 (intText n) = decimal n.toNat := by
  cases n with
  | ofNat n =>
      have hrepr := str_ofList (Nat.repr n).toList
      rw [String.ofList_toList] at hrepr
      exact hrepr.symm
  | negSucc n => exact absurd h (by simp)

/-- A message of a scenario that the argument can carry. -/
structure Sendable (message : Runner.MessageSpec) : Prop where
  payload_length : (encodeUtf8 message.payload).length ≤ 255
  payload_free : ∀ ch ∈ encodeUtf8 message.payload, ch ≠ 44 ∧ ch ≠ 58 ∧ ch ≠ 0
  stream : 0 ≤ message.stream ∧ message.stream < 2 ^ 16
  ppid : 0 ≤ message.ppid ∧ message.ppid < 2 ^ 32

/-- The message as the helper should have it. -/
def asGiven (message : Runner.MessageSpec) : MessageSpec where
  payload := encodeUtf8 message.payload
  stream := message.stream.toNat
  ppid := message.ppid.toNat

/-- The bytes of one message in the argument. -/
def item (message : Runner.MessageSpec) : CppString :=
  encodeUtf8 message.payload ++
    58 :: (decimal message.stream.toNat ++ 58 :: decimal message.ppid.toNat)

/-- The bytes of the argument are the joined messages. -/
theorem encodeUtf8_encodeMessages {messages : List Runner.MessageSpec}
    (hstream : ∀ message ∈ messages, 0 ≤ message.stream)
    (hppid : ∀ message ∈ messages, 0 ≤ message.ppid) :
    encodeUtf8 (encodeMessages messages) = [44].intercalate (messages.map item) := by
  have hcomma : encodeUtf8 ",".toList = [44] := by decide
  have hcolon : ∀ text, encodeUtf8 (':' :: text) = 58 :: encodeUtf8 text := fun _ => rfl
  rw [encodeMessages, joinTexts, encodeUtf8_intercalate, hcomma, List.map_map]
  congr 1
  apply List.map_congr_left
  intro message hmessage
  simp [encodeUtf8_append, hcolon, item, encodeUtf8_intText (hstream message hmessage),
    encodeUtf8_intText (hppid message hmessage)]

/-! ## One message -/

/-- A byte that is no digit does not occur in a number. -/
theorem not_digit_of_mem_decimal {n : Nat} {ch : UInt8} (h : isDigit ch = false) :
    ch ∉ decimal n := by
  intro hmem
  rw [decimal_digits n ch hmem] at h
  contradiction

/-- The item of a message holds no comma and no NUL. -/
theorem item_free {message : Runner.MessageSpec} (h : Sendable message) {ch : UInt8}
    (hch : ch = 44 ∨ ch = 0) : ch ∉ item message := by
  have hdigit : isDigit ch = false := by
    rcases hch with rfl | rfl
    · decide
    · decide
  have hcolon : ch ≠ 58 := by
    rcases hch with rfl | rfl
    · decide
    · decide
  have hpayload : ch ∉ encodeUtf8 message.payload := by
    intro hmem
    rcases hch with rfl | rfl
    · exact (h.payload_free _ hmem).1 rfl
    · exact (h.payload_free _ hmem).2.2 rfl
  simp [item, hpayload, hcolon, not_digit_of_mem_decimal hdigit]

/-- It is not empty. -/
theorem item_ne_nil (message : Runner.MessageSpec) : item message ≠ [] := by
  simp [item]

/-- The payload of such a message is copied whole. -/
theorem parse_payload {message : Runner.MessageSpec} (h : Sendable message) :
    (58 : UInt8) ∉ encodeUtf8 message.payload ∧
      strlcpy 256 (encodeUtf8 message.payload) = encodeUtf8 message.payload := by
  constructor
  · intro hmem
    exact (h.payload_free _ hmem).2.1 rfl
  · apply strlcpy_of_fits _ h.payload_length
    intro hmem
    exact (h.payload_free _ hmem).2.2 rfl

/-- The parts of a message before its PPID are read as given. -/
theorem parseMessage_item {message : Runner.MessageSpec} (h : Sendable message)
    (ppidStr : CppString) :
    parseMessage (encodeUtf8 message.payload ++
      58 :: (decimal message.stream.toNat ++ 58 :: ppidStr)) =
        some { asGiven message with ppid := strtoul ppidStr % 2 ^ 32 } := by
  have hcolon : (58 : UInt8) ∉ decimal message.stream.toNat :=
    not_digit_of_mem_decimal (by decide)
  have hsmall : message.stream.toNat < 2 ^ 16 := by
    have hstream := h.stream
    omega
  rw [parseMessage_parts ppidStr (parse_payload h).1 hcolon, (parse_payload h).2,
    strtoul_decimal (by simp only [ulongMax]; omega), Nat.mod_eq_of_lt hsmall]
  rfl

/-- A message is read back. -/
theorem parseMessage_whole {message : Runner.MessageSpec} (h : Sendable message) :
    parseMessage (item message) = some (asGiven message) := by
  have hsmall : message.ppid.toNat < 2 ^ 32 := by
    have hppid := h.ppid
    omega
  rw [item, parseMessage_item h, strtoul_decimal (by simp only [ulongMax]; omega),
    Nat.mod_eq_of_lt hsmall]
  rfl

/-- A number that has lost its last digits is a smaller one, but for zero. -/
theorem strtoul_shortened {n : Nat} (hn : n ≤ ulongMax) {front : CppString}
    (hfront : front <+: decimal n) (hshort : front.length < (decimal n).length) :
    strtoul front ≤ n ∧ (strtoul front = n ↔ n = 0) := by
  rcases hfront with ⟨back, hback⟩
  have hne : 0 < back.length := by
    rw [← hback, List.length_append] at hshort
    omega
  have hvalue : natOfDigits front * 10 ^ back.length + natOfDigits back = n := by
    rw [← natOfDigits_append_digits, hback, natOfDigits_decimal]
  have hpow : 10 ≤ 10 ^ back.length := Nat.le_self_pow (by omega) 10
  have hscaled : natOfDigits front * 10 ≤ natOfDigits front * 10 ^ back.length :=
    Nat.mul_le_mul_left _ hpow
  have hdigits : ∀ ch ∈ front, isDigit ch = true := by
    intro ch hch
    exact decimal_digits n ch (hback ▸ List.mem_append_left back hch)
  have hread : strtoul front = natOfDigits front := by
    by_cases hnil : front = []
    · subst hnil
      rfl
    · have hnothing : ∀ ch, ([] : CppString).head? = some ch → isDigit ch = false := by simp
      have hrun := strtoul_digits hnil hdigits hnothing (by omega)
      rwa [List.append_nil] at hrun
  rw [hread]
  omega

/-- A message that has lost its end is read as given only if the end is a zero for its
PPID. -/
theorem parseMessage_shortened {message : Runner.MessageSpec} (h : Sendable message)
    {cut : CppString} (hcut : cut <+: item message)
    (hshort : cut.length < (item message).length) :
    parseMessage cut = some (asGiven message) ↔
      cut.length + 1 = (item message).length ∧ message.ppid = 0 := by
  have hcolon : (58 : UInt8) ∉ decimal message.stream.toNat :=
    not_digit_of_mem_decimal (by decide)
  have hppid := h.ppid
  have hzero : message.ppid = 0 → (decimal message.ppid.toNat).length = 1 := by
    intro hzero
    rw [hzero]
    rfl
  generalize hfront : encodeUtf8 message.payload ++ 58 :: decimal message.stream.toNat = front
  have hitem : item message = front ++ 58 :: decimal message.ppid.toNat := by
    rw [← hfront]
    simp [item]
  rw [hitem] at hcut hshort ⊢
  rw [List.length_append, List.length_cons] at hshort ⊢
  rcases prefix_append_sep hcut with hinside | ⟨digits, rfl, hdigits⟩
  · have hnone : parseMessage cut = none :=
      parseMessage_one_colon (hfront ▸ hinside) (parse_payload h).1 hcolon
    rw [hnone]
    constructor
    · intro hsome
      contradiction
    · rintro ⟨hlength, hppid⟩
      have hle := hinside.length_le
      rw [hzero hppid] at hlength
      omega
  · rw [List.length_append, List.length_cons] at hshort ⊢
    have hread := strtoul_shortened (n := message.ppid.toNat)
      (by simp only [ulongMax]; omega) hdigits (by omega)
    have hparse : parseMessage (front ++ 58 :: digits) =
        some { asGiven message with ppid := strtoul digits % 2 ^ 32 } := by
      rw [← parseMessage_item h digits, ← hfront]
      simp
    rw [hparse, Nat.mod_eq_of_lt (by omega)]
    have hppidZero : message.ppid.toNat = 0 ↔ message.ppid = 0 := by omega
    have hsame : some { asGiven message with ppid := strtoul digits } =
        some (asGiven message) ↔ strtoul digits = message.ppid.toNat := by
      simp [asGiven]
    rw [hsame, hread.2, hppidZero]
    constructor
    · intro hnumber
      rw [hzero hnumber] at hshort ⊢
      exact ⟨by omega, hnumber⟩
    · exact And.right

/-! ## The whole argument -/

/-- Whole messages and the rest of a last one. -/
theorem forall₂_items {front : List Runner.MessageSpec}
    (h : ∀ message ∈ front, Sendable message) (cut : CppString) (value : MessageSpec) :
    List.Forall₂ (fun spec value => parseMessage spec = some value)
        (front.map item ++ [cut]) (front.map asGiven ++ [value]) ↔
      parseMessage cut = some value := by
  induction front with
  | nil => simp
  | cons message front ih =>
      have hfront := ih fun m hm => h m (List.mem_cons_of_mem message hm)
      have hmessage := parseMessage_whole (h message List.mem_cons_self)
      simp only [List.map_cons, List.cons_append, List.forall₂_cons, hmessage, hfront, true_and]

/-- No item holds a comma or a NUL byte. -/
theorem items_free {front : List Runner.MessageSpec} (h : ∀ message ∈ front, Sendable message)
    {ch : UInt8} (hch : ch = 44 ∨ ch = 0) : ∀ spec ∈ front.map item, ch ∉ spec := by
  intro spec hspec
  rcases List.mem_map.mp hspec with ⟨message, hmessage, rfl⟩
  exact item_free (h message hmessage) hch

/-- An argument that ends inside its last message is read as given when the rest of
that message is. -/
theorem parseMessages_cut {front : List Runner.MessageSpec} {last : Runner.MessageSpec}
    (h : ∀ message ∈ front, Sendable message) (hlast : Sendable last)
    (hmany : front.length < maxMessages) {cut : CppString} (hcut : cut <+: item last)
    (hne : cut ≠ []) :
    parseMessages (terminated 44 (front.map item) ++ cut) =
        some (front.map asGiven ++ [asGiven last]) ↔
      parseMessage cut = some (asGiven last) := by
  have hnonempty : ∀ spec ∈ front.map item, spec ≠ [] := by
    intro spec hspec
    rcases List.mem_map.mp hspec with ⟨message, -, rfl⟩
    exact item_ne_nil message
  have hrest : (44 : UInt8) ∉ cut := fun hmem =>
    item_free hlast (Or.inl rfl) (hcut.subset hmem)
  rw [parseMessages_eq_some_iff, fields_terminated hnonempty (items_free h (Or.inl rfl)),
    fields_whole hne hrest, forall₂_items h]
  constructor
  · exact And.right
  · intro hparse
    refine ⟨?_, hparse⟩
    rw [List.length_append, List.length_map, List.length_singleton]
    exact hmany

/-- An argument that ends before its last message has too few messages. -/
theorem parseMessages_lost {front : List Runner.MessageSpec}
    (h : ∀ message ∈ front, Sendable message) {cut : CppString}
    (hcut : cut <+: terminated 44 (front.map item)) (specs : List MessageSpec)
    (hspecs : front.length < specs.length) : parseMessages cut ≠ some specs := by
  intro hparse
  have hfew := fields_of_initial (items_free h (Or.inl rfl)) hcut
  have hlength := (parseMessages_eq_some_iff.mp hparse).2.length_eq
  rw [List.length_map] at hfew
  omega

/-- There is no NUL among several items. -/
theorem terminated_items_free {front : List Runner.MessageSpec}
    (h : ∀ message ∈ front, Sendable message) : (0 : UInt8) ∉ terminated 44 (front.map item) := by
  intro hmem
  simp only [terminated, List.mem_flatMap, List.mem_append, List.mem_singleton] at hmem
  rcases hmem with ⟨spec, hspec, hzero | hcomma⟩
  · exact items_free h (Or.inr rfl) spec hspec hzero
  · contradiction

/-- An item has at least its two colons. -/
theorem item_length (message : Runner.MessageSpec) : 2 ≤ (item message).length := by
  simp only [item, List.length_append, List.length_cons]
  omega

/-- An argument of which only a first part is left is read as given exactly when the part
is all of it, or all but a last byte that is a zero for a PPID. -/
theorem parseMessages_take_iff {front : List Runner.MessageSpec} {last : Runner.MessageSpec}
    (h : ∀ message ∈ front, Sendable message) (hlast : Sendable last)
    (hmany : front.length < maxMessages) (size : Nat) :
    parseMessages ((terminated 44 (front.map item) ++ item last).take size) =
        some (front.map asGiven ++ [asGiven last]) ↔
      (terminated 44 (front.map item) ++ item last).length ≤ size ∨
        (terminated 44 (front.map item) ++ item last).length = size + 1 ∧ last.ppid = 0 := by
  have hitem := item_length last
  generalize hfirst : terminated 44 (front.map item) = first
  rw [List.length_append]
  by_cases hfits : first.length + (item last).length ≤ size
  · have hwhole : (first ++ item last).take size = first ++ item last :=
      List.take_of_length_le (by rwa [List.length_append])
    rw [hwhole, ← hfirst, parseMessages_cut h hlast hmany (List.prefix_refl _)
      (item_ne_nil last), hfirst]
    exact iff_of_true (parseMessage_whole hlast) (Or.inl hfits)
  · by_cases hlost : size ≤ first.length
    · have hcut : (first ++ item last).take size <+: terminated 44 (front.map item) := by
        rw [List.take_append_of_le_length hlost, hfirst]
        exact List.take_prefix size first
      constructor
      · intro hparse
        exact absurd hparse (parseMessages_lost h hcut _ (by simp))
      · rintro (hshort | ⟨hequal, -⟩)
        · contradiction
        · omega
    · have htake : (first ++ item last).take size =
          first ++ (item last).take (size - first.length) := by
        rw [List.take_append, List.take_of_length_le (by omega)]
      have hcut := List.take_prefix (size - first.length) (item last)
      have hcutLength : ((item last).take (size - first.length)).length =
          size - first.length := by
        rw [List.length_take]
        omega
      have hcutNe : (item last).take (size - first.length) ≠ [] :=
        List.ne_nil_of_length_pos (by omega)
      rw [htake, ← hfirst, parseMessages_cut h hlast hmany (hfirst ▸ hcut) (hfirst ▸ hcutNe),
        hfirst, parseMessage_shortened hlast hcut (by omega), hcutLength]
      constructor
      · rintro ⟨hequal, hzero⟩
        exact Or.inr ⟨by omega, hzero⟩
      · rintro (hshort | ⟨hequal, hzero⟩)
        · contradiction
        · exact ⟨by omega, hzero⟩

/-- The list that `run_client` obtains, for an argument with a last message. -/
theorem clientMessages_concat_iff {front : List Runner.MessageSpec} {last : Runner.MessageSpec}
    (h : ∀ message ∈ front, Sendable message) (hlast : Sendable last)
    (hmany : front.length < maxMessages) :
    clientMessages (encodeUtf8 (encodeMessages (front ++ [last]))) =
        some ((front ++ [last]).map asGiven) ↔
      (encodeUtf8 (encodeMessages (front ++ [last]))).length ≤ 511 ∨
        (encodeUtf8 (encodeMessages (front ++ [last]))).length = 512 ∧ last.ppid = 0 := by
  have hall : ∀ message ∈ front ++ [last], Sendable message := by
    intro message hmessage
    rcases List.mem_append.mp hmessage with hmem | hmem
    · exact h message hmem
    · rw [List.mem_singleton.mp hmem]
      exact hlast
  rw [encodeUtf8_encodeMessages (fun message hm => (hall message hm).stream.1)
    fun message hm => (hall message hm).ppid.1]
  rw [List.map_append, List.map_singleton, intercalate_concat, List.map_append,
    List.map_singleton]
  have hfree : (0 : UInt8) ∉ terminated 44 (front.map item) ++ item last := by
    rw [List.mem_append, not_or]
    exact ⟨terminated_items_free h, item_free hlast (Or.inr rfl)⟩
  rw [clientMessages, strlcpy_eq_take hfree]
  exact parseMessages_take_iff h hlast hmany 511

/-- The list that `run_client` obtains is the one of the scenario exactly when the
argument has at most 511 bytes, or 512 of which the last is a zero for a PPID. -/
theorem client_sends_iff {messages : List Runner.MessageSpec} (hne : messages ≠ [])
    (hmany : messages.length ≤ maxMessages) (h : ∀ message ∈ messages, Sendable message) :
    clientMessages (encodeUtf8 (encodeMessages messages)) = some (messages.map asGiven) ↔
      (encodeUtf8 (encodeMessages messages)).length ≤ 511 ∨
        (encodeUtf8 (encodeMessages messages)).length = 512 ∧
          ∃ last ∈ messages.getLast?, last.ppid = 0 := by
  rcases List.eq_nil_or_concat' messages with hnil | ⟨front, last, hmessages⟩
  · contradiction
  · subst hmessages
    have hfront : ∀ message ∈ front, Sendable message := fun message hm =>
      h message (List.mem_append_left [last] hm)
    have hlast : Sendable last := h last (List.mem_append_right front List.mem_cons_self)
    have hroom : front.length < maxMessages := by
      simpa [Nat.succ_le_iff] using hmany
    rw [clientMessages_concat_iff hfront hlast hroom, List.getLast?_concat]
    simp only [Option.mem_def, Option.some.injEq, exists_eq_left']

/-- The messages of a scenario: an ordinary one, and one with the largest numbers. -/
def twoMessages : List Runner.MessageSpec :=
  [⟨"hello".toList, 2, 42⟩, ⟨"two words".toList, 65535, 4294967295⟩]

/-- Two messages, in an argument that is short enough. -/
theorem client_sends_iff_two :
    clientMessages (encodeUtf8 (encodeMessages twoMessages)) = some (twoMessages.map asGiven) ↔
      (encodeUtf8 (encodeMessages twoMessages)).length ≤ 511 ∨
        (encodeUtf8 (encodeMessages twoMessages)).length = 512 ∧
          ∃ last ∈ twoMessages.getLast?, last.ppid = 0 := by
  apply client_sends_iff (List.cons_ne_nil _ _) (by decide)
  intro message hmessage
  simp only [List.mem_cons, List.not_mem_nil, or_false] at hmessage
  rcases hmessage with rfl | rfl
  · exact ⟨by decide, by decide, by decide, by decide⟩
  · exact ⟨by decide, by decide, by decide, by decide⟩

/-! ## A shortened argument -/

/-- Two messages of 250 bytes, for PPID 100. -/
def longMessages : List Runner.MessageSpec :=
  List.replicate 2 ⟨List.replicate 250 'a', 1, 100⟩

/-- The last PPID arrives as 1. -/
theorem last_ppid_shortened :
    (∀ message ∈ longMessages, Sendable message) ∧
      clientMessages (encodeUtf8 (encodeMessages longMessages)) ≠
        some (longMessages.map asGiven) := by
  constructor
  · intro message hmessage
    rw [List.eq_of_mem_replicate hmessage]
    exact ⟨by decide +kernel, by decide +kernel, by decide, by decide⟩
  · decide +kernel

end SctpConformance.FreebsdHelper
