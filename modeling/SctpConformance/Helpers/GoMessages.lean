import SctpConformance.Helpers.ClientMessages

/-!
# One message argument, two helpers

`parseMessages` and `splitCSV` of `adapters/go_net/cmd/sctp-helper/main.go`, and the
same argument read by the C helper.  The Go helper removes whitespace around an item
and takes exactly three parts; the C helper takes the first two colons for
separators, whatever else an item holds, and 255 bytes of a payload.  An `int` of Go
has 64 bits here, as an `unsigned long` of C has.

Main results:

- Theorem `strtoul_atoi`: a number that Go accepts has the same low bits in C.
- Theorem `parsers_agree_iff`: two accepted readings are the same exactly when no item
  begins with whitespace and no payload is longer than 255 bytes.
- Theorem `space_read_differently`: a space in front of a payload.
-/

namespace SctpConformance.GoHelper

open Library
open FreebsdHelper (clientMessages parseMessages_eq_some_iff parseMessage_parts
  strlcpy strlcpy_eq_take strlcpy_of_fits strtoul_eq)

/-! ## The Go helper -/

/-- The code points of `unicode.IsSpace`, in UTF-8. -/
def spaces : List CppString := [
  [9], [10], [11], [12], [13], [32],
  -- U+0085, U+00A0 and U+1680
  [194, 133], [194, 160], [225, 154, 128],
  -- U+2000 to U+200A
  [226, 128, 128], [226, 128, 129], [226, 128, 130], [226, 128, 131], [226, 128, 132],
  [226, 128, 133], [226, 128, 134], [226, 128, 135], [226, 128, 136], [226, 128, 137],
  [226, 128, 138],
  -- U+2028, U+2029, U+202F, U+205F and U+3000
  [226, 128, 168], [226, 128, 169], [226, 128, 175], [226, 129, 159], [227, 128, 128]]

/-- `strings.TrimSpace` -/
def trimSpace (text : CppString) : CppString :=
  trimBoth spaces text

/-- `splitCSV` -/
def splitCSV (raw : CppString) : List CppString :=
  if raw = [] then []
  else ((raw.splitOn 44).map trimSpace).filter (· ≠ [])

/-- `strconv.Atoi` -/
def atoi (text : CppString) : Option Int :=
  let (negative, digits) := splitSign text
  if digits = [] ∨ ¬digits.all isDigit then none
  else
    let n : Int := natOfDigits digits
    let value := if negative then -n else n
    if -2 ^ 63 ≤ value ∧ value < 2 ^ 63 then some value else none

/-- The body of the loop of `parseMessages`, with the conversions to `uint16` and
`uint32`. -/
def parseMessage (item : CppString) : Option FreebsdHelper.MessageSpec :=
  match item.splitOn 58 with
  | [payload, streamStr, ppidStr] =>
      match atoi streamStr, atoi ppidStr with
      | some stream, some ppid => some {
          payload := payload
          stream := (stream % 2 ^ 16).toNat
          ppid := (ppid % 2 ^ 32).toNat }
      | _, _ => none
  | _ => none

/-- `parseMessages` -/
def parseMessages (raw : CppString) : Option (List FreebsdHelper.MessageSpec) :=
  if raw = [] then some [] else readAll parseMessage (splitCSV raw)

/-! ## Numbers -/

/-- A number that Go accepts: an optional sign, and digits. -/
theorem atoi_eq_some {text : CppString} {value : Int} (h : atoi text = some value) :
    ∃ negative digits, splitSign text = (negative, digits) ∧ digits ≠ [] ∧
      (∀ ch ∈ digits, isDigit ch = true) ∧ natOfDigits digits ≤ 2 ^ 63 ∧
      value = if negative then -(natOfDigits digits : Int) else natOfDigits digits := by
  unfold atoi at h
  rcases hsplit : splitSign text with ⟨negative, digits⟩
  rw [hsplit] at h
  by_cases hdigits : digits = [] ∨ ¬digits.all isDigit
  · simp only [if_pos hdigits] at h
    contradiction
  · simp only [if_neg hdigits, Option.ite_none_right_eq_some, Option.some.injEq] at h
    rw [not_or, not_not, List.all_eq_true] at hdigits
    rcases h with ⟨hrange, hvalue⟩
    refine ⟨negative, digits, rfl, hdigits.1, hdigits.2, ?_, hvalue.symm⟩
    rw [hvalue] at hrange
    cases negative with
    | true =>
        simp only [if_true] at hvalue
        omega
    | false =>
        simp only [Bool.false_eq_true, if_false] at hvalue
        omega

/-- A sign is found where a number is, whatever follows it. -/
theorem splitSign_append {text digits : CppString} {negative : Bool}
    (h : splitSign text = (negative, digits)) (hne : text ≠ []) (back : CppString) :
    splitSign (text ++ back) = (negative, digits ++ back) := by
  cases text with
  | nil => contradiction
  | cons ch text =>
      rw [List.cons_append]
      unfold splitSign at h ⊢
      by_cases hminus : ch = 45
      · simp only [hminus, if_true] at h ⊢
        cases h
        rfl
      · by_cases hplus : ch = 43
        · simp only [hplus, if_true] at h ⊢
          cases h
          rfl
        · simp only [hminus, hplus, if_false] at h ⊢
          cases h
          rfl

/-- A number begins with its sign or a digit. -/
theorem number_head {text digits : CppString} {negative : Bool}
    (h : splitSign text = (negative, digits)) (hdigits : ∀ ch ∈ digits, isDigit ch = true) :
    ∀ ch, text.head? = some ch → isSpace ch = false := by
  intro ch hch
  cases text with
  | nil => contradiction
  | cons first text =>
      have hfirst : first = ch := by simpa using hch
      subst hfirst
      unfold splitSign at h
      by_cases hminus : first = 45
      · rw [hminus]
        decide
      · by_cases hplus : first = 43
        · rw [hplus]
          decide
        · simp only [hminus, hplus, if_false] at h
          cases h
          exact (isDigit_ne (hdigits first List.mem_cons_self)).1

/-- A number that Go accepts has the same low bits in C, whatever follows it. -/
theorem strtoul_atoi {text back : CppString} {value : Int} (h : atoi text = some value)
    (hback : ∀ ch, back.head? = some ch → isDigit ch = false) :
    (strtoul (text ++ back) : Int) = value % 2 ^ 64 := by
  rcases atoi_eq_some h with ⟨negative, digits, hsplit, hne, hdigits, hfits, hvalue⟩
  have htext : text ≠ [] := by
    intro hnil
    rw [hnil] at hsplit
    cases hsplit
    exact hne rfl
  have hspace : ∀ ch, (text ++ back).head? = some ch → isSpace ch = false := by
    intro ch hch
    rw [List.head?_append_of_ne_nil text htext] at hch
    exact number_head hsplit hdigits ch hch
  have hlarge : natOfDigits digits ≤ ulongMax := hfits.trans (by decide)
  rw [strtoul_eq hspace (splitSign_append hsplit htext back) hdigits hback hlarge, hvalue]
  cases negative with
  | true =>
      simp only [if_true]
      omega
  | false =>
      simp only [Bool.false_eq_true, if_false]
      omega

/-- The conversions to 16 and 32 bits. -/
theorem low_bits {n : Nat} {value : Int} (h : (n : Int) = value % 2 ^ 64) :
    n % 2 ^ 16 = (value % 2 ^ 16).toNat ∧ n % 2 ^ 32 = (value % 2 ^ 32).toNat := by
  constructor
  · omega
  · omega

/-! ## One item -/

/-- Every space has at least one byte. -/
theorem spaces_ne_nil : ∀ space ∈ spaces, space ≠ [] := by
  decide

/-- No byte of a whitespace character is a digit, a colon or a NUL. -/
theorem space_bytes {text : CppString} (h : Blank spaces text) {ch : UInt8} (hch : ch ∈ text) :
    isDigit ch = false ∧ ch ≠ 58 := by
  have hall : ∀ space ∈ spaces, ∀ ch ∈ space, isDigit ch = false ∧ ch ≠ 58 := by
    decide
  rcases h ch hch with ⟨space, hspace, hmem⟩
  exact hall space hspace ch hmem

/-- An item begins with whitespace. -/
def LeadingSpace (item : CppString) : Prop :=
  ∃ space ∈ spaces, space <+: item

/-- What a C payload loses: whitespace is kept, but only 255 bytes. -/
theorem payload_eq_iff {front payload rest : CppString} (hzero : (0 : UInt8) ∉ front ++ payload)
    (hfront : front = [] ↔ ¬LeadingSpace (front ++ payload ++ rest))
    (hpayload : ¬LeadingSpace payload) :
    strlcpy 256 (front ++ payload) = payload ↔
      ¬LeadingSpace (front ++ payload ++ rest) ∧ (front ++ payload).length ≤ 255 := by
  rw [strlcpy_eq_take hzero, ← hfront]
  constructor
  · intro htake
    by_cases hshort : (front ++ payload).length ≤ 255
    · rw [List.take_of_length_le hshort] at htake
      exact ⟨List.append_left_eq_self.mp htake, hshort⟩
    · exfalso
      have hlength : payload.length = 255 := by
        have htaken := congrArg List.length htake
        rw [List.length_take] at htaken
        omega
      have htaken : payload <+: front ++ payload := by
        conv_lhs => rw [← htake]
        exact List.take_prefix 255 (front ++ payload)
      have hinitial : payload <+: front ++ payload ++ rest :=
        htaken.trans (List.prefix_append _ rest)
      have hne : front ≠ [] := by
        intro hnil
        rw [hnil, List.nil_append] at hshort
        omega
      rcases not_not.mp (mt hfront.mpr hne) with ⟨space, hspace, hleading⟩
      have hsmall : ∀ space ∈ spaces, space.length ≤ 3 := by decide
      have hinside := List.prefix_of_prefix_length_le hleading hinitial
        (by have := hsmall space hspace; omega)
      exact hpayload ⟨space, hspace, hinside⟩
  · rintro ⟨hnil, hshort⟩
    rw [hnil, List.nil_append] at hshort ⊢
    exact List.take_of_length_le hshort

/-- The three parts of an item that Go accepts. -/
theorem parseMessage_eq_some {item : CppString} {spec : FreebsdHelper.MessageSpec}
    (h : parseMessage item = some spec) :
    ∃ payload streamStr ppidStr stream ppid,
      item = payload ++ 58 :: (streamStr ++ 58 :: ppidStr) ∧ (58 : UInt8) ∉ payload ∧
      (58 : UInt8) ∉ streamStr ∧ atoi streamStr = some stream ∧ atoi ppidStr = some ppid ∧
      spec = {
        payload := payload
        stream := (stream % 2 ^ 16).toNat
        ppid := (ppid % 2 ^ 32).toNat } := by
  unfold parseMessage at h
  split at h
  · rename_i payload streamStr ppidStr hparts
    have hpart : ∀ part ∈ item.splitOn 58, (58 : UInt8) ∉ part := fun part hpart =>
      not_mem_of_mem_splitOn hpart
    rw [hparts] at hpart
    have hitem : [(58 : UInt8)].intercalate (item.splitOn 58) = item :=
      List.intercalate_splitOn 58
    rw [hparts] at hitem
    split at h
    · rename_i stream ppid hstream hppid
      cases h
      refine ⟨payload, streamStr, ppidStr, stream, ppid, ?_, hpart payload (by simp),
        hpart streamStr (by simp), hstream, hppid, rfl⟩
      rw [← hitem]
      simp
    · contradiction
  · contradiction

/-- The same item in both helpers: the numbers agree, and the payloads do when no white
space has been kept and nothing has been cut off. -/
theorem item_agrees_iff {item : CppString} (hzero : (0 : UInt8) ∉ item)
    {spec spec' : FreebsdHelper.MessageSpec}
    (h : FreebsdHelper.parseMessage item = some spec)
    (h' : parseMessage (trimSpace item) = some spec') :
    spec = spec' ↔ ¬LeadingSpace item ∧ (item.takeWhile (· ≠ 58)).length ≤ 255 := by
  rcases trimBoth_spec spaces_ne_nil item with ⟨front, back, hitem, hfront, hback, hnil, hnone⟩
  rcases parseMessage_eq_some h' with
    ⟨payload, streamStr, ppidStr, stream, ppid, htrim, hpayload, hstreamStr, hstream, hppid, rfl⟩
  change trimBoth spaces item = _ at htrim
  rw [htrim] at hitem hnone
  have hparts : item = (front ++ payload) ++ 58 :: (streamStr ++ 58 :: (ppidStr ++ back)) := by
    rw [hitem]
    simp
  have hbefore : (58 : UInt8) ∉ front ++ payload := by
    rw [List.mem_append, not_or]
    exact ⟨fun hmem => (space_bytes hfront hmem).2 rfl, hpayload⟩
  have hfirst : item.takeWhile (· ≠ 58) = front ++ payload := by
    rw [hparts, List.takeWhile_append_of_pos]
    · simp
    · intro ch hch
      simpa using ne_of_mem_of_not_mem hch hbefore
  have hdigit : ∀ ch, back.head? = some ch → isDigit ch = false := fun ch hch =>
    (space_bytes hback (List.mem_of_head? hch)).1
  have hnothing : ∀ ch, ([] : CppString).head? = some ch → isDigit ch = false := by simp
  have hlow := (low_bits (strtoul_atoi hstream hnothing)).1
  have hhigh := (low_bits (strtoul_atoi hppid hdigit)).2
  rw [List.append_nil] at hlow
  have hread := parseMessage_parts (ppidStr ++ back) hbefore hstreamStr
  rw [← hparts, h, hlow, hhigh] at hread
  cases hread
  have hsame : ∀ text, ({
      payload := text
      stream := (stream % 2 ^ 16).toNat
      ppid := (ppid % 2 ^ 32).toNat } : FreebsdHelper.MessageSpec) = {
        payload := payload
        stream := (stream % 2 ^ 16).toNat
        ppid := (ppid % 2 ^ 32).toNat } ↔ text = payload := by
    intro text
    simp
  have hleading : front = [] ↔ ¬LeadingSpace item := by
    rw [hnil]
    simp [LeadingSpace]
  have hrest : item = front ++ payload ++ 58 :: (streamStr ++ 58 :: (ppidStr ++ back)) := hparts
  rw [hsame, hfirst]
  rw [hrest] at hleading hzero ⊢
  apply payload_eq_iff
  · exact fun hmem => hzero (List.mem_append_left _ hmem)
  · exact hleading
  · rintro ⟨space, hspace, hinitial⟩
    exact hnone space hspace (hinitial.trans (List.prefix_append _ _))

/-! ## The whole argument -/

/-- The argument as both helpers accept it gives the same messages. -/
def ReadAlike (raw : CppString) : Prop :=
  ∀ specs specs', clientMessages raw = some specs → parseMessages raw = some specs' →
    specs = specs'

/-- Nothing is trimmed of nothing. -/
theorem trimSpace_nil : trimSpace [] = [] := by
  decide

/-- An item that C accepts has a colon, and so it is more than whitespace. -/
theorem trimSpace_ne_nil {item : CppString} {spec : FreebsdHelper.MessageSpec}
    (h : FreebsdHelper.parseMessage item = some spec) : trimSpace item ≠ [] := by
  intro hnil
  rcases trimBoth_spec spaces_ne_nil item with ⟨front, back, hitem, hfront, hback, -, -⟩
  change trimBoth spaces item = [] at hnil
  rw [hnil, List.append_nil] at hitem
  have hcolon : (58 : UInt8) ∉ item := by
    rw [hitem, List.mem_append, not_or]
    exact ⟨fun hmem => (space_bytes hfront hmem).2 rfl,
      fun hmem => (space_bytes hback hmem).2 rfl⟩
  rw [FreebsdHelper.parseMessage, splitFirst_eq_none_iff.mpr hcolon] at h
  contradiction

/-- Go trims the fields of the list, if each of them is more than whitespace. -/
theorem splitCSV_eq {raw : CppString} (h : ∀ item ∈ fields 44 raw, trimSpace item ≠ []) :
    splitCSV raw = (fields 44 raw).map trimSpace := by
  have hpieces : ∀ pieces : List CppString,
      (∀ item ∈ pieces.filter (· ≠ []), trimSpace item ≠ []) →
        (pieces.map trimSpace).filter (· ≠ []) = (pieces.filter (· ≠ [])).map trimSpace := by
    intro pieces hitems
    induction pieces with
    | nil => rfl
    | cons piece pieces ih =>
        by_cases hpiece : piece = []
        · subst hpiece
          simpa [trimSpace_nil] using ih (by simpa using hitems)
        · have hkept := hitems piece (by simp [hpiece])
          have hrest := ih fun item hitem =>
            hitems item (by simp only [List.filter_cons]; split <;> simp_all)
          simp only [ne_eq, decide_not] at hrest
          simp [hpiece, hkept, hrest]
  by_cases hraw : raw = []
  · subst hraw
    simp [splitCSV]
  · rw [splitCSV, if_neg hraw]
    exact hpieces (raw.splitOn 44) h

/-- An empty text has no items. -/
theorem parseMessages_eq (raw : CppString) :
    parseMessages raw = readAll parseMessage (splitCSV raw) := by
  unfold parseMessages splitCSV
  by_cases hraw : raw = []
  · simp [hraw, readAll]
  · simp [hraw]

/-- Lists that are read item by item are the same when each item is. -/
theorem items_agree_iff {items : List CppString} (hzero : ∀ item ∈ items, (0 : UInt8) ∉ item)
    {specs specs' : List FreebsdHelper.MessageSpec}
    (h : List.Forall₂ (fun item spec => FreebsdHelper.parseMessage item = some spec) items specs)
    (h' : List.Forall₂ (fun item spec => parseMessage (trimSpace item) = some spec) items
      specs') :
    specs = specs' ↔ ∀ item ∈ items,
      ¬LeadingSpace item ∧ (item.takeWhile (· ≠ 58)).length ≤ 255 := by
  induction h generalizing specs' with
  | nil =>
      cases h'
      simp
  | @cons item spec items specs hitem hitems ih =>
      rcases List.forall₂_cons_left_iff.mp h' with ⟨spec', rest', hitem', hrest', rfl⟩
      have hfirst := item_agrees_iff (hzero item List.mem_cons_self) hitem hitem'
      have hothers := ih (fun x hx => hzero x (List.mem_cons_of_mem item hx)) hrest'
      rw [List.cons.injEq, hfirst, hothers, List.forall_mem_cons]

/-- If both helpers accept an argument, they read the same messages exactly when no item
begins with whitespace and no payload is longer than 255 bytes. -/
theorem parsers_agree_iff {raw : CppString} (hlength : raw.length ≤ 511)
    (hzero : (0 : UInt8) ∉ raw) :
    ReadAlike raw ↔ clientMessages raw = none ∨ parseMessages raw = none ∨
      ∀ item ∈ fields 44 raw, ¬LeadingSpace item ∧ (item.takeWhile (· ≠ 58)).length ≤ 255 := by
  have hcopy : clientMessages raw = FreebsdHelper.parseMessages raw := by
    rw [clientMessages, strlcpy_of_fits hzero hlength]
  have hitems : ∀ item ∈ fields 44 raw, (0 : UInt8) ∉ item := fun item hitem hmem =>
    hzero (subset_of_mem_fields hitem hmem)
  unfold ReadAlike
  rw [hcopy]
  cases hspecs : FreebsdHelper.parseMessages raw with
  | none => simp
  | some specs =>
      cases hspecs' : parseMessages raw with
      | none => simp
      | some specs' =>
          have hread := (parseMessages_eq_some_iff.mp hspecs).2
          have hkept : ∀ item ∈ fields 44 raw, trimSpace item ≠ [] := by
            intro item hitem
            rcases exists_value hread hitem with ⟨spec, hspec⟩
            exact trimSpace_ne_nil hspec
          rw [parseMessages_eq, splitCSV_eq hkept, readAll_eq_some_iff,
            List.forall₂_map_left_iff] at hspecs'
          have hagree := items_agree_iff hitems hread hspecs'
          simpa using hagree

/-- Two plain messages. -/
theorem parsers_agree_iff_plain :
    ReadAlike (str "a:1:2,b:3:4") ↔ clientMessages (str "a:1:2,b:3:4") = none ∨
      parseMessages (str "a:1:2,b:3:4") = none ∨
        ∀ item ∈ fields 44 (str "a:1:2,b:3:4"),
          ¬LeadingSpace item ∧ (item.takeWhile (· ≠ 58)).length ≤ 255 :=
  parsers_agree_iff (by decide) (by decide)

/-- A space in front of a payload is sent by the C helper and not by the Go helper. -/
theorem space_read_differently : ¬ReadAlike (str " hello:1:2") := by
  intro halike
  have hspecs := halike [⟨str " hello", 1, 2⟩] [⟨str "hello", 1, 2⟩] (by decide) (by decide)
  exact absurd hspecs (by decide)

end SctpConformance.GoHelper
