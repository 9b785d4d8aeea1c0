import SctpConformance.Helpers.CStrings

/-!
# Address lists of the C helper

`parse_addr` and `parse_addr_list` of `adapters/freebsd_c/helper.c`, on the copy that
`run_server` and `run_client` make of an argument.  The array that they declare is not
initialised: an entry is there only once it has been written.

Main results:

- Theorem `inetPton_eq_some_iff`: the texts of IPv4 addresses.
- Theorem `addressList_eq_some_iff`: what a successful call leaves in the array.
- Theorem `addresses_given_iff`: an accepted list has only given addresses exactly when
  it begins with its items, each ends in a plain port, and there is one.
- Theorem `empty_list_accepted`: the list without an item.
-/

namespace SctpConformance.FreebsdHelper

open Library

/-! ## The C library -/

/-- `strtol` with base 10, for a `long` of 64 bits. -/
def strtol (text : CppString) : Int :=
  let (negative, rest) := splitSign (text.dropWhile isSpace)
  let n : Int := natOfDigits (rest.takeWhile isDigit)
  let value := if negative then -n else n
  if value < -2 ^ 63 then -2 ^ 63 else if 2 ^ 63 ≤ value then 2 ^ 63 - 1 else value

/-- One part of a dotted address: a number up to 255 without leading zeros. -/
def octet (part : CppString) : Option UInt8 :=
  if part ≠ [] ∧ part.all isDigit = true ∧ (part.head? = some 48 → part = [48]) ∧
      natOfDigits part ≤ 255 then
    some (UInt8.ofNat (natOfDigits part))
  else none

/-- `inet_pton` for `AF_INET`: the four bytes of the address. -/
def inetPton (host : CppString) : Option (List UInt8) :=
  let parts := host.splitOn 46
  if parts.length = 4 then readAll octet parts else none

/-! ## The parsers -/

/-- The parts of a `struct sockaddr_in` that are not fixed. -/
structure SockaddrIn where
  address : List UInt8
  port : Nat
deriving DecidableEq

/-- An array of addresses, with the entries that have been written. -/
abbrev Addrs := Nat → Option SockaddrIn

/-- `MAX_ADDRS` -/
def maxAddrs : Nat :=
  8

/-- `parse_addr` -/
def parseAddr (raw : CppString) : Option SockaddrIn :=
  if 64 ≤ raw.length then none
  else
    match splitLast 58 raw with
    | none => none
    | some (host, portStr) =>
        let port := strtol portStr
        if port < 0 ∨ 65535 < port then none
        else
          match inetPton host with
          | none => none
          | some address => some { address := address, port := port.toNat }

/-- The loop of `parse_addr_list` from this entry on. -/
def parseAddrs : List CppString → Nat → Addrs → Option Addrs
  | [], _, addrs => some addrs
  | part :: parts, i, addrs =>
      match parseAddr part with
      | none => none
      | some sin => parseAddrs parts (i + 1) (Function.update addrs i (some sin))

/-- `parse_addr_list`: the count and the array. -/
def parseAddrList (raw : CppString) (addrs : Addrs) : Option (Nat × Addrs) :=
  let parts := splitCsv raw
  if maxAddrs < parts.length then none
  else (parseAddrs parts 0 addrs).map fun addrs => (parts.length, addrs)

/-- The list that `run_server` and `run_client` get from their argument. -/
def addressList (argument : CppString) : Option (Nat × Addrs) :=
  parseAddrList (strlcpy 256 argument) fun _ => none

/-! ## Texts of addresses -/

/-- Digits without a leading zero are those of their number. -/
theorem decimal_natOfDigits {digits : CppString} (hne : digits ≠ [])
    (hdigits : ∀ ch ∈ digits, isDigit ch = true) (hhead : digits.head? = some 48 → digits = [48]) :
    decimal (natOfDigits digits) = digits := by
  induction digits using List.reverseRecOn with
  | nil => contradiction
  | append_singleton front ch ih =>
      have hch := hdigits ch (List.mem_append_right front List.mem_cons_self)
      simp only [isDigit, Bool.and_eq_true, decide_eq_true_eq, UInt8.le_iff_toNat_le,
        UInt8.reduceToNat] at hch
      have hback : UInt8.ofNat (48 + (ch.toNat - 48)) = ch := by
        rw [show 48 + (ch.toNat - 48) = ch.toNat by omega, UInt8.ofNat_toNat]
      rw [natOfDigits_append, decimal_eq]
      by_cases hfront : front = []
      · subst hfront
        have hsmall : natOfDigits [] * 10 + (ch.toNat - 48) = ch.toNat - 48 := by
          simp [natOfDigits]
        rw [hsmall, if_pos (by omega), hback]
        rfl
      · have hfrontHead : front.head? ≠ some 48 := by
          intro hzero
          have hwhole := hhead (by rw [List.head?_append_of_ne_nil front hfront, hzero])
          have hlength := congrArg List.length hwhole
          simp only [List.length_append, List.length_singleton] at hlength
          exact hfront (List.length_eq_zero_iff.mp (by omega))
        have hrest := ih hfront (fun c hc => hdigits c (List.mem_append_left [ch] hc))
          fun hzero => absurd hzero hfrontHead
        have hpos : natOfDigits front ≠ 0 := by
          intro hzero
          rw [hzero] at hrest
          apply hfrontHead
          rw [← hrest]
          decide
        rw [if_neg (by omega), show (natOfDigits front * 10 + (ch.toNat - 48)) / 10 =
          natOfDigits front by omega, show (natOfDigits front * 10 + (ch.toNat - 48)) % 10 =
          ch.toNat - 48 by omega, hrest, hback]

/-- A part of an address is the decimal text of a byte. -/
theorem octet_eq_some_iff {part : CppString} {value : UInt8} :
    octet part = some value ↔ part = decimal value.toNat := by
  unfold octet
  constructor
  · intro h
    split at h
    · rename_i hpart
      rcases hpart with ⟨hne, hdigits, hhead, hsmall⟩
      cases h
      rw [UInt8.toNat_ofNat_of_lt' (by simp only [UInt8.size]; omega)]
      exact (decimal_natOfDigits hne (List.all_eq_true.mp hdigits) hhead).symm
    · contradiction
  · rintro rfl
    have hlarge := value.toNat_lt
    have hhead : (decimal value.toNat).head? = some 48 → decimal value.toNat = [48] := by
      intro hzero
      rcases decimal_head value.toNat with hone | ⟨ch, rest, hdecimal, hch⟩
      · exact hone
      · rw [hdecimal] at hzero
        exact absurd (Option.some.inj hzero) hch
    rw [if_pos ⟨decimal_ne_nil _, List.all_eq_true.mpr (decimal_digits _), hhead,
      by rw [natOfDigits_decimal]; omega⟩, natOfDigits_decimal, UInt8.ofNat_toNat]

/-- The text of an IPv4 address. -/
def dotted (address : List UInt8) : CppString :=
  [46].intercalate (address.map fun value => decimal value.toNat)

/-- `inet_pton` accepts four numbers up to 255 with dots between them. -/
theorem inetPton_eq_some_iff {host : CppString} {address : List UInt8} :
    inetPton host = some address ↔ address.length = 4 ∧ host = dotted address := by
  have hdots : ∀ part ∈ address.map fun value => decimal value.toNat, (46 : UInt8) ∉ part := by
    intro part hpart hdot
    rcases List.mem_map.mp hpart with ⟨value, -, rfl⟩
    exact absurd (decimal_digits _ _ hdot) (by decide)
  have hread : ∀ parts : List CppString, readAll octet parts = some address ↔
      parts = address.map fun value => decimal value.toNat := by
    intro parts
    have hmap := List.forall₂_map_right_iff (R := (· = ·)) (l := parts) (u := address)
      (f := fun value : UInt8 => decimal value.toNat)
    rw [List.forall₂_eq_eq_eq] at hmap
    simp only [readAll_eq_some_iff, octet_eq_some_iff]
    exact hmap.symm
  unfold inetPton
  constructor
  · intro h
    dsimp only at h
    split at h
    · rename_i hfour
      have hparts := (hread _).mp h
      rw [hparts, List.length_map] at hfour
      refine ⟨hfour, ?_⟩
      rw [dotted, ← hparts, List.intercalate_splitOn]
    · contradiction
  · rintro ⟨hfour, rfl⟩
    have hne : (address.map fun value => decimal value.toNat) ≠ [] := by
      intro hnil
      rw [List.map_eq_nil_iff.mp hnil] at hfour
      contradiction
    dsimp only
    rw [dotted, List.splitOn_intercalate 46 hdots hne, List.length_map, if_pos hfour]
    exact (hread _).mpr rfl

/-! ## One item -/

/-- An item is the text of this address: four numbers with dots, a colon, and a port. -/
def IsTextOf (item : CppString) (sin : SockaddrIn) : Prop :=
  ∃ port, item = dotted sin.address ++ 58 :: port ∧ sin.address.length = 4 ∧ IsDecimal port ∧
    natOfDigits port = sin.port ∧ sin.port ≤ 65535

/-- What follows the last colon is a non-empty run of digits. -/
def PlainPort (item : CppString) : Prop :=
  ∃ host port, splitLast 58 item = some (host, port) ∧ IsDecimal port

/-- There is no colon among digits. -/
theorem colon_not_mem_decimal {port : CppString} (h : IsDecimal port) : (58 : UInt8) ∉ port := by
  intro hmem
  exact absurd (h.2 58 hmem) (by decide)

/-- The text of an address ends with a plain port. -/
theorem IsTextOf.plainPort {item : CppString} {sin : SockaddrIn} (h : IsTextOf item sin) :
    PlainPort item := by
  rcases h with ⟨port, hitem, -, hport, -, -⟩
  exact ⟨dotted sin.address, port,
    splitLast_eq_some_iff.mpr ⟨hitem, colon_not_mem_decimal hport⟩, hport⟩

/-- Such an item is not empty. -/
theorem PlainPort.ne_nil {item : CppString} (h : PlainPort item) : item ≠ [] := by
  rcases h with ⟨host, port, hsplit, -⟩
  rw [(splitLast_eq_some_iff.mp hsplit).1]
  simp

/-- `strtol` reads a run of digits, up to the largest `long`. -/
theorem strtol_decimal {port : CppString} (h : IsDecimal port) :
    strtol port = if 2 ^ 63 ≤ (natOfDigits port : Int) then 2 ^ 63 - 1
      else (natOfDigits port : Int) := by
  rcases h with ⟨hne, hdigits⟩
  have htake : port.takeWhile isDigit = port := List.takeWhile_eq_self_iff.mpr hdigits
  have hspace : ∀ ch, port.head? = some ch → isSpace ch = false := fun ch hch =>
    (isDigit_ne (hdigits ch (List.mem_of_head? hch))).1
  have hsign : splitSign port = (false, port) := by
    cases port with
    | nil => contradiction
    | cons ch rest =>
        have hch := isDigit_ne (hdigits ch List.mem_cons_self)
        rw [splitSign, if_neg hch.2.1, if_neg hch.2.2]
  simp only [strtol, dropWhile_of_head hspace, hsign, htake, Bool.false_eq_true, if_false]
  rw [if_neg (by omega)]

/-- An accepted item with a plain port is the text of the address that is stored. -/
theorem isTextOf_of_parseAddr {item : CppString} {sin : SockaddrIn}
    (h : parseAddr item = some sin) (hplain : PlainPort item) : IsTextOf item sin := by
  rcases hplain with ⟨host, port, hsplit, hport⟩
  unfold parseAddr at h
  rw [hsplit] at h
  dsimp only at h
  split at h
  · contradiction
  · split at h
    · contradiction
    · rename_i hrange
      rw [strtol_decimal hport] at h hrange
      split at hrange
      · omega
      · rename_i hsmall
        rw [if_neg hsmall] at h
        cases haddress : inetPton host with
        | none => simp [haddress] at h
        | some address =>
            rcases inetPton_eq_some_iff.mp haddress with ⟨hfour, hhost⟩
            simp only [haddress, Option.some.injEq] at h
            subst h
            refine ⟨port, ?_, hfour, hport, by simp, ?_⟩
            · rw [(splitLast_eq_some_iff.mp hsplit).1, hhost]
            · dsimp only
              omega

/-! ## The array -/

/-- The array after these addresses have been written from an entry on. -/
def written : Nat → List SockaddrIn → Addrs → Addrs
  | _, [], addrs => addrs
  | i, sin :: sins, addrs => written (i + 1) sins (Function.update addrs i (some sin))

/-- What stands at a place of the array. -/
theorem written_at (start : Nat) (sins : List SockaddrIn) (addrs : Addrs) (i : Nat) :
    written start sins addrs i =
      if i < start then addrs i else (sins[i - start]?).or (addrs i) := by
  induction sins generalizing start addrs with
  | nil => simp [written]
  | cons sin sins ih =>
      rw [written, ih]
      by_cases hbefore : i < start
      · rw [if_pos (by omega), if_pos hbefore, Function.update_of_ne (by omega)]
      · rw [if_neg hbefore]
        by_cases hhere : i = start
        · subst hhere
          rw [if_pos (by omega), Function.update_self, Nat.sub_self]
          simp
        · rw [if_neg (by omega), Function.update_of_ne hhere,
            show i - start = i - (start + 1) + 1 by omega, List.getElem?_cons_succ]

/-- The loop writes one entry for each item. -/
theorem parseAddrs_eq_some_iff {parts : List CppString} {start : Nat} {addrs addrs' : Addrs} :
    parseAddrs parts start addrs = some addrs' ↔
      ∃ sins, List.Forall₂ (fun part sin => parseAddr part = some sin) parts sins ∧
        addrs' = written start sins addrs := by
  induction parts generalizing start addrs with
  | nil => simp [parseAddrs, written, eq_comm]
  | cons part parts ih =>
      rw [parseAddrs]
      simp only [List.forall₂_cons_left_iff]
      cases hpart : parseAddr part with
      | none => simp
      | some sin =>
          simp only [ih, Option.some.injEq]
          constructor
          · rintro ⟨sins, hsins, rfl⟩
            exact ⟨sin :: sins, ⟨sin, sins, rfl, hsins, rfl⟩, rfl⟩
          · rintro ⟨_, ⟨_, sins, rfl, hsins, rfl⟩, rfl⟩
            exact ⟨sins, hsins, rfl⟩

/-- A successful call leaves one entry for each item, and no other. -/
theorem addressList_eq_some_iff {raw : CppString} (hlength : raw.length ≤ 255)
    (hzero : (0 : UInt8) ∉ raw) {count : Nat} {addrs : Addrs} :
    addressList raw = some (count, addrs) ↔
      (fields 44 raw).length ≤ maxAddrs ∧ ∃ sins : List SockaddrIn,
        List.Forall₂ (fun item sin => parseAddr item = some sin) (fields 44 raw) sins ∧
          count = sins.length ∧ addrs = fun i => sins[i]? := by
  rw [addressList, strlcpy_of_fits hzero hlength, parseAddrList, splitCsv_eq]
  have hwritten : ∀ sins : List SockaddrIn,
      written 0 sins (fun _ => none) = fun i => sins[i]? := by
    intro sins
    funext i
    simp [written_at]
  by_cases hmany : maxAddrs < (fields 44 raw).length
  · simp [hmany, not_le.mpr hmany]
  · rw [if_neg hmany]
    simp only [Option.map_eq_some_iff, Prod.mk.injEq, parseAddrs_eq_some_iff, hwritten,
      not_lt.mp hmany, true_and]
    constructor
    · rintro ⟨_, ⟨sins, hsins, rfl⟩, hcount, rfl⟩
      exact ⟨sins, hsins, by rw [← hcount, hsins.length_eq], rfl⟩
    · rintro ⟨sins, hsins, hcount, rfl⟩
      exact ⟨_, ⟨sins, hsins, rfl⟩, by rw [hcount, hsins.length_eq], rfl⟩

/-! ## Only given addresses -/

/-- There is an address, there are not too many, and each entry below the count has
been written and is the address of the item in its place. -/
structure OnlyGiven (raw : CppString) (count : Nat) (addrs : Addrs) : Prop where
  nonempty : 1 ≤ count
  bounded : count ≤ maxAddrs
  initialised : ∀ i < count, addrs i ≠ none
  given : ∀ i < count, ∀ sin, addrs i = some sin →
    ∃ item, (raw.splitOn 44)[i]? = some item ∧ IsTextOf item sin

/-- The items come first, with nothing but commas behind them, and each ends in a plain
port. -/
def ItemsFirst (raw : CppString) : Prop :=
  ∃ items blanks, raw.splitOn 44 = items ++ blanks ∧ items ≠ [] ∧
    (∀ item ∈ items, PlainPort item) ∧ ∀ blank ∈ blanks, blank = []

/-- The items before a first blank one are all items of the list. -/
theorem fields_of_itemsFirst {raw : CppString} {items blanks : List CppString}
    (hsplit : raw.splitOn 44 = items ++ blanks) (hitems : ∀ item ∈ items, PlainPort item) :
    fields 44 raw = items ++ blanks.filter (· ≠ []) := by
  rw [fields, hsplit, List.filter_append]
  congr 1
  rw [List.filter_eq_self]
  intro item hitem
  simpa using (hitems item hitem).ne_nil

/-- If only given addresses are in the list, then the text begins with its items. -/
theorem OnlyGiven.itemsFirst {raw : CppString} (hlength : raw.length ≤ 255)
    (hzero : (0 : UInt8) ∉ raw) {count : Nat} {addrs : Addrs}
    (hlist : addressList raw = some (count, addrs)) (hgiven : OnlyGiven raw count addrs) :
    ItemsFirst raw := by
  rcases (addressList_eq_some_iff hlength hzero).mp hlist with ⟨-, sins, hsins, rfl, rfl⟩
  have hplain : ∀ i < sins.length, ∃ item, (raw.splitOn 44)[i]? = some item ∧
      PlainPort item := by
    intro i hi
    rcases hgiven.given i hi sins[i] (List.getElem?_eq_getElem hi) with ⟨item, hitem, htext⟩
    exact ⟨item, hitem, htext.plainPort⟩
  have hitems : ∀ item ∈ (raw.splitOn 44).take sins.length, PlainPort item := by
    intro item hitem
    rcases List.mem_iff_getElem?.mp hitem with ⟨i, hi⟩
    rw [List.getElem?_take] at hi
    split at hi
    · rename_i hbelow
      rcases hplain i hbelow with ⟨item', hitem', hport⟩
      rw [hi] at hitem'
      cases hitem'
      exact hport
    · contradiction
  have hcount : sins.length ≤ (raw.splitOn 44).length := by
    have hpos := hgiven.nonempty
    rcases hplain (sins.length - 1) (by omega) with ⟨item, hitem, -⟩
    have hbelow := (List.getElem?_eq_some_iff.mp hitem).1
    omega
  have hsplit := (List.take_append_drop sins.length (raw.splitOn 44)).symm
  refine ⟨_, _, hsplit, ?_, hitems, ?_⟩
  · apply List.ne_nil_of_length_pos
    rw [List.length_take]
    exact lt_min hgiven.nonempty (lt_of_lt_of_le hgiven.nonempty hcount)
  · have hlengths := hsins.length_eq
    rw [fields_of_itemsFirst hsplit hitems, List.length_append, List.length_take,
      min_eq_left hcount] at hlengths
    have hempty := List.length_eq_zero_iff.mp (Nat.left_eq_add.mp hlengths.symm)
    intro blank hblank
    simpa using List.filter_eq_nil_iff.mp hempty blank hblank

/-- A text that begins with its items gives a list of their addresses. -/
theorem ItemsFirst.onlyGiven {raw : CppString} (hlength : raw.length ≤ 255)
    (hzero : (0 : UInt8) ∉ raw) {count : Nat} {addrs : Addrs}
    (hlist : addressList raw = some (count, addrs)) (hfirst : ItemsFirst raw) :
    OnlyGiven raw count addrs := by
  rcases hfirst with ⟨items, blanks, hsplit, hne, hplain, hblanks⟩
  have hfields := fields_of_itemsFirst hsplit hplain
  have hempty : blanks.filter (· ≠ []) = [] := by
    rw [List.filter_eq_nil_iff]
    intro blank hblank
    simpa using hblanks blank hblank
  rw [hempty, List.append_nil] at hfields
  rcases (addressList_eq_some_iff hlength hzero).mp hlist with ⟨hfew, sins, hsins, rfl, rfl⟩
  rw [hfields] at hfew hsins
  have hcount := hsins.length_eq
  refine ⟨?_, ?_, ?_, ?_⟩
  · have hpos := List.length_pos_of_ne_nil hne
    omega
  · omega
  · intro i hi
    simp [List.getElem?_eq_getElem hi]
  · intro i hi sin hsin
    have hbelow : i < items.length := by omega
    have hread := hsins.get hbelow hi
    rw [List.get_eq_getElem, List.get_eq_getElem] at hread
    rw [List.getElem?_eq_getElem hi, Option.some.injEq] at hsin
    refine ⟨items[i], ?_, ?_⟩
    · rw [hsplit, List.getElem?_append_left hbelow, List.getElem?_eq_getElem hbelow]
    · rw [← hsin]
      exact isTextOf_of_parseAddr hread (hplain _ (List.getElem_mem hbelow))

/-- Every accepted list has only given addresses exactly when nothing is accepted, or the
text begins with its items, each ends in a plain port, and there is one. -/
theorem addresses_given_iff {raw : CppString} (hlength : raw.length ≤ 255)
    (hzero : (0 : UInt8) ∉ raw) :
    (∀ count addrs, addressList raw = some (count, addrs) → OnlyGiven raw count addrs) ↔
      addressList raw = none ∨ ItemsFirst raw := by
  constructor
  · intro honly
    cases hlist : addressList raw with
    | none => exact Or.inl rfl
    | some result =>
        right
        rcases result with ⟨count, addrs⟩
        exact (honly count addrs hlist).itemsFirst hlength hzero hlist
  · rintro (hnone | hfirst) count addrs hlist
    · rw [hnone] at hlist
      contradiction
    · exact hfirst.onlyGiven hlength hzero hlist

/-- Two addresses. -/
theorem addresses_given_iff_twoAddresses :
    (∀ count addrs, addressList (str "127.0.0.1:9899,127.0.0.2:9900") = some (count, addrs) →
      OnlyGiven (str "127.0.0.1:9899,127.0.0.2:9900") count addrs) ↔
        addressList (str "127.0.0.1:9899,127.0.0.2:9900") = none ∨
          ItemsFirst (str "127.0.0.1:9899,127.0.0.2:9900") :=
  addresses_given_iff (by decide) (by decide)

/-- The empty list is accepted, and the first entry, which `run_server` binds, has not
been written. -/
theorem empty_list_accepted :
    ∃ count addrs, addressList [] = some (count, addrs) ∧ addrs 0 = none ∧
      ¬OnlyGiven [] count addrs := by
  refine ⟨0, fun _ => none, rfl, rfl, ?_⟩
  intro honly
  exact absurd honly.nonempty (by decide)

end SctpConformance.FreebsdHelper
