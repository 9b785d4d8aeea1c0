import SctpConformance.Runner.JsonLoads

/-!
# Texts that are read as they were meant

What a program that prints JSON relies on: a text that is built up like a value, with blanks
between its tokens or without, is loaded as that value.

Main results:

- Definition `Written`: a text stands for a value.
- Theorem `loads_written`: it is loaded as this value, if it is not nested too deeply.
-/

namespace SctpConformance.Runner

namespace Interpreter

variable {interpreter : Interpreter}

/-! ## Numbers -/

/-- An integer in decimal digits, with its sign in front if it is negative. -/
def signed (n : Int) : Text :=
  if n < 0 then '-' :: Nat.toDigits 10 n.natAbs else Nat.toDigits 10 n.natAbs

/-- The digits behind a minus sign make a negative number. -/
theorem scanNumber_negative {n : Nat} (hn : (Nat.toDigits 10 n).length ≤ 640) {rest : Text}
    (hrest : EndsNumber rest) :
    interpreter.scanNumber true (Nat.toDigits 10 n ++ rest) = .ok (.int (-n), rest) := by
  have hfraction : fractionPart rest = ([], rest) := by
    cases rest with
    | nil => rfl
    | cons ch rest => simp [fractionPart, (hrest ch rfl).2.1]
  have hexponent : exponentPart rest = ([], rest) := by
    cases rest with
    | nil => rfl
    | cons ch rest => simp [exponentPart, (hrest ch rfl).2.2.1, (hrest ch rfl).2.2.2]
  have hlimit : interpreter.maxStrDigits.any (· < (Nat.toDigits 10 n).length) = false := by
    cases hmax : interpreter.maxStrDigits with
    | none => rfl
    | some limit =>
        have := interpreter.digits_ge limit hmax
        simp only [Option.any_some, decide_eq_false_iff_not]
        omega
  have hvalue : interpreter.toInt true (Nat.toDigits 10 n) = .ok (.int (-n)) := by
    rw [toInt, if_neg (by simp [hlimit]), Nat.ofDigitChars_ten_toDigits]
    rfl
  unfold scanNumber
  rw [wholePart_toDigits n hrest]
  simp only [Load.ok_bind, hfraction, hexponent, hvalue, and_self, if_true]
  rfl

/-- A negative number is read from its sign and digits. -/
theorem shows_negative {n : Nat} (hn : (Nat.toDigits 10 n).length ≤ 640) :
    Shows interpreter (.int (-n)) ('-' :: Nat.toDigits 10 n) := by
  refine ⟨⟨'-', _, rfl, by decide⟩, ?_⟩
  intro fuel depth rest hrest
  obtain ⟨ch, digits, hdigits⟩ := List.exists_cons_of_ne_nil (Nat.toDigits_ne_nil (n := n) (b := 10))
  have hdigit : ch.isDigit = true := by
    refine Nat.isDigit_of_mem_toDigits (b := 10) (n := n) (by decide) (by decide) ?_
    rw [hdigits]
    exact List.mem_cons_self
  have hconstant : constants.find? (fun constant =>
      constant.1.isPrefixOf ('-' :: (Nat.toDigits 10 n ++ rest))) = none := by
    have hne : 'I' ≠ ch := by
      rintro rfl
      exact absurd hdigit (by decide)
    simp [constants, List.isPrefixOf, hdigits, hne]
  rw [List.cons_append, scanOnce.eq_def]
  dsimp only
  rw [if_neg (by decide), if_neg (by decide), if_neg (by decide), scanAtom, hconstant]
  exact scanNumber_negative hn hrest

/-- So is every integer, up to Python's limit of digits. -/
theorem shows_signed {n : Int} (hn : (Nat.toDigits 10 n.natAbs).length ≤ 640) :
    Shows interpreter (.int n) (signed n) := by
  unfold signed
  split
  · have h : Shows interpreter _ _ := shows_negative hn
    rwa [show -(n.natAbs : Int) = n by omega] at h
  · have h : Shows interpreter _ _ := shows_natural hn
    rwa [show (n.natAbs : Int) = n by omega] at h

/-! ## Texts of values -/

/-- Blanks between two tokens. -/
def Blank (text : Text) : Prop :=
  ∀ ch ∈ text, isWhitespace ch = true

/-- What is read in one go: a value, or the items or the members of a container up to its
closing bracket. -/
inductive Part where
  | value (value : Value)
  | items (values : List Value)
  | members (members : Event)

/-- Behind its opening quote the text is read as this string. -/
def Quotes (interpreter : Interpreter) (string text : Text) : Prop :=
  ∀ rest, interpreter.scanString (text ++ '"' :: rest) = .ok (string, rest)

/-- The text stands for the part.  At most so many containers are nested in it. -/
inductive Written (interpreter : Interpreter) : Nat → Part → Text → Prop where
  /-- A string, a number or a constant. -/
  | atom {depth : Nat} {value : Value} {text : Text} (h : Shows interpreter value text) :
      Written interpreter depth (.value value) text
  | emptyList {depth : Nat} {blank : Text} (hblank : Blank blank) :
      Written interpreter (depth + 1) (.value (.list [])) ('[' :: (blank ++ [']']))
  | list {depth : Nat} {blank text : Text} {items : List Value} (hblank : Blank blank)
      (hitems : Written interpreter depth (.items items) text) :
      Written interpreter (depth + 1) (.value (.list items)) ('[' :: (blank ++ text))
  | emptyDict {depth : Nat} {blank : Text} (hblank : Blank blank) :
      Written interpreter (depth + 1) (.value (.dict [])) ('{' :: (blank ++ ['}']))
  | dict {depth : Nat} {blank text : Text} {members : Event} (hblank : Blank blank)
      (hmembers : Written interpreter depth (.members members) text)
      (hkeys : (members.map Prod.fst).Nodup) :
      Written interpreter (depth + 1) (.value (.dict members)) ('{' :: (blank ++ text))
  | lastItem {depth : Nat} {value : Value} {text blank : Text}
      (hvalue : Written interpreter depth (.value value) text) (hblank : Blank blank) :
      Written interpreter depth (.items [value]) (text ++ (blank ++ [']']))
  | item {depth : Nat} {value : Value} {text blank blank' rest : Text} {items : List Value}
      (hvalue : Written interpreter depth (.value value) text) (hblank : Blank blank)
      (hblank' : Blank blank') (hrest : Written interpreter depth (.items items) rest) :
      Written interpreter depth (.items (value :: items))
        (text ++ (blank ++ ',' :: (blank' ++ rest)))
  | lastMember {depth : Nat} {key keyText : Text} {value : Value} {text blank blank' blank'' : Text}
      (hkey : Quotes interpreter key keyText) (hblank : Blank blank) (hblank' : Blank blank')
      (hvalue : Written interpreter depth (.value value) text) (hblank'' : Blank blank'') :
      Written interpreter depth (.members [(key, value)])
        ('"' :: (keyText ++ '"' :: (blank ++ ':' :: (blank' ++ (text ++ (blank'' ++ ['}']))))))
  | member {depth : Nat} {key keyText : Text} {value : Value}
      {text blank blank' blank'' space rest : Text} {members : Event}
      (hkey : Quotes interpreter key keyText) (hblank : Blank blank) (hblank' : Blank blank')
      (hvalue : Written interpreter depth (.value value) text) (hblank'' : Blank blank'')
      (hspace : Blank space) (hrest : Written interpreter depth (.members members) rest) :
      Written interpreter depth (.members ((key, value) :: members))
        ('"' :: (keyText ++ '"' :: (blank ++ ':' :: (blank' ++ (text ++
          (blank'' ++ ',' :: (space ++ rest)))))))

/-- What the decoder makes of the text of a part, with enough fuel. -/
def Scanned (interpreter : Interpreter) (fuel depth : Nat) (text : Text) : Part → Prop
  | .value value => ∀ rest, EndsNumber rest →
      interpreter.scanOnce fuel depth (text ++ rest) = .ok (value, rest)
  | .items values => ∀ front rest,
      interpreter.scanItems fuel depth front (text ++ rest) = .ok (front ++ values, rest)
  | .members members => ∀ front rest,
      interpreter.scanMembers fuel depth front (text ++ rest) =
        .ok (members.foldl (fun event member => event.set member.1 member.2) front, rest)

/-- How the text of a part begins. -/
def Begins (part : Part) (ch : Char) : Prop :=
  isWhitespace ch = false ∧ ch ≠ ']' ∧
    match part with
    | .members _ => ch = '"'
    | _ => True

/-- A blank text is skipped. -/
theorem skipWhitespace_blank {blank : Text} (h : Blank blank) (rest : Text) :
    skipWhitespace (blank ++ rest) = skipWhitespace rest :=
  List.dropWhile_append_of_pos h

/-- Whitespace, commas and closing brackets end a number. -/
theorem endsNumber_cons {ch : Char} (h : isWhitespace ch = true ∨ ch ∈ [',', ']', '}'])
    (rest : Text) : EndsNumber (ch :: rest) := by
  intro c hc
  cases hc
  simp only [isWhitespace, Bool.or_eq_true, decide_eq_true_eq, List.mem_cons, List.not_mem_nil,
    or_false] at h
  rcases h with (((rfl | rfl) | rfl) | rfl) | rfl | rfl | rfl <;> decide

/-- A blank text ends a number if what follows it does. -/
theorem endsNumber_blank {blank rest : Text} (h : Blank blank) (hrest : EndsNumber rest) :
    EndsNumber (blank ++ rest) := by
  cases blank with
  | nil => exact hrest
  | cons ch blank => exact endsNumber_cons (.inl (h ch List.mem_cons_self)) _

/-- No value begins like the end of a list. -/
theorem Shows.begins {value : Value} {text : Text} (h : Shows interpreter value text) :
    ∃ ch rest, text = ch :: rest ∧ Begins (.value value) ch := by
  obtain ⟨ch, rest, rfl, hch⟩ := h.starts
  refine ⟨ch, rest, rfl, hch, ?_, trivial⟩
  rintro rfl
  have hread := h.read 0 0 [] (by simp [EndsNumber])
  rw [List.cons_append, scanOnce.eq_def] at hread
  dsimp only at hread
  have hconstant : constants.find? (fun constant =>
      constant.1.isPrefixOf (']' :: (rest ++ []))) = none := by
    simp [constants, List.isPrefixOf]
  rw [if_neg (by decide), if_neg (by decide), if_neg (by decide), scanAtom.eq_def, hconstant]
    at hread
  cases hread

/-- What has been written is not empty, and its first character tells what it is. -/
theorem Written.begins {depth : Nat} {part : Part} {text : Text}
    (h : Written interpreter depth part text) : ∃ ch rest, text = ch :: rest ∧ Begins part ch := by
  induction h with
  | atom h => exact h.begins
  | emptyList => exact ⟨_, _, rfl, by decide, by decide, trivial⟩
  | list => exact ⟨_, _, rfl, by decide, by decide, trivial⟩
  | emptyDict => exact ⟨_, _, rfl, by decide, by decide, trivial⟩
  | dict => exact ⟨_, _, rfl, by decide, by decide, trivial⟩
  | lastItem _ _ ih =>
      obtain ⟨ch, rest, rfl, hbegins⟩ := ih
      exact ⟨ch, _, rfl, hbegins.1, hbegins.2.1, trivial⟩
  | item _ _ _ _ ih =>
      obtain ⟨ch, rest, rfl, hbegins⟩ := ih
      exact ⟨ch, _, rfl, hbegins.1, hbegins.2.1, trivial⟩
  | lastMember => exact ⟨_, _, rfl, by decide, by decide, rfl⟩
  | member => exact ⟨_, _, rfl, by decide, by decide, rfl⟩

/-! ## Reading them -/

/-- It does not begin with whitespace. -/
theorem skipWhitespace_begins {depth : Nat} {part : Part} {text : Text}
    (h : Written interpreter depth part text) (rest : Text) :
    skipWhitespace (text ++ rest) = text ++ rest := by
  obtain ⟨ch, inner, rfl, hbegins⟩ := h.begins
  exact skipWhitespace_cons hbegins.1 _

/-- A bracket is followed by the items. -/
theorem scanOnce_list {depth : Nat} {blank text : Text} {items : List Value} (hblank : Blank blank)
    (h : Written interpreter depth (.items items) text) (fuel depth' : Nat) (rest : Text) :
    interpreter.scanOnce (fuel + 1) (depth' + 1) ('[' :: (blank ++ text) ++ rest) =
      interpreter.scanItems fuel depth' [] (text ++ rest) >>= fun scanned =>
        pure (.list scanned.1, scanned.2) := by
  rw [List.cons_append, List.append_assoc, scanOnce.eq_def]
  dsimp only
  rw [if_neg (by decide), if_neg (by decide), if_pos rfl, skipWhitespace_blank hblank,
    skipWhitespace_begins h]
  obtain ⟨ch, inner, rfl, hbegins⟩ := h.begins
  rw [List.cons_append]
  split
  · contradiction
  · rename_i heq
    exact absurd (List.cons.inj heq).1 hbegins.2.1
  · rename_i heq _
    cases heq
    rfl

/-- A brace is followed by the members. -/
theorem scanOnce_dict {depth : Nat} {blank text : Text} {members : Event} (hblank : Blank blank)
    (h : Written interpreter depth (.members members) text) (fuel depth' : Nat) (rest : Text) :
    interpreter.scanOnce (fuel + 1) (depth' + 1) ('{' :: (blank ++ text) ++ rest) =
      interpreter.scanMembers fuel depth' [] (text ++ rest) >>= fun scanned =>
        pure (.dict scanned.1, scanned.2) := by
  rw [List.cons_append, List.append_assoc, scanOnce.eq_def]
  dsimp only
  rw [if_neg (by decide), if_pos rfl, skipWhitespace_blank hblank, skipWhitespace_begins h]
  obtain ⟨ch, inner, rfl, hbegins⟩ := h.begins
  obtain rfl : ch = '"' := hbegins.2.2
  rfl

/-- A turn of the loop over the items, up to what follows the item. -/
theorem scanItems_item {fuel depth : Nat} {value : Value} {text blank : Text}
    (hvalue : Scanned interpreter fuel depth text (.value value)) (hblank : Blank blank)
    {ch : Char} (hch : ch ∈ [',', ']']) (front : List Value) (behind : Text) :
    interpreter.scanItems (fuel + 1) depth front (text ++ (blank ++ ch :: behind)) =
      match ch :: behind with
      | ']' :: rest => .ok (front ++ [value], rest)
      | ',' :: rest =>
          interpreter.scanItems fuel depth (front ++ [value]) (skipWhitespace rest)
      | _ => .error .decodeError := by
  have hends : EndsNumber (blank ++ ch :: behind) := by
    refine endsNumber_blank hblank (endsNumber_cons (.inr ?_) _)
    simp only [List.mem_cons, List.not_mem_nil, or_false] at hch ⊢
    tauto
  have hwhite : isWhitespace ch = false := by
    simp only [List.mem_cons, List.not_mem_nil, or_false] at hch
    rcases hch with rfl | rfl <;> decide
  rw [scanItems.eq_def]
  dsimp only
  rw [hvalue _ hends, Load.ok_bind]
  dsimp only
  rw [skipWhitespace_blank hblank, skipWhitespace_cons hwhite]
  rfl

/-- A turn of the loop over the members, up to what follows the member. -/
theorem scanMembers_member {fuel depth : Nat} {key keyText text blank blank' blank'' : Text}
    {value : Value} (hkey : Quotes interpreter key keyText) (hblank : Blank blank)
    (hblank' : Blank blank') (hskip : ∀ rest, skipWhitespace (text ++ rest) = text ++ rest)
    (hvalue : Scanned interpreter fuel depth text (.value value)) (hblank'' : Blank blank'')
    {ch : Char} (hch : ch ∈ [',', '}']) (front : Event) (behind : Text) :
    interpreter.scanMembers (fuel + 1) depth front ('"' :: (keyText ++ '"' :: (blank ++ ':' ::
        (blank' ++ (text ++ (blank'' ++ ch :: behind)))))) =
      match ch :: behind with
      | '}' :: rest => .ok (front.set key value, rest)
      | ',' :: rest =>
          interpreter.scanMembers fuel depth (front.set key value) (skipWhitespace rest)
      | _ => .error .decodeError := by
  have hends : EndsNumber (blank'' ++ ch :: behind) := by
    refine endsNumber_blank hblank'' (endsNumber_cons (.inr ?_) _)
    simp only [List.mem_cons, List.not_mem_nil, or_false] at hch ⊢
    tauto
  have hwhite : isWhitespace ch = false := by
    simp only [List.mem_cons, List.not_mem_nil, or_false] at hch
    rcases hch with rfl | rfl <;> decide
  have hcolon (rest : Text) : expect ':' (skipWhitespace (blank ++ ':' :: rest)) = .ok rest := by
    rw [skipWhitespace_blank hblank, skipWhitespace_cons (by decide), expect_eq_ok]
  rw [scanMembers.eq_def]
  dsimp only
  rw [expect_eq_ok.mpr rfl, Load.ok_bind, hkey, Load.ok_bind]
  dsimp only
  rw [hcolon, Load.ok_bind, skipWhitespace_blank hblank', hskip, hvalue _ hends, Load.ok_bind]
  dsimp only
  rw [skipWhitespace_blank hblank'', skipWhitespace_cons hwhite]
  rfl

/-- Members with different keys are stored in their order. -/
theorem foldl_set {members : Event} {front : Event}
    (hkeys : ((front ++ members).map Prod.fst).Nodup) :
    members.foldl (fun event member => event.set member.1 member.2) front = front ++ members := by
  induction members generalizing front with
  | nil => simp
  | cons member members ih =>
      have hnew : front.any (fun entry => decide (entry.1 = member.1)) = false := by
        rw [List.any_eq_false]
        intro entry hentry
        simp only [decide_eq_true_eq]
        intro heq
        rw [List.map_append, List.map_cons, List.nodup_append] at hkeys
        exact hkeys.2.2 _ (List.mem_map_of_mem hentry) _ List.mem_cons_self heq
      have hset : Event.set front member.1 member.2 = front ++ [member] := by
        unfold Event.set
        rw [hnew]
        rfl
      rw [List.foldl_cons, hset, ih (by simpa using hkeys)]
      simp

/-- The text of a part is read as the part. -/
theorem Written.scanned {depth : Nat} {part : Part} {text : Text}
    (h : Written interpreter depth part text) :
    ∃ need, ∀ fuel ≥ need, ∀ depth' ≥ depth, Scanned interpreter fuel depth' text part := by
  induction h with
  | atom h =>
      refine ⟨1, fun fuel hfuel depth' _ rest hrest => ?_⟩
      obtain ⟨fuel, rfl⟩ := Nat.exists_eq_add_of_le' hfuel
      exact h.read fuel depth' rest hrest
  | @emptyList depth blank hblank =>
      refine ⟨1, fun fuel hfuel depth' hdepth rest _ => ?_⟩
      obtain ⟨fuel, rfl⟩ := Nat.exists_eq_add_of_le' hfuel
      obtain ⟨depth', rfl⟩ := Nat.exists_eq_add_of_le' (Nat.le_trans (Nat.le_add_left 1 _) hdepth)
      rw [List.cons_append, List.append_assoc, scanOnce.eq_def]
      dsimp only
      rw [if_neg (by decide), if_neg (by decide), if_pos rfl, skipWhitespace_blank hblank,
        List.singleton_append, skipWhitespace_cons (by decide)]
      rfl
  | @list depth blank text items hblank hitems ih =>
      obtain ⟨need, hneed⟩ := ih
      refine ⟨need + 1, fun fuel hfuel depth' hdepth rest _ => ?_⟩
      obtain ⟨fuel, rfl⟩ := Nat.exists_eq_add_of_le' (Nat.le_trans (Nat.le_add_left 1 _) hfuel)
      obtain ⟨depth', rfl⟩ := Nat.exists_eq_add_of_le' (Nat.le_trans (Nat.le_add_left 1 _) hdepth)
      have hscan := hneed fuel (by omega) depth' (by omega) [] rest
      rw [scanOnce_list hblank hitems, hscan]
      rfl
  | @emptyDict depth blank hblank =>
      refine ⟨1, fun fuel hfuel depth' hdepth rest _ => ?_⟩
      obtain ⟨fuel, rfl⟩ := Nat.exists_eq_add_of_le' hfuel
      obtain ⟨depth', rfl⟩ := Nat.exists_eq_add_of_le' (Nat.le_trans (Nat.le_add_left 1 _) hdepth)
      rw [List.cons_append, List.append_assoc, scanOnce.eq_def]
      dsimp only
      rw [if_neg (by decide), if_pos rfl, skipWhitespace_blank hblank,
        List.singleton_append, skipWhitespace_cons (by decide)]
      rfl
  | @dict depth blank text members hblank hmembers hkeys ih =>
      obtain ⟨need, hneed⟩ := ih
      refine ⟨need + 1, fun fuel hfuel depth' hdepth rest _ => ?_⟩
      obtain ⟨fuel, rfl⟩ := Nat.exists_eq_add_of_le' (Nat.le_trans (Nat.le_add_left 1 _) hfuel)
      obtain ⟨depth', rfl⟩ := Nat.exists_eq_add_of_le' (Nat.le_trans (Nat.le_add_left 1 _) hdepth)
      have hscan := hneed fuel (by omega) depth' (by omega) [] rest
      rw [foldl_set (by simpa using hkeys), List.nil_append] at hscan
      rw [scanOnce_dict hblank hmembers, hscan]
      rfl
  | @lastItem depth value text blank hvalue hblank ih =>
      obtain ⟨need, hneed⟩ := ih
      refine ⟨need + 1, fun fuel hfuel depth' hdepth front rest => ?_⟩
      obtain ⟨fuel, rfl⟩ := Nat.exists_eq_add_of_le' (Nat.le_trans (Nat.le_add_left 1 _) hfuel)
      have hscan := hneed fuel (by omega) depth' hdepth
      have hturn := scanItems_item hscan hblank (show ']' ∈ [',', ']'] by decide) front rest
      simpa using hturn
  | @item depth value text blank blank' rest items hvalue hblank hblank' hrest ih ih' =>
      obtain ⟨need, hneed⟩ := ih
      obtain ⟨need', hneed'⟩ := ih'
      refine ⟨max need need' + 1, fun fuel hfuel depth' hdepth front behind => ?_⟩
      obtain ⟨fuel, rfl⟩ := Nat.exists_eq_add_of_le' (Nat.le_trans (Nat.le_add_left 1 _) hfuel)
      have hscan := hneed fuel (by omega) depth' hdepth
      have hturn := scanItems_item hscan hblank (show ',' ∈ [',', ']'] by decide) front
        (blank' ++ rest ++ behind)
      have hlater := hneed' fuel (by omega) depth' hdepth (front ++ [value]) behind
      have hskip : skipWhitespace (blank' ++ rest ++ behind) = rest ++ behind := by
        rw [List.append_assoc, skipWhitespace_blank hblank', skipWhitespace_begins hrest]
      rw [← hskip] at hlater
      simpa using hturn.trans hlater
  | @lastMember depth key keyText value text blank blank' blank'' hkey hblank hblank' hvalue hblank''
      ih =>
      obtain ⟨need, hneed⟩ := ih
      refine ⟨need + 1, fun fuel hfuel depth' hdepth front rest => ?_⟩
      obtain ⟨fuel, rfl⟩ := Nat.exists_eq_add_of_le' (Nat.le_trans (Nat.le_add_left 1 _) hfuel)
      have hscan := hneed fuel (by omega) depth' hdepth
      have hturn := scanMembers_member hkey hblank hblank' (skipWhitespace_begins hvalue) hscan
        hblank'' (show '}' ∈ [',', '}'] by decide) front rest
      simpa using hturn
  | @member depth key keyText value text blank blank' blank'' space rest members hkey hblank
      hblank' hvalue hblank'' hspace hrest ih ih' =>
      obtain ⟨need, hneed⟩ := ih
      obtain ⟨need', hneed'⟩ := ih'
      refine ⟨max need need' + 1, fun fuel hfuel depth' hdepth front behind => ?_⟩
      obtain ⟨fuel, rfl⟩ := Nat.exists_eq_add_of_le' (Nat.le_trans (Nat.le_add_left 1 _) hfuel)
      have hscan := hneed fuel (by omega) depth' hdepth
      have hturn := scanMembers_member hkey hblank hblank' (skipWhitespace_begins hvalue) hscan
        hblank'' (show ',' ∈ [',', '}'] by decide) front (space ++ rest ++ behind)
      have hlater := hneed' fuel (by omega) depth' hdepth (front.set key value) behind
      have hskip : skipWhitespace (space ++ rest ++ behind) = rest ++ behind := by
        rw [List.append_assoc, skipWhitespace_blank hspace, skipWhitespace_begins hrest]
      rw [← hskip] at hlater
      simpa using hturn.trans hlater

/-- A text that stands for a value is loaded as this value. -/
theorem loads_written {depth : Nat} {value : Value} {text front back : Text}
    (h : Written interpreter depth (.value value) text) (hdepth : depth ≤ interpreter.recursion + 1)
    (hfront : Blank front) (hback : Blank back) :
    interpreter.loads (front ++ text ++ back) = .value value := by
  obtain ⟨need, hneed⟩ := h.scanned
  have hends : EndsNumber back := by
    rw [← List.append_nil back]
    exact endsNumber_blank hback (by simp [EndsNumber])
  have hskip : skipWhitespace (front ++ text ++ back) = text ++ back := by
    rw [List.append_assoc, skipWhitespace_blank hfront, skipWhitespace_begins h]
  have hend : skipWhitespace back = [] := by
    have := skipWhitespace_blank hback []
    rwa [List.append_nil] at this
  have hfuel := @decode_fuel interpreter (interpreter.recursion + 1) (front ++ text ++ back)
    (max need (2 * (front ++ text ++ back).length + 1)) (Nat.le_max_right _ _)
  have hscan := hneed (max need (2 * (front ++ text ++ back).length + 1)) (Nat.le_max_left _ _)
    (interpreter.recursion + 1) hdepth back hends
  rw [hskip, hscan] at hfuel
  unfold loads decode
  rw [hskip, hfuel, Load.ok_bind]
  dsimp only
  rw [if_pos hend]
  rfl

end Interpreter

end SctpConformance.Runner
