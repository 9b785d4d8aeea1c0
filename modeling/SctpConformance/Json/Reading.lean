import SctpConformance.Json.Strings

/-!
# Reading request bodies

`parse_json_root_object` against the grammar.  The three recursive readers are
followed along a derivation, which gives the value of every text of the grammar,
and along the calls they make, which gives a derivation of every text they accept.

Main results:

- Theorem `parseJsonValue_text`: what becomes of a value of the grammar.
- Theorem `readsGrammar`: whatever is read is a value of the grammar.
- Theorem `parseJsonRootObject_grammar`: the root reader accepts exactly the bodies
  of the grammar, and returns what they denote.
-/

namespace SctpConformance

/-! ## Whitespace in front of a token -/

/-- Behind whitespace there is no more to skip. -/
theorem skipJsonWs_idem (input : CppString) : skipJsonWs (skipJsonWs input) = skipJsonWs input := by
  induction input with
  | nil => rfl
  | cons ch rest ih =>
      by_cases hspace : isSpace ch = true
      · rw [skipJsonWs, if_pos hspace, ih]
      · have hsolid : Solid (ch :: rest) := solid_cons (Bool.not_eq_true _ ▸ hspace) rest
        rw [skipJsonWs_solid hsolid, skipJsonWs_solid hsolid]

/-- What is skipped is whitespace. -/
theorem skipJsonWs_spec (input : CppString) :
    ∃ space : Spaces, input = space.val ++ skipJsonWs input := by
  induction input with
  | nil => exact ⟨⟨[], by simp⟩, rfl⟩
  | cons ch rest ih =>
      by_cases hspace : isSpace ch = true
      · rcases ih with ⟨⟨space, hall⟩, hrest⟩
        have hcons : ∀ ch' ∈ ch :: space, isSpace ch' = true := by
          intro ch' hch'
          rcases List.mem_cons.mp hch' with rfl | hmem
          · exact hspace
          · exact hall ch' hmem
        refine ⟨⟨ch :: space, hcons⟩, ?_⟩
        rw [skipJsonWs, if_pos hspace, List.cons_append, ← hrest]
      · have hsolid : Solid (ch :: rest) := solid_cons (Bool.not_eq_true _ ▸ hspace) rest
        refine ⟨⟨[], by simp⟩, ?_⟩
        rw [skipJsonWs_solid hsolid, List.nil_append]

/-- A value is read with or without whitespace before it. -/
theorem parseJsonValue_skip (fuel : Nat) (input : CppString) :
    parseJsonValue fuel (skipJsonWs input) = parseJsonValue fuel input := by
  cases fuel with
  | zero => rw [parseJsonValue, parseJsonValue]
  | succ fuel => rw [parseJsonValue, parseJsonValue, skipJsonWs_idem]

/-- So is an object. -/
theorem parseJsonObjectValue_skip (fuel : Nat) (input : CppString) :
    parseJsonObjectValue fuel (skipJsonWs input) = parseJsonObjectValue fuel input := by
  cases fuel with
  | zero => rw [parseJsonObjectValue, parseJsonObjectValue]
  | succ fuel => rw [parseJsonObjectValue, parseJsonObjectValue, skipJsonWs_idem]

/-- So is an array. -/
theorem parseJsonArrayValue_skip (fuel : Nat) (input : CppString) :
    parseJsonArrayValue fuel (skipJsonWs input) = parseJsonArrayValue fuel input := by
  cases fuel with
  | zero => rw [parseJsonArrayValue, parseJsonArrayValue]
  | succ fuel => rw [parseJsonArrayValue, parseJsonArrayValue, skipJsonWs_idem]

/-- The member loop skips whitespace that was skipped before. -/
theorem parseJsonMembers_skip {input rest : CppString} {ch : UInt8}
    (h : skipJsonWs input = ch :: rest) (fuel : Nat) (members : List (CppString × JsonValue)) :
    parseJsonMembers fuel (ch :: rest) members = parseJsonMembers fuel input members := by
  cases input with
  | nil => contradiction
  | cons ch' rest' =>
      cases fuel with
      | zero => rw [parseJsonMembers, parseJsonMembers]
      | succ fuel => rw [parseJsonMembers, parseJsonMembers, ← h, skipJsonWs_idem]

/-- So are elements. -/
theorem parseJsonElements_skip {input rest : CppString} {ch : UInt8}
    (h : skipJsonWs input = ch :: rest) (fuel : Nat) (elements : List JsonValue) :
    parseJsonElements fuel (ch :: rest) elements = parseJsonElements fuel input elements := by
  cases input with
  | nil => contradiction
  | cons ch' rest' =>
      cases fuel with
      | zero => rw [parseJsonElements, parseJsonElements]
      | succ fuel =>
          rw [parseJsonElements, parseJsonElements, ← h, parseJsonValue_skip]

/-! ## Reading a text of the grammar -/

/-- An object, read from its brace on. -/
theorem parseJsonValue_brace {input rest : CppString} (h : skipJsonWs input = 123 :: rest)
    (fuel : Nat) :
    parseJsonValue (fuel + 1) input =
      match parseJsonObjectValue fuel (123 :: rest) with
      | .error fault => .error fault
      | .ok (members, rest) => .ok (.object members, rest) := by
  rw [parseJsonValue, h]
  rfl

/-- An array, read from its bracket on. -/
theorem parseJsonValue_bracket {input rest : CppString} (h : skipJsonWs input = 91 :: rest)
    (fuel : Nat) :
    parseJsonValue (fuel + 1) input =
      match parseJsonArrayValue fuel (91 :: rest) with
      | .error fault => .error fault
      | .ok (elements, rest) => .ok (.array elements, rest) := by
  rw [parseJsonValue, h]
  rfl

/-- A string is read as what it stands for, and refused if it is not plain. -/
theorem parseJsonValue_string {input : CppString} {parts : StringTree} {rest : CppString}
    (h : skipJsonWs input = parts.text ++ rest) (fuel : Nat) :
    parseJsonValue (fuel + 1) input =
      if parts.plain then .ok (.string parts.meaning, rest) else unsupportedEscape := by
  have hread := parseJsonStringValue_text parts rest
  have hquote : parts.text ++ rest = 34 :: (parts.inside ++ [34] ++ rest) := rfl
  rw [hquote] at h hread
  rw [parseJsonValue, h]
  simp only [if_true, hread]
  cases parts.plain with
  | true => rfl
  | false => rfl

/-- An empty object is read. -/
theorem parseJsonObjectValue_empty (fuel : Nat) (space : Spaces) (rest : CppString) :
    parseJsonObjectValue (fuel + 1) (123 :: (space.val ++ 125 :: rest)) = .ok ([], rest) := by
  have hclose : skipJsonWs (space.val ++ 125 :: rest) = 125 :: rest :=
    skipJsonWs_spaces_solid space (solid_cons (by decide) rest)
  rw [parseJsonObjectValue, skipJsonWs_solid (solid_cons (by decide) _)]
  simp only [if_true, hclose]

/-- An empty array is read. -/
theorem parseJsonArrayValue_empty (fuel : Nat) (space : Spaces) (rest : CppString) :
    parseJsonArrayValue (fuel + 1) (91 :: (space.val ++ 93 :: rest)) = .ok ([], rest) := by
  have hclose : skipJsonWs (space.val ++ 93 :: rest) = 93 :: rest :=
    skipJsonWs_spaces_solid space (solid_cons (by decide) rest)
  rw [parseJsonArrayValue, skipJsonWs_solid (solid_cons (by decide) _)]
  simp only [if_true, hclose]

/-- Behind the brace of an object with members, its member loop begins. -/
theorem parseJsonObjectValue_members (fuel : Nat) (m : JsonMembers) (rest : CppString) :
    parseJsonObjectValue (fuel + 1) (123 :: (m.text ++ rest)) =
      parseJsonMembers fuel (m.text ++ rest) [] := by
  rcases m.text_key with ⟨space, key, inner, htext⟩
  have hkey : skipJsonWs (m.text ++ rest) = 34 :: (key.inside ++ [34] ++ inner ++ rest) := by
    rw [htext, List.append_assoc, List.append_assoc]
    rw [skipJsonWs_spaces_solid space (key.text_solid _)]
    simp [StringTree.text]
  rw [parseJsonObjectValue, skipJsonWs_solid (solid_cons (by decide) _)]
  simp only [if_true, hkey]
  rw [if_neg (by decide)]
  exact parseJsonMembers_skip hkey fuel []

/-- Behind the bracket of an array with elements, its element loop begins. -/
theorem parseJsonArrayValue_elements (fuel : Nat) (m : JsonElements) (rest : CppString) :
    parseJsonArrayValue (fuel + 1) (91 :: (m.text ++ rest)) =
      parseJsonElements fuel (m.text ++ rest) [] := by
  rcases m.text_value with ⟨space, value, inner, htext⟩
  rcases value.text_opening with ⟨ch, inner', hopening, hch⟩
  have hvalue : skipJsonWs (m.text ++ rest) = ch :: (inner' ++ inner ++ rest) := by
    rw [htext, List.append_assoc, List.append_assoc]
    rw [skipJsonWs_spaces_solid space (value.text_solid _), hopening]
    simp
  have hclose : ch ≠ 93 := by
    rcases hch with rfl | rfl | rfl <;> decide
  rw [parseJsonArrayValue, skipJsonWs_solid (solid_cons (by decide) _)]
  simp only [if_true, hvalue]
  rw [if_neg hclose]
  exact parseJsonElements_skip hvalue fuel []

/-- A turn of the member loop, up to the value of the member. -/
theorem parseJsonMembers_key (fuel : Nat) (beforeKey : Spaces) (key : StringTree)
    (afterKey : Spaces) (rest : CppString) (acc : List (CppString × JsonValue)) :
    parseJsonMembers (fuel + 1)
        (beforeKey.val ++ (key.text ++ (afterKey.val ++ 58 :: rest))) acc =
      if key.plain then
        match parseJsonValue fuel rest with
        | .error fault => .error fault
        | .ok (value, rest) =>
            match skipJsonWs rest with
            | [] => jsonFail "unterminated JSON object"
            | ch :: rest =>
                if ch = 125 then .ok (mapAssign key.meaning value acc, rest)
                else if ch = 44 then parseJsonMembers fuel rest (mapAssign key.meaning value acc)
                else jsonFail "expected ','"
      else unsupportedEscape := by
  have hkey := skipJsonWs_spaces_solid beforeKey (key.text_solid (afterKey.val ++ 58 :: rest))
  have hcolon : skipJsonWs (afterKey.val ++ 58 :: rest) = 58 :: rest :=
    skipJsonWs_spaces_solid afterKey (solid_cons (by decide) rest)
  have hread := parseJsonStringValue_text key (afterKey.val ++ 58 :: rest)
  cases hinput : beforeKey.val ++ (key.text ++ (afterKey.val ++ 58 :: rest)) with
  | nil =>
      have hlength := congrArg List.length hinput
      simp at hlength
  | cons ch inner =>
      rw [hinput] at hkey
      rw [parseJsonMembers, hkey, hread]
      cases key.plain with
      | true =>
          simp only [if_true]
          generalize skipJsonWs (afterKey.val ++ 58 :: rest) = colon at hcolon ⊢
          subst hcolon
          rfl
      | false => rfl

/-- A turn of the element loop on an input that is not empty. -/
theorem parseJsonElements_value (fuel : Nat) (beforeValue : Spaces) (t : JsonTree)
    (rest : CppString) (acc : List JsonValue) :
    parseJsonElements (fuel + 1) (beforeValue.val ++ (t.text ++ rest)) acc =
      match parseJsonValue fuel (beforeValue.val ++ (t.text ++ rest)) with
      | .error fault => .error fault
      | .ok (value, rest) =>
          match skipJsonWs rest with
          | [] => jsonFail "unterminated JSON array"
          | ch :: rest =>
              if ch = 93 then .ok (acc ++ [value], rest)
              else if ch = 44 then parseJsonElements fuel rest (acc ++ [value])
              else jsonFail "expected ','" := by
  rcases t.text_opening with ⟨ch, inner, htext, -⟩
  cases hinput : beforeValue.val ++ (t.text ++ rest) with
  | nil =>
      have hlength := congrArg List.length hinput
      simp [htext] at hlength
  | cons ch inner =>
      have hturn := parseJsonElements.eq_def (fuel + 1) (ch :: inner) acc
      exact hturn

mutual

/-- What becomes of a value of the grammar, with whitespace in front of it. -/
theorem parseJsonValue_text : ∀ (t : JsonTree) (space : Spaces) (fuel : Nat) (rest : CppString),
    3 * t.text.length ≤ fuel →
      parseJsonValue fuel (space.val ++ (t.text ++ rest)) =
        if t.plain then .ok (t.meaning, rest) else unsupportedEscape
  | t, space, 0, rest, hfuel => by
      rcases t.text_opening with ⟨ch, inner, htext, -⟩
      simp [htext] at hfuel
  | .string parts, space, fuel + 1, rest, hfuel =>
      parseJsonValue_string (skipJsonWs_spaces_solid space (parts.text_solid rest)) fuel
  | .emptyObject inner, space, fuel + 1, rest, hfuel => by
      have hskip : skipJsonWs (space.val ++ ((JsonTree.emptyObject inner).text ++ rest)) =
          123 :: (inner.val ++ 125 :: rest) := by
        rw [skipJsonWs_spaces_solid space (JsonTree.text_solid _ rest)]
        simp [JsonTree.text]
      cases fuel with
      | zero => simp [JsonTree.text] at hfuel; omega
      | succ fuel =>
          rw [parseJsonValue_brace hskip, parseJsonObjectValue_empty]
          rfl
  | .object members, space, fuel + 1, rest, hfuel => by
      have hskip : skipJsonWs (space.val ++ ((JsonTree.object members).text ++ rest)) =
          123 :: (members.text ++ rest) := by
        rw [skipJsonWs_spaces_solid space (JsonTree.text_solid _ rest)]
        simp [JsonTree.text]
      simp only [JsonTree.text, List.length_append, List.length_cons, List.length_nil] at hfuel
      cases fuel with
      | zero => omega
      | succ fuel =>
          have hmembers := parseJsonMembers_text members fuel rest [] (by omega)
          rw [parseJsonValue_brace hskip, parseJsonObjectValue_members, hmembers]
          rw [JsonTree.plain, JsonTree.meaning]
          cases members.plain with
          | true => rfl
          | false => rfl
  | .emptyArray inner, space, fuel + 1, rest, hfuel => by
      have hskip : skipJsonWs (space.val ++ ((JsonTree.emptyArray inner).text ++ rest)) =
          91 :: (inner.val ++ 93 :: rest) := by
        rw [skipJsonWs_spaces_solid space (JsonTree.text_solid _ rest)]
        simp [JsonTree.text]
      cases fuel with
      | zero => simp [JsonTree.text] at hfuel; omega
      | succ fuel =>
          rw [parseJsonValue_bracket hskip, parseJsonArrayValue_empty]
          rfl
  | .array elements, space, fuel + 1, rest, hfuel => by
      have hskip : skipJsonWs (space.val ++ ((JsonTree.array elements).text ++ rest)) =
          91 :: (elements.text ++ rest) := by
        rw [skipJsonWs_spaces_solid space (JsonTree.text_solid _ rest)]
        simp [JsonTree.text]
      simp only [JsonTree.text, List.length_append, List.length_cons, List.length_nil] at hfuel
      cases fuel with
      | zero => omega
      | succ fuel =>
          have helements := parseJsonElements_text elements fuel rest [] (by omega)
          rw [parseJsonValue_bracket hskip, parseJsonArrayValue_elements, helements]
          rw [JsonTree.plain, JsonTree.meaning]
          cases elements.plain with
          | true => rfl
          | false => rfl

/-- Written members are assigned one after another, and refused if they are not plain. -/
theorem parseJsonMembers_text : ∀ (m : JsonMembers) (fuel : Nat) (rest : CppString)
    (acc : List (CppString × JsonValue)), 3 * m.text.length + 1 ≤ fuel →
      parseJsonMembers fuel (m.text ++ rest) acc =
        if m.plain then .ok (m.assign acc, rest) else unsupportedEscape
  | m, 0, rest, acc, hfuel => by simp at hfuel
  | .member beforeKey key afterKey beforeValue value afterValue more, fuel + 1, rest, acc,
      hfuel => by
      have htext : (JsonMembers.member beforeKey key afterKey beforeValue value afterValue
          more).text ++ rest = beforeKey.val ++ (key.text ++ (afterKey.val ++ 58 ::
            (beforeValue.val ++ (value.text ++ (afterValue.val ++ (more.text ++ rest)))))) := by
        simp [JsonMembers.text]
      simp only [JsonMembers.text, List.length_append, List.length_cons, List.length_nil] at hfuel
      have hvalue := parseJsonValue_text value beforeValue fuel
        (afterValue.val ++ (more.text ++ rest)) (by omega)
      have hmore := skipJsonWs_spaces_solid afterValue (more.text_solid rest)
      rw [htext, parseJsonMembers_key, hvalue, JsonMembers.plain, JsonMembers.assign]
      cases key.plain with
      | false => rfl
      | true =>
          cases value.plain with
          | false => rfl
          | true =>
              simp only [if_true, Bool.true_and, hmore]
              cases more with
              | close => rfl
              | comma members =>
                  simp only [JsonMoreMembers.text, List.length_append, List.length_cons] at hfuel
                  exact parseJsonMembers_text members fuel rest _ (by omega)

/-- Written elements are read in order, and refused if they are not plain. -/
theorem parseJsonElements_text : ∀ (m : JsonElements) (fuel : Nat) (rest : CppString)
    (acc : List JsonValue), 3 * m.text.length + 1 ≤ fuel →
      parseJsonElements fuel (m.text ++ rest) acc =
        if m.plain then .ok (acc ++ m.values, rest) else unsupportedEscape
  | m, 0, rest, acc, hfuel => by simp at hfuel
  | .element beforeValue value afterValue more, fuel + 1, rest, acc, hfuel => by
      have htext : (JsonElements.element beforeValue value afterValue more).text ++ rest =
          beforeValue.val ++ (value.text ++ (afterValue.val ++ (more.text ++ rest))) := by
        simp [JsonElements.text]
      simp only [JsonElements.text, List.length_append] at hfuel
      have hvalue := parseJsonValue_text value beforeValue fuel
        (afterValue.val ++ (more.text ++ rest)) (by omega)
      have hmore := skipJsonWs_spaces_solid afterValue (more.text_solid rest)
      rw [htext, parseJsonElements_value, hvalue, JsonElements.plain, JsonElements.values]
      cases value.plain with
      | false => rfl
      | true =>
          simp only [if_true, Bool.true_and, hmore]
          cases more with
          | close => rfl
          | comma elements =>
              simp only [JsonMoreElements.text, List.length_append, List.length_cons] at hfuel
              have hrest := parseJsonElements_text elements fuel rest
                (acc ++ [value.meaning]) (by omega)
              rw [List.append_assoc] at hrest
              exact hrest

end

/-! ## Whatever is read is a text of the grammar -/

/-- What a turn of the member loop has done when the loop succeeds. -/
theorem parseJsonMembers_succ {fuel : Nat} {input rest : CppString}
    {acc members : List (CppString × JsonValue)}
    (h : parseJsonMembers (fuel + 1) input acc = .ok (members, rest)) :
    ∃ key afterKey beforeValue value afterValue,
      parseJsonStringValue (skipJsonWs input) = .ok (key, afterKey) ∧
      skipJsonWs afterKey = 58 :: beforeValue ∧
      parseJsonValue fuel beforeValue = .ok (value, afterValue) ∧
      ((skipJsonWs afterValue = 125 :: rest ∧ members = mapAssign key value acc) ∨
        ∃ more, skipJsonWs afterValue = 44 :: more ∧
          parseJsonMembers fuel more (mapAssign key value acc) = .ok (members, rest)) := by
  cases input with
  | nil => contradiction
  | cons ch inner =>
      rw [parseJsonMembers] at h
      split at h
      · contradiction
      · rename_i key afterKey hkey
        split at h
        · contradiction
        · rename_i colon beforeValue hcolon
          split at h
          · rename_i hisColon
            subst hisColon
            split at h
            · contradiction
            · rename_i value afterValue hvalue
              refine ⟨key, afterKey, beforeValue, value, afterValue, hkey, hcolon, hvalue, ?_⟩
              split at h
              · contradiction
              · rename_i next more hnext
                split at h
                · rename_i hclose
                  cases h
                  exact Or.inl ⟨by rw [hnext, hclose], rfl⟩
                · split at h
                  · rename_i hcomma
                    exact Or.inr ⟨more, by rw [hnext, hcomma], h⟩
                  · contradiction
          · contradiction

/-- What a turn of the element loop has done when the loop succeeds. -/
theorem parseJsonElements_succ {fuel : Nat} {input rest : CppString}
    {acc elements : List JsonValue}
    (h : parseJsonElements (fuel + 1) input acc = .ok (elements, rest)) :
    ∃ value afterValue, parseJsonValue fuel input = .ok (value, afterValue) ∧
      ((skipJsonWs afterValue = 93 :: rest ∧ elements = acc ++ [value]) ∨
        ∃ more, skipJsonWs afterValue = 44 :: more ∧
          parseJsonElements fuel more (acc ++ [value]) = .ok (elements, rest)) := by
  cases input with
  | nil => contradiction
  | cons ch inner =>
      rw [parseJsonElements] at h
      split at h
      · contradiction
      · rename_i value afterValue hvalue
        refine ⟨value, afterValue, hvalue, ?_⟩
        split at h
        · contradiction
        · rename_i next more hnext
          split at h
          · rename_i hclose
            cases h
            exact Or.inl ⟨by rw [hnext, hclose], rfl⟩
          · split at h
            · rename_i hcomma
              exact Or.inr ⟨more, by rw [hnext, hcomma], h⟩
            · contradiction

/-- With this much fuel, whatever the readers accept is a text of the grammar, and
they return what it denotes. -/
structure ReadsGrammar (fuel : Nat) : Prop where
  value : ∀ {input rest v}, parseJsonValue fuel input = .ok (v, rest) →
    ∃ (space : Spaces) (t : JsonTree), input = space.val ++ (t.text ++ rest) ∧
      t.plain = true ∧ v = t.meaning
  object : ∀ {input rest members}, parseJsonObjectValue fuel input = .ok (members, rest) →
    ∃ (space : Spaces) (t : JsonTree), input = space.val ++ (t.text ++ rest) ∧
      t.plain = true ∧ .object members = t.meaning
  members : ∀ {input rest acc members},
    parseJsonMembers fuel input acc = .ok (members, rest) →
      ∃ m : JsonMembers, input = m.text ++ rest ∧ m.plain = true ∧ members = m.assign acc
  array : ∀ {input rest elements}, parseJsonArrayValue fuel input = .ok (elements, rest) →
    ∃ (space : Spaces) (t : JsonTree), input = space.val ++ (t.text ++ rest) ∧
      t.plain = true ∧ .array elements = t.meaning
  elements : ∀ {input rest acc elements},
    parseJsonElements fuel input acc = .ok (elements, rest) →
      ∃ m : JsonElements, input = m.text ++ rest ∧ m.plain = true ∧
        elements = acc ++ m.values

/-- Nothing is read without fuel. -/
theorem readsGrammar_zero : ReadsGrammar 0 := by
  constructor
  case value =>
    intro input rest v h
    rw [parseJsonValue] at h
    contradiction
  case object =>
    intro input rest members h
    rw [parseJsonObjectValue] at h
    contradiction
  case members =>
    intro input rest acc members h
    cases input <;> contradiction
  case array =>
    intro input rest elements h
    rw [parseJsonArrayValue] at h
    contradiction
  case elements =>
    intro input rest acc elements h
    cases input <;> contradiction

namespace ReadsGrammar

variable {fuel : Nat}

/-- Step for a value: what is read was written by the grammar. -/
theorem value_succ (ih : ReadsGrammar fuel) {input rest : CppString} {v : JsonValue}
    (h : parseJsonValue (fuel + 1) input = .ok (v, rest)) :
    ∃ (space : Spaces) (t : JsonTree), input = space.val ++ (t.text ++ rest) ∧
      t.plain = true ∧ v = t.meaning := by
  rw [parseJsonValue] at h
  split at h
  · contradiction
  · rename_i ch inner hskip
    rw [← hskip] at h
    split at h
    · split at h
      · contradiction
      · rename_i value rest' hstring
        cases h
        rcases parseJsonStringValue_ok hstring with ⟨parts, htext, hplain, rfl⟩
        rcases skipJsonWs_spec input with ⟨space, hinput⟩
        rw [htext] at hinput
        exact ⟨space, .string parts, hinput, hplain, rfl⟩
    · split at h
      · split at h
        · contradiction
        · rename_i members rest' hobject
          cases h
          rw [parseJsonObjectValue_skip] at hobject
          exact ih.object hobject
      · split at h
        · split at h
          · contradiction
          · rename_i elements rest' harray
            cases h
            rw [parseJsonArrayValue_skip] at harray
            exact ih.array harray
        · contradiction

/-- Step for an object. -/
theorem object_succ (ih : ReadsGrammar fuel) {input rest : CppString}
    {members : List (CppString × JsonValue)}
    (h : parseJsonObjectValue (fuel + 1) input = .ok (members, rest)) :
    ∃ (space : Spaces) (t : JsonTree), input = space.val ++ (t.text ++ rest) ∧
      t.plain = true ∧ .object members = t.meaning := by
  rcases skipJsonWs_spec input with ⟨space, hinput⟩
  rw [parseJsonObjectValue] at h
  split at h
  · contradiction
  · rename_i ch inner hskip
    split at h
    · rename_i hbrace
      subst hbrace
      rw [hskip] at hinput
      rcases skipJsonWs_spec inner with ⟨space', hinner⟩
      split at h
      · cases fuel <;> contradiction
      · rename_i ch rest' hskip'
        rw [hskip'] at hinner
        split at h
        · rename_i hclose
          subst hclose
          cases h
          refine ⟨space, .emptyObject space', ?_, rfl, rfl⟩
          rw [hinput, hinner]
          simp [JsonTree.text]
        · rw [parseJsonMembers_skip hskip'] at h
          rcases ih.members h with ⟨m, rfl, hplain, rfl⟩
          exact ⟨space, .object m, hinput, hplain, rfl⟩
    · contradiction

/-- Step for an array. -/
theorem array_succ (ih : ReadsGrammar fuel) {input rest : CppString} {elements : List JsonValue}
    (h : parseJsonArrayValue (fuel + 1) input = .ok (elements, rest)) :
    ∃ (space : Spaces) (t : JsonTree), input = space.val ++ (t.text ++ rest) ∧
      t.plain = true ∧ .array elements = t.meaning := by
  rcases skipJsonWs_spec input with ⟨space, hinput⟩
  rw [parseJsonArrayValue] at h
  split at h
  · contradiction
  · rename_i ch inner hskip
    split at h
    · rename_i hbracket
      subst hbracket
      rw [hskip] at hinput
      rcases skipJsonWs_spec inner with ⟨space', hinner⟩
      split at h
      · cases fuel <;> contradiction
      · rename_i ch rest' hskip'
        rw [hskip'] at hinner
        split at h
        · rename_i hclose
          subst hclose
          cases h
          refine ⟨space, .emptyArray space', ?_, rfl, rfl⟩
          rw [hinput, hinner]
          simp [JsonTree.text]
        · rw [parseJsonElements_skip hskip'] at h
          rcases ih.elements h with ⟨m, rfl, hplain, rfl⟩
          exact ⟨space, .array m, hinput, hplain, rfl⟩
    · contradiction

/-- Step for members. -/
theorem members_succ (ih : ReadsGrammar fuel) {input rest : CppString}
    {acc members : List (CppString × JsonValue)}
    (h : parseJsonMembers (fuel + 1) input acc = .ok (members, rest)) :
    ∃ m : JsonMembers, input = m.text ++ rest ∧ m.plain = true ∧ members = m.assign acc := by
  rcases parseJsonMembers_succ h with
    ⟨key, afterKey, beforeValue, value, afterValue, hkey, hcolon, hvalue, hnext⟩
  rcases skipJsonWs_spec input with ⟨space₁, hinput⟩
  rcases skipJsonWs_spec afterKey with ⟨space₂, hafterKey⟩
  rcases skipJsonWs_spec afterValue with ⟨space₄, hafterValue⟩
  rcases parseJsonStringValue_ok hkey with ⟨parts, hparts, hplainKey, rfl⟩
  rcases ih.value hvalue with ⟨space₃, t, rfl, hplainValue, rfl⟩
  rw [hparts, hafterKey, hcolon] at hinput
  rcases hnext with ⟨hclose, rfl⟩ | ⟨more, hcomma, hmore⟩
  · rw [hafterValue, hclose] at hinput
    refine ⟨.member space₁ parts space₂ space₃ t space₄ .close, ?_, ?_, rfl⟩
    · rw [hinput]
      simp [JsonMembers.text, JsonMoreMembers.text]
    · simp [JsonMembers.plain, JsonMoreMembers.plain, hplainKey, hplainValue]
  · rcases ih.members hmore with ⟨m, rfl, hplain, rfl⟩
    rw [hafterValue, hcomma] at hinput
    refine ⟨.member space₁ parts space₂ space₃ t space₄ (.comma m), ?_, ?_, rfl⟩
    · rw [hinput]
      simp [JsonMembers.text, JsonMoreMembers.text]
    · simp [JsonMembers.plain, JsonMoreMembers.plain, hplainKey, hplainValue, hplain]

/-- Step for elements. -/
theorem elements_succ (ih : ReadsGrammar fuel) {input rest : CppString}
    {acc elements : List JsonValue}
    (h : parseJsonElements (fuel + 1) input acc = .ok (elements, rest)) :
    ∃ m : JsonElements, input = m.text ++ rest ∧ m.plain = true ∧
      elements = acc ++ m.values := by
  rcases parseJsonElements_succ h with ⟨value, afterValue, hvalue, hnext⟩
  rcases skipJsonWs_spec afterValue with ⟨space₂, hafterValue⟩
  rcases ih.value hvalue with ⟨space₁, t, hinput, hplainValue, rfl⟩
  rcases hnext with ⟨hclose, rfl⟩ | ⟨more, hcomma, hmore⟩
  · rw [hafterValue, hclose] at hinput
    refine ⟨.element space₁ t space₂ .close, ?_, ?_, rfl⟩
    · rw [hinput]
      simp [JsonElements.text, JsonMoreElements.text]
    · simp [JsonElements.plain, JsonMoreElements.plain, hplainValue]
  · rcases ih.elements hmore with ⟨m, rfl, hplain, rfl⟩
    rw [hafterValue, hcomma] at hinput
    refine ⟨.element space₁ t space₂ (.comma m), ?_, ?_, ?_⟩
    · rw [hinput]
      simp [JsonElements.text, JsonMoreElements.text]
    · simp [JsonElements.plain, JsonMoreElements.plain, hplainValue, hplain]
    · simp [JsonElements.values, JsonMoreElements.values]

end ReadsGrammar

/-- Whatever is read is a text of the grammar. -/
theorem readsGrammar (fuel : Nat) : ReadsGrammar fuel := by
  induction fuel with
  | zero => exact readsGrammar_zero
  | succ fuel ih =>
      exact ⟨ih.value_succ, ih.object_succ, ih.members_succ, ih.array_succ, ih.elements_succ⟩

/-! ## No read beyond the end -/

/-- Nothing is added before the text. -/
theorem skipJsonWs_length_le (input : CppString) : (skipJsonWs input).length ≤ input.length := by
  rcases skipJsonWs_spec input with ⟨space, hinput⟩
  have hlength := congrArg List.length hinput
  rw [List.length_append] at hlength
  omega

/-- What follows a token is shorter than what the token was found in. -/
theorem length_of_skipJsonWs {input rest : CppString} {ch : UInt8}
    (h : skipJsonWs input = ch :: rest) : rest.length + 1 ≤ input.length := by
  have hlength := skipJsonWs_length_le input
  rw [h, List.length_cons] at hlength
  exact hlength

/-- A string takes at least its two quotes. -/
theorem parseJsonStringValue_length {input value rest : CppString}
    (h : parseJsonStringValue input = .ok (value, rest)) : rest.length + 2 ≤ input.length := by
  rcases parseJsonStringValue_ok h with ⟨parts, rfl, -, -⟩
  simp only [StringTree.text, List.length_append, List.length_cons, List.length_nil]
  omega

/-- A value takes at least one byte. -/
theorem parseJsonValue_length {fuel : Nat} {input rest : CppString} {value : JsonValue}
    (h : parseJsonValue fuel input = .ok (value, rest)) : rest.length + 1 ≤ input.length := by
  rcases (readsGrammar fuel).value h with ⟨space, t, rfl, -, -⟩
  rcases t.text_opening with ⟨ch, inner, htext, -⟩
  rw [htext]
  simp only [List.length_append, List.length_cons]
  omega

/-- Fuel by the length of the input: each of the readers consumes a byte before the
same reader is called again. -/
structure ReadsReported (fuel : Nat) : Prop where
  value : ∀ {input}, 3 * input.length + 3 ≤ fuel → (parseJsonValue fuel input).Reported
  object : ∀ {input}, 3 * input.length + 2 ≤ fuel → (parseJsonObjectValue fuel input).Reported
  members : ∀ {input acc}, 3 * input.length + 4 ≤ fuel →
    (parseJsonMembers fuel input acc).Reported
  array : ∀ {input}, 3 * input.length + 2 ≤ fuel → (parseJsonArrayValue fuel input).Reported
  elements : ∀ {input acc}, 3 * input.length + 4 ≤ fuel →
    (parseJsonElements fuel input acc).Reported

namespace ReadsReported

variable {fuel : Nat}

/-- Step for a value: there is enough fuel, and the reader stays within the text. -/
theorem value_succ (ih : ReadsReported fuel) {input : CppString}
    (hfuel : 3 * input.length + 3 ≤ fuel + 1) : (parseJsonValue (fuel + 1) input).Reported := by
  have hlength := skipJsonWs_length_le input
  rw [parseJsonValue]
  split
  · exact reported_jsonFail _
  · rename_i ch inner hskip
    rw [hskip] at hlength
    split
    · split
      · rename_i fault hfault
        exact reported_error (parseJsonStringValue_reported _) hfault
      · exact reported_ok _
    · split
      · split
        · rename_i fault hfault
          exact reported_error (ih.object (by omega)) hfault
        · exact reported_ok _
      · split
        · split
          · rename_i fault hfault
            exact reported_error (ih.array (by omega)) hfault
          · exact reported_ok _
        · exact reported_jsonFail _

/-- Step for an object. -/
theorem object_succ (ih : ReadsReported fuel) {input : CppString}
    (hfuel : 3 * input.length + 2 ≤ fuel + 1) :
    (parseJsonObjectValue (fuel + 1) input).Reported := by
  rw [parseJsonObjectValue]
  split
  · exact reported_jsonFail _
  · rename_i ch inner hskip
    have hinner := length_of_skipJsonWs hskip
    split
    · split
      · cases fuel <;> exact reported_jsonFail _
      · rename_i ch rest hskip'
        have hrest := length_of_skipJsonWs hskip'
        split
        · exact reported_ok _
        · apply ih.members
          rw [List.length_cons]
          omega
    · exact reported_jsonFail _

/-- Step for an array. -/
theorem array_succ (ih : ReadsReported fuel) {input : CppString}
    (hfuel : 3 * input.length + 2 ≤ fuel + 1) :
    (parseJsonArrayValue (fuel + 1) input).Reported := by
  rw [parseJsonArrayValue]
  split
  · exact reported_jsonFail _
  · rename_i ch inner hskip
    have hinner := length_of_skipJsonWs hskip
    split
    · split
      · cases fuel <;> exact reported_jsonFail _
      · rename_i ch rest hskip'
        have hrest := length_of_skipJsonWs hskip'
        split
        · exact reported_ok _
        · apply ih.elements
          rw [List.length_cons]
          omega
    · exact reported_jsonFail _

/-- Step for members. -/
theorem members_succ (ih : ReadsReported fuel) {input : CppString}
    {acc : List (CppString × JsonValue)} (hfuel : 3 * input.length + 4 ≤ fuel + 1) :
    (parseJsonMembers (fuel + 1) input acc).Reported := by
  cases input with
  | nil => exact reported_jsonFail _
  | cons ch inner =>
      have hskip := skipJsonWs_length_le (ch :: inner)
      rw [parseJsonMembers]
      split
      · rename_i fault hfault
        exact reported_error (parseJsonStringValue_reported _) hfault
      · rename_i key afterKey hkey
        have hafterKey := parseJsonStringValue_length hkey
        split
        · exact reported_jsonFail _
        · rename_i colon beforeValue hcolon
          have hbeforeValue := length_of_skipJsonWs hcolon
          split
          · split
            · rename_i fault hfault
              exact reported_error (ih.value (by omega)) hfault
            · rename_i value afterValue hvalue
              have hafterValue := parseJsonValue_length hvalue
              split
              · exact reported_jsonFail _
              · rename_i next more hnext
                have hmore := length_of_skipJsonWs hnext
                split
                · exact reported_ok _
                · split
                  · exact ih.members (by omega)
                  · exact reported_jsonFail _
          · exact reported_jsonFail _

/-- Step for elements. -/
theorem elements_succ (ih : ReadsReported fuel) {input : CppString} {acc : List JsonValue}
    (hfuel : 3 * input.length + 4 ≤ fuel + 1) :
    (parseJsonElements (fuel + 1) input acc).Reported := by
  cases input with
  | nil => exact reported_jsonFail _
  | cons ch inner =>
      rw [parseJsonElements]
      split
      · rename_i fault hfault
        exact reported_error (ih.value (by omega)) hfault
      · rename_i value afterValue hvalue
        have hafterValue := parseJsonValue_length hvalue
        split
        · exact reported_jsonFail _
        · rename_i next more hnext
          have hmore := length_of_skipJsonWs hnext
          split
          · exact reported_ok _
          · split
            · exact ih.elements (by omega)
            · exact reported_jsonFail _

end ReadsReported

/-- No reader runs out of fuel that is three times as long as the text. -/
theorem readsReported (fuel : Nat) : ReadsReported fuel := by
  induction fuel with
  | zero =>
      constructor
      all_goals
        intros
        omega
  | succ fuel ih =>
      exact ⟨ih.value_succ, ih.object_succ, ih.members_succ, ih.array_succ, ih.elements_succ⟩

/-! ## Bodies -/

/-- The parser always comes to a value or an error that is reported. -/
theorem parseJsonRootObject_reported (input : CppString) :
    (parseJsonRootObject input).Reported := by
  have hobject : (parseJsonObjectValue (4 * input.length + 4) input).Reported :=
    (readsReported _).object (by omega)
  rw [parseJsonRootObject]
  split
  · rename_i fault hfault
    exact reported_error hobject hfault
  · split
    · exact reported_ok _
    · exact reported_jsonFail _

/-- The trees of objects denote objects. -/
theorem RootTree.meaning_object (root : RootTree) :
    root.object.meaning = .object root.members := by
  rcases root with ⟨before, object, after, hobject⟩
  cases object with
  | string parts => contradiction
  | emptyObject space => rfl
  | object members => rfl
  | emptyArray space => contradiction
  | array elements => contradiction

/-- White space is skipped to its end. -/
theorem skipJsonWs_all (space : Spaces) : skipJsonWs space.val = [] := by
  have hskip := skipJsonWs_spaces space []
  rwa [List.append_nil] at hskip

/-- What becomes of a body of the grammar. -/
theorem parseJsonRootObject_text (root : RootTree) :
    parseJsonRootObject root.text =
      if root.object.plain then .ok root.members else unsupportedEscape := by
  have htext : root.text = root.before.val ++ (root.object.text ++ root.after.val) := by
    simp [RootTree.text]
  have hfuel : 3 * root.object.text.length ≤ 4 * root.text.length + 4 + 1 := by
    simp only [RootTree.text, List.length_append]
    omega
  have hvalue := parseJsonValue_text root.object root.before _ root.after.val hfuel
  have hskip : skipJsonWs root.text = root.object.text ++ root.after.val := by
    rw [htext]
    exact skipJsonWs_spaces_solid root.before (root.object.text_solid _)
  have hopening : ∃ inner, root.object.text ++ root.after.val = 123 :: inner := by
    rcases root with ⟨before, object, after, hobject⟩
    cases object with
    | string parts => contradiction
    | emptyObject space => exact ⟨_, rfl⟩
    | object members => exact ⟨_, rfl⟩
    | emptyArray space => contradiction
    | array elements => contradiction
  rcases hopening with ⟨inner, hinner⟩
  rw [← htext, parseJsonValue_brace (hskip.trans hinner), ← hinner, ← hskip,
    parseJsonObjectValue_skip, root.meaning_object] at hvalue
  cases hplain : root.object.plain with
  | true =>
      rw [hplain] at hvalue
      split at hvalue
      · contradiction
      · rename_i members rest hread
        cases hvalue
        rw [parseJsonRootObject, hread]
        simp only [skipJsonWs_all, if_true]
  | false =>
      rw [hplain] at hvalue
      split at hvalue
      · rename_i fault hread
        cases hvalue
        rw [parseJsonRootObject, hread]
        rfl
      · contradiction

/-- A body that is accepted is a body of the grammar. -/
theorem parseJsonRootObject_ok {input : CppString} {members : List (CppString × JsonValue)}
    (h : parseJsonRootObject input = .ok members) :
    ∃ root : RootTree, root.text = input ∧ root.object.plain = true := by
  rw [parseJsonRootObject] at h
  split at h
  · contradiction
  · rename_i members' rest hread
    split at h
    · rename_i hend
      cases h
      rcases (readsGrammar _).object hread with ⟨before, t, hinput, hplain, hmeaning⟩
      rcases skipJsonWs_spec rest with ⟨after, hrest⟩
      rw [hend, List.append_nil] at hrest
      have hobject : t.isObject = true := by
        cases t with
        | string parts => contradiction
        | emptyObject space => rfl
        | object members => rfl
        | emptyArray space => contradiction
        | array elements => contradiction
      refine ⟨⟨before, t, after, hobject⟩, ?_, hplain⟩
      rw [hinput, hrest]
      simp [RootTree.text]
    · contradiction

/-! ## Members with the same key -/

/-- An assigned key is found, and the others are as before. -/
theorem mapFind_mapAssign (key key' : CppString) (value : JsonValue)
    (entries : List (CppString × JsonValue)) :
    mapFind key (mapAssign key' value entries) =
      if key' = key then some value else mapFind key entries := by
  induction entries with
  | nil =>
      by_cases hkey : key' = key
      · simp [mapAssign, mapFind, hkey]
      · simp [mapAssign, mapFind, hkey]
  | cons entry entries ih =>
      rw [mapAssign]
      by_cases hkey : key' = key
      · subst hkey
        rw [if_pos rfl] at ih ⊢
        split
        · simp [mapFind]
        · split
          · simp [mapFind]
          · rename_i hentry hless
            have hother : ¬entry.1 = key' := fun h => hentry h.symm
            simpa [mapFind, hother] using ih
      · rw [if_neg hkey] at ih ⊢
        split
        · rename_i hentry
          simp [mapFind, hkey, ← hentry]
        · split
          · simp [mapFind, hkey]
          · by_cases hfound : entry.1 = key
            · simp [mapFind, hfound]
            · simpa [mapFind, hfound] using ih

mutual

/-- The value of the last member with the key. -/
def JsonMembers.last (k : CppString) : JsonMembers → Option JsonValue
  | .member _ key _ _ value _ rest =>
      match rest.last k with
      | some later => some later
      | none => if key.meaning = k then some value.meaning else none

/-- The last value of a key in the rest of the members. -/
def JsonMoreMembers.last (k : CppString) : JsonMoreMembers → Option JsonValue
  | .close => none
  | .comma members => members.last k

end

mutual

/-- Of the members with the same key the last one counts. -/
theorem JsonMembers.mapFind_assign (k : CppString) : ∀ (m : JsonMembers)
    (acc : List (CppString × JsonValue)),
    mapFind k (m.assign acc) = (m.last k).or (mapFind k acc)
  | .member _ key _ _ value _ more, acc => by
      rw [JsonMembers.assign, JsonMembers.last, JsonMoreMembers.mapFind_assign k more,
        mapFind_mapAssign]
      cases more.last k with
      | some later => rfl
      | none =>
          by_cases hkey : key.meaning = k
          · simp [hkey]
          · simp [hkey]

/-- The last value of a key wins in the rest of the members, too. -/
theorem JsonMoreMembers.mapFind_assign (k : CppString) : ∀ (m : JsonMoreMembers)
    (acc : List (CppString × JsonValue)),
    mapFind k (m.assign acc) = (m.last k).or (mapFind k acc)
  | .close, _ => rfl
  | .comma members, acc => JsonMembers.mapFind_assign k members acc

end

/-! ## The language of the root reader -/

/-- `parse_json_root_object` returns for every input, reads nothing beyond its end,
and accepts exactly the bodies of the grammar.  A body has one derivation, and what is
returned is what it denotes; of the members of an object with the same key the last
one counts. -/
theorem parseJsonRootObject_grammar (input : CppString) :
    (∀ fault, parseJsonRootObject input = .error fault → ∃ text, fault = .message text) ∧
    (∀ members, parseJsonRootObject input = .ok members ↔
      ∃ root : RootTree, root.text = input ∧ root.object.plain = true ∧
        members = root.members) ∧
    (∀ root root' : RootTree, root.text = input → root'.text = input → root = root') ∧
    (∀ (m : JsonMembers) (key : CppString), mapFind key (m.assign []) = m.last key) := by
  refine ⟨?_, ?_, ?_, ?_⟩
  · intro fault h
    rcases parseJsonRootObject_reported input fault h with ⟨literal, rfl⟩
    exact ⟨str literal, rfl⟩
  · intro members
    constructor
    · intro h
      rcases parseJsonRootObject_ok h with ⟨root, rfl, hplain⟩
      rw [parseJsonRootObject_text, if_pos hplain] at h
      exact ⟨root, rfl, hplain, (Except.ok.inj h).symm⟩
    · rintro ⟨root, rfl, hplain, rfl⟩
      rw [parseJsonRootObject_text, if_pos hplain]
  · intro root root' hroot hroot'
    exact RootTree.text_injective (hroot.trans hroot'.symm)
  · intro m key
    rw [m.mapFind_assign key []]
    cases m.last key with
    | some value => rfl
    | none => rfl

end SctpConformance
