import SctpConformance.Server.JsonDecode
import Mathlib.Tactic.Common

/-!
# The grammar of request bodies

The JSON texts that the server reads: objects, arrays and strings, with optional
whitespace around every token.  A derivation is a tree that keeps every choice
the text leaves open, so that the text of a tree and the value it denotes are
functions of the tree.

Four hexadecimal digits may name a surrogate, which is not a character.  The trees
without such escapes are called plain; only these are derivations of the grammar.

Main results:

- Definitions `JsonTree.text`, `JsonTree.meaning` and `JsonTree.plain`.
- Theorem `JsonTree.text_unique`: a text has at most one derivation, wherever it ends.
- Theorem `RootTree.text_injective`: the same for whole bodies.
-/

namespace SctpConformance

/-! ## Strings -/

/-- A byte that stands for itself in a string. -/
abbrev PlainByte := { ch : UInt8 // ch ≠ 34 ∧ ch ≠ 92 }

/-- The two-character escapes. -/
inductive Escape where
  | quote
  | backslash
  | slash
  | b
  | f
  | n
  | r
  | t
deriving DecidableEq

namespace Escape

/-- The character after the backslash. -/
def letter : Escape → UInt8
  | quote => 34
  | backslash => 92
  | slash => 47
  | b => 98
  | f => 102
  | n => 110
  | r => 114
  | t => 116

/-- The character that the escape stands for. -/
def meaning : Escape → UInt8
  | quote => 34
  | backslash => 92
  | slash => 47
  | b => 8
  | f => 12
  | n => 10
  | r => 13
  | t => 9

/-- No two escapes have one letter. -/
theorem letter_injective : Function.Injective letter := by
  intro e e' h
  cases e <;> cases e' <;> first | rfl | contradiction

/-- The letter of a short escape is not the `u` of the long one. -/
theorem letter_ne (e : Escape) : e.letter ≠ 117 := by
  cases e <;> decide

end Escape

/-- The digits 0 to 9, A to F and a to f. -/
def IsHexDigit (digit : UInt8) : Prop :=
  (48 ≤ digit ∧ digit ≤ 57) ∨ (65 ≤ digit ∧ digit ≤ 70) ∨ (97 ≤ digit ∧ digit ≤ 102)

instance : DecidablePred IsHexDigit := fun _ => inferInstanceAs (Decidable (_ ∨ _))

/-- A hexadecimal digit of either case. -/
abbrev HexDigit := { digit : UInt8 // IsHexDigit digit }

/-- The number that the digit stands for. -/
def HexDigit.value (digit : HexDigit) : Nat :=
  if digit.val ≤ 57 then digit.val.toNat - 48
  else if digit.val ≤ 70 then digit.val.toNat - 55
  else digit.val.toNat - 87

/-- What a string is made of. -/
inductive StringPart where
  | raw (ch : PlainByte)
  | escape (e : Escape)
  | unicode (d₁ d₂ d₃ d₄ : HexDigit)

/-- The code point that four digits name. -/
def codePoint (d₁ d₂ d₃ d₄ : HexDigit) : Nat :=
  ((d₁.value * 16 + d₂.value) * 16 + d₃.value) * 16 + d₄.value

/-- A code point that is half of a pair in UTF-16. -/
def IsSurrogate (code : Nat) : Prop :=
  0xD800 ≤ code ∧ code ≤ 0xDFFF

instance : DecidablePred IsSurrogate := fun _ => inferInstanceAs (Decidable (_ ∧ _))

namespace StringPart

/-- The part as it is written. -/
def text : StringPart → CppString
  | raw ch => [ch.val]
  | escape e => [92, e.letter]
  | unicode d₁ d₂ d₃ d₄ => [92, 117, d₁.val, d₂.val, d₃.val, d₄.val]

/-- The bytes that a part stands for. -/
def meaning : StringPart → CppString
  | raw ch => [ch.val]
  | escape e => [e.meaning]
  | unicode d₁ d₂ d₃ d₄ => String.utf8EncodeChar (Char.ofNat (codePoint d₁ d₂ d₃ d₄))

/-- The part names no surrogate. -/
def plain : StringPart → Bool
  | unicode d₁ d₂ d₃ d₄ => decide (¬IsSurrogate (codePoint d₁ d₂ d₃ d₄))
  | _ => true

end StringPart

/-- A string between quotes. -/
abbrev StringTree := List StringPart

namespace StringTree

/-- The text between the quotes. -/
def inside (parts : StringTree) : CppString :=
  parts.flatMap StringPart.text

/-- The string with its quotes. -/
def text (parts : StringTree) : CppString :=
  [34] ++ parts.inside ++ [34]

/-- The bytes that the string stands for. -/
def meaning (parts : StringTree) : CppString :=
  parts.flatMap StringPart.meaning

/-- No part of the string is one half of a surrogate pair. -/
def plain (parts : StringTree) : Bool :=
  parts.all StringPart.plain

end StringTree

/-! ## Values -/

/-- Optional whitespace. -/
abbrev Spaces := { s : CppString // ∀ ch ∈ s, isSpace ch = true }

mutual

/-- The derivations of a value. -/
inductive JsonTree where
  | string (parts : StringTree)
  | emptyObject (space : Spaces)
  | object (members : JsonMembers)
  | emptyArray (space : Spaces)
  | array (elements : JsonElements)

/-- A member of an object, with what follows it. -/
inductive JsonMembers where
  | member (beforeKey : Spaces) (key : StringTree) (afterKey beforeValue : Spaces)
      (value : JsonTree) (afterValue : Spaces) (rest : JsonMoreMembers)

/-- What follows a member: the end of the object or further members. -/
inductive JsonMoreMembers where
  | close
  | comma (members : JsonMembers)

/-- An element of an array, with what follows it. -/
inductive JsonElements where
  | element (beforeValue : Spaces) (value : JsonTree) (afterValue : Spaces)
      (rest : JsonMoreElements)

/-- What follows an element: the end of the array or further elements. -/
inductive JsonMoreElements where
  | close
  | comma (elements : JsonElements)

end

mutual

/-- The value as it is written. -/
def JsonTree.text : JsonTree → CppString
  | .string parts => parts.text
  | .emptyObject space => [123] ++ space.val ++ [125]
  | .object members => [123] ++ members.text
  | .emptyArray space => [91] ++ space.val ++ [93]
  | .array elements => [91] ++ elements.text

/-- The members with all that stands between them, up to the closing brace. -/
def JsonMembers.text : JsonMembers → CppString
  | .member beforeKey key afterKey beforeValue value afterValue rest =>
      beforeKey.val ++ key.text ++ afterKey.val ++ [58] ++ beforeValue.val ++ value.text ++
        afterValue.val ++ rest.text

/-- The same for the rest of the members. -/
def JsonMoreMembers.text : JsonMoreMembers → CppString
  | .close => [125]
  | .comma members => [44] ++ members.text

/-- The elements with all that stands between them, up to the closing bracket. -/
def JsonElements.text : JsonElements → CppString
  | .element beforeValue value afterValue rest =>
      beforeValue.val ++ value.text ++ afterValue.val ++ rest.text

/-- The same for the rest of the elements. -/
def JsonMoreElements.text : JsonMoreElements → CppString
  | .close => [93]
  | .comma elements => [44] ++ elements.text

end

mutual

/-- The value of a text.  Of the members of an object with the same key the last
one counts. -/
def JsonTree.meaning : JsonTree → JsonValue
  | .string parts => .string parts.meaning
  | .emptyObject _ => .object []
  | .object members => .object (members.assign [])
  | .emptyArray _ => .array []
  | .array elements => .array elements.values

/-- The members so far, and the ones of the tree after them. -/
def JsonMembers.assign : JsonMembers → List (CppString × JsonValue) →
    List (CppString × JsonValue)
  | .member _ key _ _ value _ rest, members =>
      rest.assign (mapAssign key.meaning value.meaning members)

/-- The rest of the members assigned, one after another. -/
def JsonMoreMembers.assign : JsonMoreMembers → List (CppString × JsonValue) →
    List (CppString × JsonValue)
  | .close, members => members
  | .comma more, members => more.assign members

/-- The values of the elements. -/
def JsonElements.values : JsonElements → List JsonValue
  | .element _ value _ rest => value.meaning :: rest.values

/-- The values of the rest of the elements. -/
def JsonMoreElements.values : JsonMoreElements → List JsonValue
  | .close => []
  | .comma elements => elements.values

end

mutual

/-- No string of the tree names a surrogate. -/
def JsonTree.plain : JsonTree → Bool
  | .string parts => parts.plain
  | .emptyObject _ => true
  | .object members => members.plain
  | .emptyArray _ => true
  | .array elements => elements.plain

/-- All strings among the members are plain. -/
def JsonMembers.plain : JsonMembers → Bool
  | .member _ key _ _ value _ rest => key.plain && value.plain && rest.plain

/-- The same for the rest of the members. -/
def JsonMoreMembers.plain : JsonMoreMembers → Bool
  | .close => true
  | .comma members => members.plain

/-- All strings among the elements are plain. -/
def JsonElements.plain : JsonElements → Bool
  | .element _ value _ rest => value.plain && rest.plain

/-- The same for the rest of the elements. -/
def JsonMoreElements.plain : JsonMoreElements → Bool
  | .close => true
  | .comma elements => elements.plain

end

/-- The trees of objects. -/
def JsonTree.isObject : JsonTree → Bool
  | .emptyObject _ => true
  | .object _ => true
  | _ => false

/-- A whole body: one object, with whitespace before and after it. -/
structure RootTree where
  before : Spaces
  object : JsonTree
  after : Spaces
  isObject : object.isObject = true

/-- The whole text. -/
def RootTree.text (root : RootTree) : CppString :=
  root.before.val ++ root.object.text ++ root.after.val

/-- The members of the object of a body. -/
def RootTree.members (root : RootTree) : List (CppString × JsonValue) :=
  match root.object with
  | .object members => members.assign []
  | _ => []

/-! ## Whitespace -/

/-- A text that does not begin with whitespace. -/
def Solid (input : CppString) : Prop :=
  ∃ ch rest, input = ch :: rest ∧ isSpace ch = false

/-- A text that begins with anything else than whitespace is solid. -/
theorem solid_cons {ch : UInt8} (h : isSpace ch = false) (rest : CppString) :
    Solid (ch :: rest) :=
  ⟨ch, rest, rfl, h⟩

/-- Whitespace is skipped up to the first byte of another kind. -/
theorem skipJsonWs_spaces (space : Spaces) (input : CppString) :
    skipJsonWs (space.val ++ input) = skipJsonWs input := by
  rcases space with ⟨space, hspace⟩
  induction space with
  | nil => rfl
  | cons ch space ih =>
      have hrest : ∀ ch ∈ space, isSpace ch = true := by
        intro ch hch
        exact hspace ch (List.mem_cons_of_mem _ hch)
      rw [List.cons_append, skipJsonWs, if_pos (hspace ch List.mem_cons_self)]
      exact ih hrest

/-- Nothing is skipped of a solid text. -/
theorem skipJsonWs_solid {input : CppString} (h : Solid input) : skipJsonWs input = input := by
  rcases h with ⟨ch, rest, rfl, hch⟩
  rw [skipJsonWs, hch]
  rfl

/-- White space before a solid text is skipped. -/
@[simp]
theorem skipJsonWs_spaces_solid (space : Spaces) {input : CppString} (h : Solid input) :
    skipJsonWs (space.val ++ input) = input := by
  rw [skipJsonWs_spaces, skipJsonWs_solid h]

/-- Whitespace in front of other bytes can be told from them. -/
theorem spaces_unique {space space' : Spaces} {input input' : CppString} (h : Solid input)
    (h' : Solid input') (hsame : space.val ++ input = space'.val ++ input') :
    space = space' ∧ input = input' := by
  have hinput : input = input' := by
    have hskip := congrArg skipJsonWs hsame
    rwa [skipJsonWs_spaces_solid space h, skipJsonWs_spaces_solid space' h'] at hskip
  subst hinput
  exact ⟨Subtype.ext (List.append_cancel_right hsame), rfl⟩

/-! ## Unique derivations -/

/-- No part of a string is written as nothing. -/
theorem StringPart.text_ne_nil (part : StringPart) : part.text ≠ [] := by
  cases part <;> exact List.cons_ne_nil _ _

/-- A part of a string can be told from what follows it. -/
theorem StringPart.text_unique {part part' : StringPart} {rest rest' : CppString}
    (h : part.text ++ rest = part'.text ++ rest') : part = part' ∧ rest = rest' := by
  cases part with
  | raw ch =>
      cases part' with
      | raw ch' =>
          rcases List.cons.inj h with ⟨hch, hrest⟩
          exact ⟨congrArg raw (Subtype.ext hch), hrest⟩
      | escape e => exact absurd (List.cons.inj h).1 ch.property.2
      | unicode d₁ d₂ d₃ d₄ => exact absurd (List.cons.inj h).1 ch.property.2
  | escape e =>
      cases part' with
      | raw ch => exact absurd (List.cons.inj h).1.symm ch.property.2
      | escape e' =>
          rcases List.cons.inj (List.cons.inj h).2 with ⟨hletter, hrest⟩
          exact ⟨congrArg escape (Escape.letter_injective hletter), hrest⟩
      | unicode d₁ d₂ d₃ d₄ =>
          exact absurd (List.cons.inj (List.cons.inj h).2).1 e.letter_ne
  | unicode d₁ d₂ d₃ d₄ =>
      cases part' with
      | raw ch => exact absurd (List.cons.inj h).1.symm ch.property.2
      | escape e => exact absurd (List.cons.inj (List.cons.inj h).2).1.symm e.letter_ne
      | unicode d₁' d₂' d₃' d₄' =>
          simp only [text, List.cons_append, List.nil_append, List.cons.injEq, true_and] at h
          rcases h with ⟨h₁, h₂, h₃, h₄, hrest⟩
          rw [Subtype.ext h₁, Subtype.ext h₂, Subtype.ext h₃, Subtype.ext h₄]
          exact ⟨rfl, hrest⟩

/-- A part of a string does not begin with a quote. -/
theorem StringPart.text_quote (part : StringPart) (rest rest' : CppString) :
    part.text ++ rest ≠ 34 :: rest' := by
  intro h
  cases part with
  | raw ch => exact absurd (List.cons.inj h).1 ch.property.1
  | escape e => exact absurd (List.cons.inj h).1 (by decide)
  | unicode d₁ d₂ d₃ d₄ => exact absurd (List.cons.inj h).1 (by decide)

/-- The text up to the closing quote is written by one list of parts only. -/
theorem StringTree.inside_unique {parts parts' : StringTree} {rest rest' : CppString}
    (h : parts.inside ++ 34 :: rest = parts'.inside ++ 34 :: rest') :
    parts = parts' ∧ rest = rest' := by
  induction parts generalizing parts' with
  | nil =>
      cases parts' with
      | nil => exact ⟨rfl, (List.cons.inj h).2⟩
      | cons part' parts' =>
          simp only [inside, List.flatMap_cons, List.flatMap_nil, List.nil_append,
            List.append_assoc] at h
          exact absurd h.symm (part'.text_quote _ _)
  | cons part parts ih =>
      cases parts' with
      | nil =>
          simp only [inside, List.flatMap_cons, List.flatMap_nil, List.nil_append,
            List.append_assoc] at h
          exact absurd h (part.text_quote _ _)
      | cons part' parts' =>
          simp only [inside, List.flatMap_cons, List.append_assoc] at h
          rcases StringPart.text_unique h with ⟨rfl, hrest⟩
          rcases ih hrest with ⟨rfl, hsame⟩
          exact ⟨rfl, hsame⟩

/-- A string is written by one list of parts only. -/
theorem StringTree.text_unique {parts parts' : StringTree} {rest rest' : CppString}
    (h : parts.text ++ rest = parts'.text ++ rest') : parts = parts' ∧ rest = rest' := by
  apply inside_unique
  simpa [text] using h

/-- A value begins with a quote, a brace or a bracket. -/
theorem JsonTree.text_opening (t : JsonTree) :
    ∃ ch inner, t.text = ch :: inner ∧ (ch = 34 ∨ ch = 123 ∨ ch = 91) := by
  cases t with
  | string parts => exact ⟨_, _, rfl, Or.inl rfl⟩
  | emptyObject space => exact ⟨_, _, rfl, Or.inr (Or.inl rfl)⟩
  | object members => exact ⟨_, _, rfl, Or.inr (Or.inl rfl)⟩
  | emptyArray space => exact ⟨_, _, rfl, Or.inr (Or.inr rfl)⟩
  | array elements => exact ⟨_, _, rfl, Or.inr (Or.inr rfl)⟩

/-- A value begins with anything else than whitespace. -/
theorem JsonTree.text_solid (t : JsonTree) (rest : CppString) : Solid (t.text ++ rest) := by
  rcases t.text_opening with ⟨ch, inner, htext, hch⟩
  rw [htext]
  refine solid_cons ?_ _
  rcases hch with rfl | rfl | rfl <;> decide

/-- So does a string. -/
theorem StringTree.text_solid (parts : StringTree) (rest : CppString) :
    Solid (parts.text ++ rest) :=
  solid_cons (by decide) _

/-- So does the rest of the members. -/
theorem JsonMoreMembers.text_solid (m : JsonMoreMembers) (rest : CppString) :
    Solid (m.text ++ rest) := by
  cases m <;> exact solid_cons (by decide) _

/-- So does the rest of the elements. -/
theorem JsonMoreElements.text_solid (m : JsonMoreElements) (rest : CppString) :
    Solid (m.text ++ rest) := by
  cases m <;> exact solid_cons (by decide) _

/-- The key of the first member of an object stands behind whitespace. -/
theorem JsonMembers.text_key (m : JsonMembers) : ∃ (space : Spaces) (key : StringTree)
    (inner : CppString), m.text = space.val ++ (key.text ++ inner) := by
  cases m with
  | member beforeKey key afterKey beforeValue value afterValue rest =>
      exact ⟨beforeKey, key, _, by simp only [JsonMembers.text, List.append_assoc]; rfl⟩

/-- The first element of an array stands behind whitespace. -/
theorem JsonElements.text_value (m : JsonElements) : ∃ (space : Spaces) (value : JsonTree)
    (inner : CppString), m.text = space.val ++ (value.text ++ inner) := by
  cases m with
  | element beforeValue value afterValue rest =>
      exact ⟨beforeValue, value, _, by simp only [JsonElements.text, List.append_assoc]; rfl⟩

/-- Members are not an empty object. -/
theorem JsonMembers.text_ne (m : JsonMembers) (space : Spaces) (rest rest' : CppString) :
    m.text ++ rest ≠ space.val ++ 125 :: rest' := by
  intro h
  rcases m.text_key with ⟨before, key, inner, htext⟩
  rw [htext, List.append_assoc, List.append_assoc] at h
  rcases spaces_unique (key.text_solid _) (solid_cons (by decide) _) h with ⟨-, hsame⟩
  exact absurd (List.cons.inj hsame).1 (by decide)

/-- Elements are not an empty array. -/
theorem JsonElements.text_ne (m : JsonElements) (space : Spaces) (rest rest' : CppString) :
    m.text ++ rest ≠ space.val ++ 93 :: rest' := by
  intro h
  rcases m.text_value with ⟨before, value, inner, htext⟩
  rw [htext, List.append_assoc, List.append_assoc] at h
  rcases spaces_unique (value.text_solid _) (solid_cons (by decide) _) h with ⟨-, hsame⟩
  rcases value.text_opening with ⟨ch, inner', hopening, hch⟩
  rw [hopening] at hsame
  have hfirst : ch = 93 := (List.cons.inj hsame).1
  rw [hfirst] at hch
  revert hch
  decide

mutual

/-- A value can be told from what follows it, and has one derivation. -/
theorem JsonTree.text_unique : ∀ (t t' : JsonTree) {rest rest' : CppString},
    t.text ++ rest = t'.text ++ rest' → t = t' ∧ rest = rest'
  | .string parts, t', rest, rest', h => by
      cases t' with
      | string parts' =>
          rcases StringTree.text_unique h with ⟨rfl, hrest⟩
          exact ⟨rfl, hrest⟩
      | emptyObject space => exact absurd (List.cons.inj h).1 (by decide)
      | object members => exact absurd (List.cons.inj h).1 (by decide)
      | emptyArray space => exact absurd (List.cons.inj h).1 (by decide)
      | array elements => exact absurd (List.cons.inj h).1 (by decide)
  | .emptyObject space, t', rest, rest', h => by
      cases t' with
      | string parts' => exact absurd (List.cons.inj h).1 (by decide)
      | emptyObject space' =>
          have hinner : space.val ++ 125 :: rest = space'.val ++ 125 :: rest' := by
            simpa [JsonTree.text] using h
          rcases spaces_unique (solid_cons (by decide) _) (solid_cons (by decide) _) hinner with
            ⟨rfl, hrest⟩
          exact ⟨rfl, (List.cons.inj hrest).2⟩
      | object members =>
          have hinner : members.text ++ rest' = space.val ++ 125 :: rest := by
            simpa [JsonTree.text] using h.symm
          exact absurd hinner (members.text_ne _ _ _)
      | emptyArray space => exact absurd (List.cons.inj h).1 (by decide)
      | array elements => exact absurd (List.cons.inj h).1 (by decide)
  | .object members, t', rest, rest', h => by
      cases t' with
      | string parts' => exact absurd (List.cons.inj h).1 (by decide)
      | emptyObject space =>
          have hinner : members.text ++ rest = space.val ++ 125 :: rest' := by
            simpa [JsonTree.text] using h
          exact absurd hinner (members.text_ne _ _ _)
      | object members' =>
          have hinner : members.text ++ rest = members'.text ++ rest' := by
            simpa [JsonTree.text] using h
          rcases JsonMembers.text_unique members members' hinner with ⟨rfl, hrest⟩
          exact ⟨rfl, hrest⟩
      | emptyArray space => exact absurd (List.cons.inj h).1 (by decide)
      | array elements => exact absurd (List.cons.inj h).1 (by decide)
  | .emptyArray space, t', rest, rest', h => by
      cases t' with
      | string parts' => exact absurd (List.cons.inj h).1 (by decide)
      | emptyObject space' => exact absurd (List.cons.inj h).1 (by decide)
      | object members => exact absurd (List.cons.inj h).1 (by decide)
      | emptyArray space' =>
          have hinner : space.val ++ 93 :: rest = space'.val ++ 93 :: rest' := by
            simpa [JsonTree.text] using h
          rcases spaces_unique (solid_cons (by decide) _) (solid_cons (by decide) _) hinner with
            ⟨rfl, hrest⟩
          exact ⟨rfl, (List.cons.inj hrest).2⟩
      | array elements =>
          have hinner : elements.text ++ rest' = space.val ++ 93 :: rest := by
            simpa [JsonTree.text] using h.symm
          exact absurd hinner (elements.text_ne _ _ _)
  | .array elements, t', rest, rest', h => by
      cases t' with
      | string parts' => exact absurd (List.cons.inj h).1 (by decide)
      | emptyObject space => exact absurd (List.cons.inj h).1 (by decide)
      | object members => exact absurd (List.cons.inj h).1 (by decide)
      | emptyArray space =>
          have hinner : elements.text ++ rest = space.val ++ 93 :: rest' := by
            simpa [JsonTree.text] using h
          exact absurd hinner (elements.text_ne _ _ _)
      | array elements' =>
          have hinner : elements.text ++ rest = elements'.text ++ rest' := by
            simpa [JsonTree.text] using h
          rcases JsonElements.text_unique elements elements' hinner with ⟨rfl, hrest⟩
          exact ⟨rfl, hrest⟩

/-- Members are written by one derivation only. -/
theorem JsonMembers.text_unique : ∀ (m m' : JsonMembers) {rest rest' : CppString},
    m.text ++ rest = m'.text ++ rest' → m = m' ∧ rest = rest'
  | .member beforeKey key afterKey beforeValue value afterValue more,
      .member beforeKey' key' afterKey' beforeValue' value' afterValue' more', rest, rest', h => by
      simp only [JsonMembers.text, List.append_assoc] at h
      rcases spaces_unique (key.text_solid _) (key'.text_solid _) h with ⟨rfl, hkey⟩
      rcases StringTree.text_unique hkey with ⟨rfl, hcolon⟩
      rcases spaces_unique (solid_cons (by decide) _) (solid_cons (by decide) _) hcolon with
        ⟨rfl, hcolon'⟩
      rcases spaces_unique (value.text_solid _) (value'.text_solid _)
        (List.cons.inj hcolon').2 with ⟨rfl, hvalue⟩
      rcases JsonTree.text_unique value value' hvalue with ⟨rfl, hmore⟩
      rcases spaces_unique (more.text_solid _) (more'.text_solid _) hmore with ⟨rfl, hmore'⟩
      rcases JsonMoreMembers.text_unique more more' hmore' with ⟨rfl, hrest⟩
      exact ⟨rfl, hrest⟩

/-- The same for the rest of the members. -/
theorem JsonMoreMembers.text_unique : ∀ (m m' : JsonMoreMembers) {rest rest' : CppString},
    m.text ++ rest = m'.text ++ rest' → m = m' ∧ rest = rest'
  | .close, .close, _, _, h => ⟨rfl, (List.cons.inj h).2⟩
  | .close, .comma _, _, _, h => absurd (List.cons.inj h).1 (by decide)
  | .comma _, .close, _, _, h => absurd (List.cons.inj h).1 (by decide)
  | .comma members, .comma members', rest, rest', h => by
      have hinner : members.text ++ rest = members'.text ++ rest' := (List.cons.inj h).2
      rcases JsonMembers.text_unique members members' hinner with ⟨rfl, hrest⟩
      exact ⟨rfl, hrest⟩

/-- Elements are written by one derivation only. -/
theorem JsonElements.text_unique : ∀ (m m' : JsonElements) {rest rest' : CppString},
    m.text ++ rest = m'.text ++ rest' → m = m' ∧ rest = rest'
  | .element beforeValue value afterValue more,
      .element beforeValue' value' afterValue' more', rest, rest', h => by
      simp only [JsonElements.text, List.append_assoc] at h
      rcases spaces_unique (value.text_solid _) (value'.text_solid _) h with ⟨rfl, hvalue⟩
      rcases JsonTree.text_unique value value' hvalue with ⟨rfl, hmore⟩
      rcases spaces_unique (more.text_solid _) (more'.text_solid _) hmore with ⟨rfl, hmore'⟩
      rcases JsonMoreElements.text_unique more more' hmore' with ⟨rfl, hrest⟩
      exact ⟨rfl, hrest⟩

/-- The same for the rest of the elements. -/
theorem JsonMoreElements.text_unique : ∀ (m m' : JsonMoreElements) {rest rest' : CppString},
    m.text ++ rest = m'.text ++ rest' → m = m' ∧ rest = rest'
  | .close, .close, _, _, h => ⟨rfl, (List.cons.inj h).2⟩
  | .close, .comma _, _, _, h => absurd (List.cons.inj h).1 (by decide)
  | .comma _, .close, _, _, h => absurd (List.cons.inj h).1 (by decide)
  | .comma elements, .comma elements', rest, rest', h => by
      have hinner : elements.text ++ rest = elements'.text ++ rest' := (List.cons.inj h).2
      rcases JsonElements.text_unique elements elements' hinner with ⟨rfl, hrest⟩
      exact ⟨rfl, hrest⟩

end

/-- A body has at most one derivation. -/
theorem RootTree.text_injective : Function.Injective RootTree.text := by
  rintro ⟨before, object, after, hobject⟩ ⟨before', object', after', hobject'⟩ h
  simp only [text, List.append_assoc] at h
  rcases spaces_unique (object.text_solid _) (object'.text_solid _) h with ⟨rfl, hobject⟩
  rcases JsonTree.text_unique object object' hobject with ⟨rfl, hafter⟩
  rw [Subtype.ext hafter]

end SctpConformance
