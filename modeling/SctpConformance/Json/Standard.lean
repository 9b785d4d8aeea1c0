import SctpConformance.Json.Reading

/-!
# Standard texts of reports

What a standard encoder may write for a report made of objects, arrays and strings
of characters.  A character may stand for itself in UTF-8 or be written as an escape;
one above U+FFFF may be written as two escapes, one for each half of its UTF-16 pair.

Main results:

- Definition `JsonTree.Writes`: a derivation is a standard text of a report.
- Theorem `parseJsonRootObject_standard`: a standard text is accepted, and read as the
  report, exactly if no character of it is written as a pair of escapes.
- Theorem `parseJsonRootObject_not_standard`: such a pair is refused.
-/

namespace SctpConformance

/-- A report of a client. -/
inductive Document where
  | string (chars : List Char)
  | object (members : List (List Char × Document))
  | array (elements : List Document)

/-- The UTF-8 of a string. -/
def utf8 (chars : List Char) : CppString :=
  chars.flatMap String.utf8EncodeChar

mutual

/-- The report as the server keeps it. -/
def Document.json : Document → JsonValue
  | .string chars => .string (utf8 chars)
  | .object members => .object (Document.jsonMembers members [])
  | .array elements => .array (Document.jsonElements elements)

/-- The members of a document as the parser keeps them. -/
def Document.jsonMembers : List (List Char × Document) → List (CppString × JsonValue) →
    List (CppString × JsonValue)
  | [], json => json
  | (key, value) :: members, json =>
      Document.jsonMembers members (mapAssign (utf8 key) value.json json)

/-- The elements of a document as the parser keeps them. -/
def Document.jsonElements : List Document → List JsonValue
  | [] => []
  | value :: elements => value.json :: Document.jsonElements elements

end

/-- The whitespace of standard texts. -/
def Spaces.Standard (space : Spaces) : Prop :=
  ∀ ch ∈ space.val, ch = 32 ∨ ch = 9 ∨ ch = 10 ∨ ch = 13

/-- The character that a pair of halves stands for. -/
def pairedChar (high low : Nat) : Char :=
  Char.ofNat (0x10000 + (high - 0xD800) * 0x400 + (low - 0xDC00))

/-- The string is a standard text of the characters. -/
inductive StringTree.Writes : StringTree → List Char → Prop where
  | nil : Writes [] []
  /-- A character in UTF-8; quotes, backslashes and control characters need an escape. -/
  | raw {parts : StringTree} {chars : List Char} (c : Char) (bytes : List PlainByte)
      (hbytes : bytes.map Subtype.val = String.utf8EncodeChar c) (hcontrol : 0x20 ≤ c.toNat)
      (hrest : Writes parts chars) : Writes (bytes.map .raw ++ parts) (c :: chars)
  | escape {parts : StringTree} {chars : List Char} (e : Escape) (hrest : Writes parts chars) :
      Writes (.escape e :: parts) (Char.ofNat e.meaning.toNat :: chars)
  | unicode {parts : StringTree} {chars : List Char} (d₁ d₂ d₃ d₄ : HexDigit)
      (hchar : ¬IsSurrogate (codePoint d₁ d₂ d₃ d₄)) (hrest : Writes parts chars) :
      Writes (.unicode d₁ d₂ d₃ d₄ :: parts) (Char.ofNat (codePoint d₁ d₂ d₃ d₄) :: chars)
  /-- A character above U+FFFF as two escapes. -/
  | pair {parts : StringTree} {chars : List Char} (d₁ d₂ d₃ d₄ e₁ e₂ e₃ e₄ : HexDigit)
      (hhigh : 0xD800 ≤ codePoint d₁ d₂ d₃ d₄ ∧ codePoint d₁ d₂ d₃ d₄ ≤ 0xDBFF)
      (hlow : 0xDC00 ≤ codePoint e₁ e₂ e₃ e₄ ∧ codePoint e₁ e₂ e₃ e₄ ≤ 0xDFFF)
      (hrest : Writes parts chars) :
      Writes (.unicode d₁ d₂ d₃ d₄ :: .unicode e₁ e₂ e₃ e₄ :: parts)
        (pairedChar (codePoint d₁ d₂ d₃ d₄) (codePoint e₁ e₂ e₃ e₄) :: chars)

mutual

/-- The derivation is a standard text of the report. -/
def JsonTree.Writes : JsonTree → Document → Prop
  | .string parts, .string chars => parts.Writes chars
  | .emptyObject space, .object [] => space.Standard
  | .object m, .object members => m.Writes members
  | .emptyArray space, .array [] => space.Standard
  | .array m, .array elements => m.Writes elements
  | _, _ => False

/-- The members write those of a document. -/
def JsonMembers.Writes : JsonMembers → List (List Char × Document) → Prop
  | .member beforeKey key afterKey beforeValue value afterValue rest, (k, v) :: members =>
      beforeKey.Standard ∧ key.Writes k ∧ afterKey.Standard ∧ beforeValue.Standard ∧
        value.Writes v ∧ afterValue.Standard ∧ rest.Writes members
  | _, [] => False

/-- The rest of the members writes what is left of those of a document. -/
def JsonMoreMembers.Writes : JsonMoreMembers → List (List Char × Document) → Prop
  | .close, [] => True
  | .comma m, members => m.Writes members
  | .close, _ :: _ => False

/-- The elements write those of a document. -/
def JsonElements.Writes : JsonElements → List Document → Prop
  | .element beforeValue value afterValue rest, v :: elements =>
      beforeValue.Standard ∧ value.Writes v ∧ afterValue.Standard ∧ rest.Writes elements
  | _, [] => False

/-- The rest of the elements writes what is left of those of a document. -/
def JsonMoreElements.Writes : JsonMoreElements → List Document → Prop
  | .close, [] => True
  | .comma m, elements => m.Writes elements
  | .close, _ :: _ => False

end

/-- The body is a standard text of an object with the given members. -/
def RootTree.Writes (root : RootTree) (members : List (List Char × Document)) : Prop :=
  root.before.Standard ∧ root.object.Writes (.object members) ∧ root.after.Standard

/-! ## What standard texts denote -/

/-- A short escape stands for an ASCII character. -/
theorem utf8EncodeChar_meaning (e : Escape) :
    String.utf8EncodeChar (Char.ofNat e.meaning.toNat) = [e.meaning] := by
  cases e <;> decide

/-- Bytes that are written as they are stand for themselves. -/
theorem meaning_map_raw (bytes : List PlainByte) :
    StringTree.meaning (bytes.map .raw) = bytes.map Subtype.val := by
  induction bytes with
  | nil => rfl
  | cons ch bytes ih =>
      have hcons : StringTree.meaning ((ch :: bytes).map .raw) =
          [ch.val] ++ StringTree.meaning (bytes.map .raw) := rfl
      rw [hcons, ih]
      rfl

/-- A string without pairs of escapes denotes its characters in UTF-8. -/
theorem StringTree.Writes.meaning {parts : StringTree} {chars : List Char}
    (h : parts.Writes chars) (hplain : parts.plain = true) : parts.meaning = utf8 chars := by
  induction h with
  | nil => rfl
  | raw c bytes hbytes hcontrol hrest ih =>
      rename_i parts chars
      have hrestPlain : parts.plain = true := by
        rw [StringTree.plain, List.all_append, Bool.and_eq_true] at hplain
        exact hplain.2
      have happend : StringTree.meaning (bytes.map .raw ++ parts) =
          StringTree.meaning (bytes.map .raw) ++ parts.meaning := List.flatMap_append
      rw [happend, meaning_map_raw, hbytes, ih hrestPlain]
      rfl
  | escape e hrest ih =>
      rename_i parts chars
      have hcons : StringTree.meaning (.escape e :: parts) = [e.meaning] ++ parts.meaning := rfl
      rw [hcons, ih hplain, ← utf8EncodeChar_meaning]
      rfl
  | unicode d₁ d₂ d₃ d₄ hchar hrest ih =>
      rename_i parts chars
      have hrestPlain : parts.plain = true := by
        rw [StringTree.plain, List.all_cons, Bool.and_eq_true] at hplain
        exact hplain.2
      have hcons : StringTree.meaning (.unicode d₁ d₂ d₃ d₄ :: parts) =
          String.utf8EncodeChar (Char.ofNat (codePoint d₁ d₂ d₃ d₄)) ++ parts.meaning := rfl
      rw [hcons, ih hrestPlain]
      rfl
  | pair d₁ d₂ d₃ d₄ e₁ e₂ e₃ e₄ hhigh hlow hrest ih =>
      -- The first escape of a pair is not plain.
      have hsurrogate : IsSurrogate (codePoint d₁ d₂ d₃ d₄) := by
        constructor <;> omega
      simp [StringTree.plain, StringPart.plain, hsurrogate] at hplain

mutual

/-- A plain value means the document that it writes. -/
theorem JsonTree.Writes.meaning : ∀ (t : JsonTree) (d : Document), t.Writes d →
    t.plain = true → t.meaning = d.json
  | .string parts, .string chars, h, hplain => by
      rw [JsonTree.meaning, Document.json, StringTree.Writes.meaning h hplain]
  | .emptyObject _, .object [], _, _ => rfl
  | .object m, .object members, h, hplain => by
      rw [JsonTree.meaning, Document.json, JsonMembers.Writes.assign m members h hplain]
  | .emptyArray _, .array [], _, _ => rfl
  | .array m, .array elements, h, hplain => by
      rw [JsonTree.meaning, Document.json, JsonElements.Writes.values m elements h hplain]

/-- Plain members assign the members that they write. -/
theorem JsonMembers.Writes.assign : ∀ (m : JsonMembers) (members : List (List Char × Document)),
    m.Writes members → m.plain = true → ∀ json, m.assign json = Document.jsonMembers members json
  | .member beforeKey key afterKey beforeValue value afterValue more, (k, v) :: members, h,
      hplain, json => by
      rcases h with ⟨-, hkey, -, -, hvalue, -, hmore⟩
      simp only [JsonMembers.plain, Bool.and_eq_true] at hplain
      rcases hplain with ⟨⟨hplainKey, hplainValue⟩, hplainMore⟩
      rw [JsonMembers.assign, Document.jsonMembers, hkey.meaning hplainKey,
        JsonTree.Writes.meaning value v hvalue hplainValue]
      exact JsonMoreMembers.Writes.assign more members hmore hplainMore _

/-- The same for the rest of the members. -/
theorem JsonMoreMembers.Writes.assign : ∀ (m : JsonMoreMembers)
    (members : List (List Char × Document)), m.Writes members → m.plain = true →
      ∀ json, m.assign json = Document.jsonMembers members json
  | .close, [], _, _, _ => rfl
  | .comma m, members, h, hplain, json => JsonMembers.Writes.assign m members h hplain json

/-- Plain elements have the values that they write. -/
theorem JsonElements.Writes.values : ∀ (m : JsonElements) (elements : List Document),
    m.Writes elements → m.plain = true → m.values = Document.jsonElements elements
  | .element beforeValue value afterValue more, v :: elements, h, hplain => by
      rcases h with ⟨-, hvalue, -, hmore⟩
      simp only [JsonElements.plain, Bool.and_eq_true] at hplain
      rw [JsonElements.values, Document.jsonElements,
        JsonTree.Writes.meaning value v hvalue hplain.1,
        JsonMoreElements.Writes.values more elements hmore hplain.2]

/-- The same for the rest of the elements. -/
theorem JsonMoreElements.Writes.values : ∀ (m : JsonMoreElements) (elements : List Document),
    m.Writes elements → m.plain = true → m.values = Document.jsonElements elements
  | .close, [], _, _ => rfl
  | .comma m, elements, h, hplain => JsonElements.Writes.values m elements h hplain

end

/-- A plain text has the members that it writes. -/
theorem RootTree.Writes.members {root : RootTree} {members : List (List Char × Document)}
    (h : root.Writes members) (hplain : root.object.plain = true) :
    root.members = Document.jsonMembers members [] := by
  have hmeaning := JsonTree.Writes.meaning root.object (.object members) h.2.1 hplain
  rw [root.meaning_object, Document.json] at hmeaning
  exact JsonValue.object.inj hmeaning

/-- A standard text of a report in which no character is written as a pair of escapes
is accepted, and read as the report with its strings in UTF-8.  With such a pair it is
refused. -/
theorem parseJsonRootObject_standard (root : RootTree) (members : List (List Char × Document))
    (h : root.Writes members) :
    (root.object.plain = true →
      parseJsonRootObject root.text = .ok (Document.jsonMembers members [])) ∧
    (root.object.plain = false →
      parseJsonRootObject root.text = jsonFail "unsupported JSON unicode escape") := by
  constructor
  · intro hplain
    rw [parseJsonRootObject_text, if_pos hplain, h.members hplain]
  · intro hplain
    rw [parseJsonRootObject_text, hplain]
    rfl

/-- No whitespace. -/
def Spaces.none : Spaces :=
  ⟨[], by simp⟩

/-- No whitespace is standard whitespace. -/
theorem Spaces.none_standard : Spaces.none.Standard := by
  intro ch hch
  contradiction

/-- A body with one member, whose key is the letter a. -/
def memberBody (parts : StringTree) : RootTree :=
  ⟨.none, .object (.member .none [.raw ⟨97, by decide⟩] .none .none (.string parts) .none .close),
    .none, rfl⟩

/-- The body writes a document with this member. -/
theorem memberBody_writes {parts : StringTree} {chars : List Char} (h : parts.Writes chars) :
    (memberBody parts).Writes [(['a'], .string chars)] := by
  have hkey : StringTree.Writes [.raw ⟨97, by decide⟩] ['a'] :=
    .raw 'a' [⟨97, by decide⟩] (by decide) (by decide) .nil
  exact ⟨Spaces.none_standard, ⟨Spaces.none_standard, hkey, Spaces.none_standard,
    Spaces.none_standard, h, Spaces.none_standard, trivial⟩, Spaces.none_standard⟩

/-- U+1F600 as two escapes. -/
def smileEscapes : StringTree :=
  [.unicode ⟨100, by decide⟩ ⟨56, by decide⟩ ⟨51, by decide⟩ ⟨100, by decide⟩,
    .unicode ⟨100, by decide⟩ ⟨101, by decide⟩ ⟨48, by decide⟩ ⟨48, by decide⟩]

/-- Two escapes write one character beyond the basic plane. -/
theorem smileEscapes_writes : smileEscapes.Writes [Char.ofNat 0x1F600] :=
  .pair _ _ _ _ _ _ _ _ (by decide) (by decide) .nil

theorem parseJsonRootObject_standard_newline :
    (memberBody [.escape .n]).text = str "\x7b\"a\":\"\\n\"\x7d" ∧
    parseJsonRootObject (memberBody [.escape .n]).text =
      .ok (Document.jsonMembers [(['a'], .string ['\n'])] []) :=
  ⟨by decide, (parseJsonRootObject_standard _ _ (memberBody_writes (.escape .n .nil))).1
    (by decide)⟩

/-- A character above U+FFFF written as a pair of escapes is refused. -/
theorem parseJsonRootObject_not_standard :
    (memberBody smileEscapes).text = str "\x7b\"a\":\"\\ud83d\\ude00\"\x7d" ∧
    (memberBody smileEscapes).Writes [(['a'], .string [Char.ofNat 0x1F600])] ∧
    parseJsonRootObject (memberBody smileEscapes).text ≠
      .ok (Document.jsonMembers [(['a'], .string [Char.ofNat 0x1F600])] []) := by
  refine ⟨by decide, memberBody_writes smileEscapes_writes, ?_⟩
  rw [parseJsonRootObject_text, if_neg (by decide)]
  intro h
  contradiction

end SctpConformance
