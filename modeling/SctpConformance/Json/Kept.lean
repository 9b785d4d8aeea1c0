import SctpConformance.Json.Reading
import SctpConformance.Json.Valid

/-!
# The strings that request bodies leave behind

The reader copies the bytes of a string as they are, whether they are in UTF-8 or not.
What it takes out of a body in UTF-8 is in UTF-8, because quotes, escapes and the signs
between the strings are ASCII; and the messages of its errors are literals.

Main results:

- Theorem `JsonTree.utf8_meaning`: the strings of a tree whose text is in UTF-8.
- Theorem `parseJsonRootObject_utf8`: the strings of a body in UTF-8.
- Theorems `parseSimpleJsonObject_utf8` and `parseCompleteReport_utf8`: what the handlers
  take out of such a body.
-/

namespace SctpConformance

open Library

mutual

/-- All strings of the value are in UTF-8. -/
def JsonValue.Utf8 : JsonValue → Prop
  | .string value => IsUtf8 value
  | .object members => JsonValue.Utf8Members members
  | .array elements => JsonValue.Utf8Elements elements

/-- The values of the members are in UTF-8; the keys are never written. -/
def JsonValue.Utf8Members : List (CppString × JsonValue) → Prop
  | [] => True
  | (_, value) :: members => value.Utf8 ∧ JsonValue.Utf8Members members

/-- All strings among the elements are UTF-8. -/
def JsonValue.Utf8Elements : List JsonValue → Prop
  | [] => True
  | value :: elements => value.Utf8 ∧ JsonValue.Utf8Elements elements

end

/-- So is each value of such members. -/
theorem JsonValue.Utf8Members.value {members : List (CppString × JsonValue)}
    (h : JsonValue.Utf8Members members) {entry : CppString × JsonValue} (hentry : entry ∈ members) :
    entry.2.Utf8 := by
  induction members with
  | nil => contradiction
  | cons first members ih =>
      rcases List.mem_cons.mp hentry with rfl | hmem
      · exact h.1
      · exact ih h.2 hmem

/-- An assignment keeps members UTF-8. -/
theorem JsonValue.Utf8Members.mapAssign {key : CppString} {value : JsonValue}
    (hvalue : value.Utf8) {members : List (CppString × JsonValue)}
    (h : JsonValue.Utf8Members members) :
    JsonValue.Utf8Members (mapAssign key value members) := by
  induction members with
  | nil => exact ⟨hvalue, trivial⟩
  | cons entry members ih =>
      rw [SctpConformance.mapAssign]
      split
      · exact ⟨hvalue, h.2⟩
      · split
        · exact ⟨hvalue, h⟩
        · exact ⟨h.1, ih h.2⟩

/-! ## The strings of a tree -/

/-- A text that begins with an ASCII byte. -/
def AsciiHead (text : CppString) : Prop :=
  ∃ b rest, text = b :: rest ∧ b < 0x80

/-- A text that begins with an ASCII byte. -/
theorem asciiHead_cons {b : UInt8} (hb : b < 0x80) (rest : CppString) : AsciiHead (b :: rest) :=
  ⟨b, rest, rfl, hb⟩

/-- Whitespace is ASCII. -/
theorem isSpace_ascii {ch : UInt8} (h : isSpace ch = true) : ch < 0x80 := by
  simp only [isSpace, Bool.or_eq_true, decide_eq_true_eq, Bool.and_eq_true] at h
  rcases h with rfl | ⟨-, hle⟩
  · decide
  · exact UInt8.lt_of_le_of_lt hle (by decide)

/-- Whitespace before such a text makes no difference. -/
theorem AsciiHead.spaces {text : CppString} (h : AsciiHead text) (space : Spaces) :
    AsciiHead (space.val ++ text) := by
  rcases space with ⟨space, hspace⟩
  cases space with
  | nil => exact h
  | cons ch space => exact asciiHead_cons (isSpace_ascii (hspace ch List.mem_cons_self)) _

/-- In front of an ASCII byte a text can be cut. -/
theorem AsciiHead.split {s t : CppString} (ht : AsciiHead t) (h : IsUtf8 (s ++ t)) :
    IsUtf8 s ∧ IsUtf8 t := by
  rcases ht with ⟨b, rest, rfl, hb⟩
  rcases h.split hb with ⟨hs, hrest⟩
  exact ⟨hs, IsUtf8.cons hb hrest⟩

/-- What follows whitespace in a UTF-8 text is UTF-8. -/
theorem isUtf8_of_spaces {space : Spaces} {text : CppString} (h : IsUtf8 (space.val ++ text)) :
    IsUtf8 text :=
  h.drop_ascii fun ch hch => isSpace_ascii (space.property ch hch)

/-- A hexadecimal digit is ASCII. -/
theorem HexDigit.ascii (digit : HexDigit) : digit.val < 0x80 := by
  rcases digit.property with ⟨-, h⟩ | ⟨-, h⟩ | ⟨-, h⟩ <;>
    exact UInt8.lt_of_le_of_lt h (by decide)

/-- Escapes are ASCII, so decoding them leaves the bytes between them in UTF-8. -/
theorem StringTree.utf8_meaning {parts : StringTree} (front : CppString)
    (h : IsUtf8 (front ++ parts.inside)) : IsUtf8 (front ++ parts.meaning) := by
  induction parts generalizing front with
  | nil => exact h
  | cons part parts ih =>
      have hinside : StringTree.inside (part :: parts) = part.text ++ StringTree.inside parts := rfl
      have hmeaning : StringTree.meaning (part :: parts) =
          part.meaning ++ StringTree.meaning parts := rfl
      rw [hinside] at h
      rw [hmeaning]
      cases part with
      | raw ch =>
          rw [StringPart.text, ← List.append_assoc] at h
          rw [StringPart.meaning, ← List.append_assoc]
          exact ih _ h
      | escape e =>
          have hletter : e.letter < 0x80 := by cases e <;> decide
          have hascii : e.meaning < 0x80 := by cases e <;> decide
          rcases IsUtf8.split (by decide) h with ⟨hfront, hrest⟩
          have hparts := ih [] (hrest.tail hletter)
          exact hfront.append (IsUtf8.cons hascii hparts)
      | unicode d₁ d₂ d₃ d₄ =>
          rcases IsUtf8.split (by decide) h with ⟨hfront, hrest⟩
          have hdigits : IsUtf8 (StringTree.inside parts) :=
            ((((hrest.tail (by decide)).tail d₁.ascii).tail d₂.ascii).tail d₃.ascii).tail d₄.ascii
          exact hfront.append ((isUtf8_char _).append (ih [] hdigits))

/-- A string that is written in UTF-8 stands for UTF-8. -/
theorem StringTree.utf8_of_text {parts : StringTree} (h : IsUtf8 parts.text) :
    IsUtf8 parts.meaning := by
  rw [StringTree.text, List.append_assoc] at h
  have hinside := IsUtf8.split (by decide) (h.tail (by decide))
  exact StringTree.utf8_meaning [] hinside.1

/-- What follows a member begins with a comma or a brace. -/
theorem JsonMoreMembers.asciiHead (m : JsonMoreMembers) : AsciiHead m.text := by
  cases m <;> exact asciiHead_cons (by decide) _

/-- What follows an element begins with a comma or a bracket. -/
theorem JsonMoreElements.asciiHead (m : JsonMoreElements) : AsciiHead m.text := by
  cases m <;> exact asciiHead_cons (by decide) _

mutual

/-- The strings of a tree whose text is in UTF-8. -/
theorem JsonTree.utf8_meaning : ∀ t : JsonTree, IsUtf8 t.text → t.meaning.Utf8
  | .string parts, h => StringTree.utf8_of_text h
  | .emptyObject _, _ => trivial
  | .object m, h => m.utf8_assign (h.tail (by decide)) [] trivial
  | .emptyArray _, _ => trivial
  | .array m, h => m.utf8_values (h.tail (by decide))

/-- Members that are written in UTF-8 assign UTF-8 strings. -/
theorem JsonMembers.utf8_assign : ∀ m : JsonMembers, IsUtf8 m.text →
    ∀ members, JsonValue.Utf8Members members → JsonValue.Utf8Members (m.assign members)
  | .member beforeKey key afterKey beforeValue value afterValue rest, h, members, hmembers => by
      simp only [JsonMembers.text, List.append_assoc, List.singleton_append] at h
      have hcolon : AsciiHead (58 :: (beforeValue.val ++ (value.text ++
          (afterValue.val ++ rest.text)))) := asciiHead_cons (by decide) _
      have hkey := (hcolon.spaces afterKey).split (isUtf8_of_spaces h)
      have hbehind := (isUtf8_of_spaces hkey.2).tail (by decide)
      have hvalue := (rest.asciiHead.spaces afterValue).split (isUtf8_of_spaces hbehind)
      exact rest.utf8_assign (isUtf8_of_spaces hvalue.2) _
        (hmembers.mapAssign (value.utf8_meaning hvalue.1))

/-- The same for the rest of the members. -/
theorem JsonMoreMembers.utf8_assign : ∀ m : JsonMoreMembers, IsUtf8 m.text →
    ∀ members, JsonValue.Utf8Members members → JsonValue.Utf8Members (m.assign members)
  | .close, _, _, hmembers => hmembers
  | .comma m, h, members, hmembers => m.utf8_assign (h.tail (by decide)) members hmembers

/-- Elements that are written in UTF-8 have UTF-8 values. -/
theorem JsonElements.utf8_values : ∀ m : JsonElements, IsUtf8 m.text →
    JsonValue.Utf8Elements m.values
  | .element beforeValue value afterValue rest, h => by
      simp only [JsonElements.text, List.append_assoc] at h
      have hvalue := (rest.asciiHead.spaces afterValue).split (isUtf8_of_spaces h)
      exact ⟨value.utf8_meaning hvalue.1, rest.utf8_values (isUtf8_of_spaces hvalue.2)⟩

/-- The same for the rest of the elements. -/
theorem JsonMoreElements.utf8_values : ∀ m : JsonMoreElements, IsUtf8 m.text →
    JsonValue.Utf8Elements m.values
  | .close, _ => trivial
  | .comma m, h => m.utf8_values (h.tail (by decide))

end

/-! ## Bodies -/

/-- The strings of a body in UTF-8. -/
theorem parseJsonRootObject_utf8 {body : CppString} {members : List (CppString × JsonValue)}
    (hbody : IsUtf8 body) (h : parseJsonRootObject body = .ok members) :
    JsonValue.Utf8Members members := by
  rcases parseJsonRootObject_ok h with ⟨root, rfl, hplain⟩
  rw [parseJsonRootObject_text, if_pos hplain] at h
  rw [RootTree.text, List.append_assoc] at hbody
  have hobject : IsUtf8 root.object.text := by
    have hrest := isUtf8_of_spaces hbody
    rcases root with ⟨before, object, ⟨after, hafter⟩, isObject⟩
    cases after with
    | nil => simpa using hrest
    | cons ch after => exact (IsUtf8.split (isSpace_ascii (hafter ch List.mem_cons_self)) hrest).1
  have hmeaning := root.object.utf8_meaning hobject
  rw [root.meaning_object] at hmeaning
  rw [← Except.ok.inj h]
  exact hmeaning

/-- The values that `parse_simple_json_object` takes out of a body in UTF-8. -/
theorem parseSimpleJsonObject_utf8 {body : CppString} {params : List (CppString × CppString)}
    (hbody : IsUtf8 body) (h : parseSimpleJsonObject body = .ok params) (key : String) :
    IsUtf8 (paramValue params key) := by
  have hstrings : ∀ {members params}, JsonValue.Utf8Members members →
      stringMembers members = .ok params → ∀ entry ∈ params, IsUtf8 entry.2 := by
    intro members
    induction members with
    | nil =>
        intro params _ hparams
        cases hparams
        simp
    | cons entry members ih =>
        intro params hmembers hparams
        rcases entry with ⟨key, value⟩
        cases value with
        | string value =>
            simp only [stringMembers] at hparams
            split at hparams
            · contradiction
            · rename_i rest hrest
              cases hparams
              intro entry hentry
              rcases List.mem_cons.mp hentry with rfl | hmem
              · exact hmembers.1
              · exact ih hmembers.2 hrest entry hmem
        | object => contradiction
        | array => contradiction
  unfold parseSimpleJsonObject at h
  split at h
  · contradiction
  · rename_i members hmembers
    have hvalues := hstrings (parseJsonRootObject_utf8 hbody hmembers) h
    unfold paramValue
    cases hfind : params.find? fun entry => entry.1 = str key with
    | none => exact isUtf8_nil
    | some entry => exact hvalues entry (List.mem_of_find?_eq_some hfind)

/-- A string that is looked up is UTF-8. -/
theorem getString_utf8 {members : List (CppString × JsonValue)}
    (h : JsonValue.Utf8Members members) (key : String) : IsUtf8 (getString members key) := by
  unfold getString
  split
  · rename_i value hfind
    unfold mapFind at hfind
    rcases Option.map_eq_some_iff.mp hfind with ⟨entry, hentry, hvalue⟩
    have hutf8 := h.value (List.mem_of_find?_eq_some hentry)
    rw [hvalue] at hutf8
    exact hutf8
  · exact isUtf8_nil

/-- So are the association identifiers of a report. -/
theorem readAssocIds_utf8 {elements : List JsonValue} (helements : JsonValue.Utf8Elements elements)
    {assocIds : List CppString} (h : readAssocIds elements = .ok assocIds) : AllUtf8 assocIds := by
  induction elements generalizing assocIds with
  | nil =>
      cases h
      exact allUtf8_nil
  | cons value elements ih =>
      cases value with
      | string value =>
          simp only [readAssocIds] at h
          split at h
          · contradiction
          · rename_i rest hrest
            cases h
            exact allUtf8_cons.mpr ⟨helements.1, ih helements.2 hrest⟩
      | object => contradiction
      | array => contradiction

/-! ## Reports -/

/-- The texts of a report of success. -/
def CompleteReport.texts (report : CompleteReport) : List CppString :=
  [report.evidenceKind, report.evidenceText, report.reportText] ++ report.assocIds

/-- The texts of a report of missing support. -/
def UnsupportedReport.texts (report : UnsupportedReport) : List CppString :=
  [report.reason, report.evidenceKind, report.evidenceText]

/-- What a complete report in UTF-8 contains. -/
theorem parseCompleteReport_utf8 {body : CppString} {report : CompleteReport}
    (hbody : IsUtf8 body) (h : parseCompleteReport body = .ok report) : AllUtf8 report.texts := by
  unfold parseCompleteReport at h
  split at h
  · contradiction
  · rename_i members hmembers
    have hutf8 := parseJsonRootObject_utf8 hbody hmembers
    have hstring := getString_utf8 hutf8
    have hreport : ∀ assocIds, AllUtf8 assocIds → AllUtf8 (CompleteReport.texts {
        assocIds := assocIds
        evidenceKind := getString members "evidence_kind"
        evidenceText := getString members "evidence_text"
        reportText := getString members "report_text" }) := by
      intro assocIds hassocIds
      simp [CompleteReport.texts, hstring, hassocIds]
    dsimp only at h
    split at h
    · cases h
      exact hreport [] allUtf8_nil
    · rename_i elements hfind
      split at h
      · contradiction
      · rename_i assocIds hassocIds
        cases h
        unfold mapFind at hfind
        rcases Option.map_eq_some_iff.mp hfind with ⟨entry, hentry, hvalue⟩
        have helements := hutf8.value (List.mem_of_find?_eq_some hentry)
        rw [hvalue] at helements
        exact hreport assocIds (readAssocIds_utf8 helements hassocIds)
    · contradiction

/-- The texts of a report are UTF-8 if its body is. -/
theorem parseUnsupportedReport_utf8 {body : CppString} {report : UnsupportedReport}
    (hbody : IsUtf8 body) (h : parseUnsupportedReport body = .ok report) :
    AllUtf8 report.texts := by
  unfold parseUnsupportedReport at h
  split at h
  · contradiction
  · rename_i params hparams
    cases h
    have hvalue := parseSimpleJsonObject_utf8 hbody hparams
    simp [UnsupportedReport.texts, hvalue]

/-! ## Errors -/

/-- The text of an error that is reported is UTF-8. -/
theorem JsonResult.Reported.utf8 {α : Type} {result : JsonResult α} (hresult : result.Reported)
    {fault : JsonFault} (h : result = .error fault) : IsUtf8 fault.text := by
  rcases hresult fault h with ⟨literal, rfl⟩
  exact isUtf8_str literal

/-- A member that is no string is reported. -/
theorem stringMembers_reported (members : List (CppString × JsonValue)) :
    (stringMembers members).Reported := by
  induction members with
  | nil => exact reported_ok _
  | cons entry members ih =>
      rcases entry with ⟨key, value⟩
      cases value with
      | string value =>
          rw [stringMembers]
          split
          · rename_i fault hfault
            exact reported_error ih hfault
          · exact reported_ok _
      | object => exact reported_jsonFail _
      | array => exact reported_jsonFail _

/-- The parser of simple objects always comes to a value or an error that is reported. -/
theorem parseSimpleJsonObject_reported (body : CppString) :
    (parseSimpleJsonObject body).Reported := by
  unfold parseSimpleJsonObject
  split
  · rename_i fault hfault
    exact reported_error (parseJsonRootObject_reported body) hfault
  · exact stringMembers_reported _

/-- The error of a complete report that is refused before its critical section. -/
theorem parseCompleteReport_error_utf8 {body error : CppString}
    (h : parseCompleteReport body = .error error) : IsUtf8 error := by
  have hassocIds : ∀ {elements}, readAssocIds elements = .error error → IsUtf8 error := by
    intro elements
    induction elements with
    | nil =>
        intro h
        contradiction
    | cons value elements ih =>
        intro h
        cases value with
        | string value =>
            simp only [readAssocIds] at h
            split at h
            · rename_i hrest
              cases h
              exact ih hrest
            · contradiction
        | object =>
            cases h
            exact isUtf8_str _
        | array =>
            cases h
            exact isUtf8_str _
  unfold parseCompleteReport at h
  split at h
  · rename_i fault hfault
    cases h
    exact (parseJsonRootObject_reported body).utf8 hfault
  · dsimp only at h
    split at h
    · contradiction
    · split at h
      · rename_i hids
        cases h
        exact hassocIds hids
      · contradiction
    · cases h
      exact isUtf8_str _

/-- The error for a report that cannot be read is UTF-8. -/
theorem parseUnsupportedReport_error_utf8 {body error : CppString}
    (h : parseUnsupportedReport body = .error error) : IsUtf8 error := by
  unfold parseUnsupportedReport at h
  split at h
  · rename_i fault hfault
    cases h
    exact (parseSimpleJsonObject_reported body).utf8 hfault
  · contradiction

end SctpConformance
