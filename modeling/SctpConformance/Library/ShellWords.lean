import Mathlib.Data.List.Forall2
import Mathlib.Data.List.TakeWhile

/-!
# Commands and words of a POSIX shell

How `sh` cuts a script into commands and words: quotes, blanks, `;` and the ends of lines.
The reader has no answer for a script that uses more of the shell than this, such as an
expansion, a redirection, a comment, a reserved word or an assignment.

Main results:

- Definition `commands`: the commands of a script, each a list of arguments.
- Definition `Spells`: a text stands for a word wherever it is written.
- Theorem `commands_script_iff`: words that are written with blanks between them, and commands
  with `;` between them, are read as they are.
-/

namespace SctpConformance.Library.Shell

/-! ## Words -/

/-- A character of a word.  A quoted one has no meaning but itself. -/
structure Letter where
  char : Char
  quoted : Bool
deriving DecidableEq

/-- A word, letter by letter. -/
abbrev Word := List Letter

/-- The characters of a word, without its quotes. -/
def Word.text (word : Word) : List Char :=
  word.map Letter.char

/-- The letters of a text outside quotes. -/
def plainLetters (text : List Char) : Word :=
  text.map fun char => ⟨char, false⟩

/-- The letters of a text between quotes. -/
def quotedLetters (text : List Char) : Word :=
  text.map fun char => ⟨char, true⟩

@[simp]
theorem text_plainLetters (text : List Char) : (plainLetters text).text = text := by
  simp [plainLetters, Word.text, Function.comp_def]

@[simp]
theorem text_quotedLetters (text : List Char) : (quotedLetters text).text = text := by
  simp [quotedLetters, Word.text, Function.comp_def]

/-- Words are put together letter by letter. -/
theorem text_append (front back : Word) : Word.text (front ++ back) = front.text ++ back.text :=
  List.map_append

/-! ## The reader -/

/-- Outside quotes, between single ones or between double ones. -/
inductive Mode where
  | plain
  | single
  | double
deriving DecidableEq

/-- A reader in the middle of a script. -/
structure Reader where
  mode : Mode := .plain
  /-- The word that is being read. -/
  word : Option Word := none
  /-- The words of the command so far. -/
  words : List Word := []
  /-- The commands so far. -/
  commands : List (List Word) := []
deriving DecidableEq

/-- A character joins the word. -/
def Reader.put (reader : Reader) (char : Char) (quoted : Bool) : Reader :=
  { reader with word := some (reader.word.getD [] ++ [⟨char, quoted⟩]) }

/-- An opening quote begins a word, also an empty one. -/
def Reader.quote (reader : Reader) (mode : Mode) : Reader :=
  { reader with mode := mode, word := some (reader.word.getD []) }

/-- The word is complete, if one has begun. -/
def Reader.endWord (reader : Reader) : Reader :=
  { reader with word := none, words := reader.words ++ reader.word.toList }

/-- The command is complete, unless it has no words. -/
def Reader.endCommand (reader : Reader) : Reader :=
  if reader.words = [] then reader
  else { reader with words := [], commands := reader.commands ++ [reader.words] }

/-- Outside quotes the reader has no answer for these. -/
def isSpecial (char : Char) : Bool :=
  char ∈ "|&<>()$`\\*?[#~".toList

/-- What keeps its meaning between double quotes. -/
def isExpanding (char : Char) : Bool :=
  char ∈ "$`\\".toList

/-- One character of the script; `none` where the reader has no answer. -/
def Reader.step (reader : Reader) (char : Char) : Option Reader :=
  match reader.mode with
  | .plain =>
      if char = '\'' then some (reader.quote .single)
      else if char = '"' then some (reader.quote .double)
      else if char = ' ' ∨ char = '\t' then some reader.endWord
      else if char = '\n' then some reader.endWord.endCommand
      else if char = ';' then
        -- Nothing before `;` is an error.
        if reader.endWord.words = [] then none else some reader.endWord.endCommand
      else if isSpecial char then none
      else some (reader.put char false)
  | .single =>
      if char = '\'' then some { reader with mode := .plain }
      else some (reader.put char true)
  | .double =>
      if char = '"' then some { reader with mode := .plain }
      else if isExpanding char then none
      else some (reader.put char true)

/-- The characters of a script, one by one. -/
def Reader.read (reader : Reader) (script : List Char) : Option Reader :=
  script.foldlM Reader.step reader

/-- The end of the script ends the last command.  No quote may be open. -/
def Reader.finish (reader : Reader) : Option (List (List Word)) :=
  if reader.mode = .plain then some reader.endWord.endCommand.commands else none

/-- The words of the commands of a script. -/
def readWords (script : List Char) : Option (List (List Word)) :=
  (Reader.read {} script).bind Reader.finish

/-! ## Simple commands -/

/-- What a name can begin with. -/
def isNameStart (char : Char) : Bool :=
  char.isAlpha || char = '_'

/-- The name of a variable. -/
def isName : List Char → Bool
  | [] => false
  | first :: rest => isNameStart first && rest.all fun char => isNameStart char || char.isDigit

/-- The words with a meaning of their own at the beginning of a command. -/
def reservedWords : List (List Char) :=
  ["!", "\x7b", "\x7d", "[[", "]]", "case", "do", "done", "elif", "else", "esac", "fi", "for",
    "function", "if", "in", "namespace", "select", "then", "time", "until", "while"].map String.toList

/-- A reserved word counts as one only without quotes. -/
def Word.isReserved (word : Word) : Bool :=
  word.all (fun letter => !letter.quoted) && reservedWords.contains word.text

/-- A name without quotes, and `=` behind it. -/
def Word.isAssignment (word : Word) : Bool :=
  let name := word.takeWhile fun letter => letter ≠ ⟨'=', false⟩
  name.length < word.length && name.all (fun letter => !letter.quoted) && isName (Word.text name)

/-- The first word of a command is its name. -/
def Word.isCommandName (word : Word) : Bool :=
  !word.isReserved && !word.isAssignment

/-- The arguments of a command that begins with its name. -/
def simpleCommand : List Word → Option (List (List Char))
  | [] => none
  | first :: rest =>
      if Word.isCommandName first then some ((first :: rest).map Word.text) else none

/-- The commands of a script, each a list of arguments. -/
def commands (script : List Char) : Option (List (List (List Char))) :=
  (readWords script).bind fun words => words.mapM simpleCommand

/-! ## Texts that stand for words -/

/-- A script can be read in parts. -/
theorem Reader.read_append (reader : Reader) (front back : List Char) :
    reader.read (front ++ back) = (reader.read front).bind fun reader => reader.read back :=
  List.foldlM_append

/-- The text stands for the word wherever it is written. -/
def Spells (text : List Char) (word : Word) : Prop :=
  ∀ reader : Reader, reader.mode = .plain →
    reader.read text = some { reader with word := some (reader.word.getD [] ++ word) }

/-- Texts next to each other stand for one word. -/
theorem Spells.append {front back : List Char} {word word' : Word} (hfront : Spells front word)
    (hback : Spells back word') : Spells (front ++ back) (word ++ word') := by
  intro reader hmode
  have hrest := hback { reader with word := some (reader.word.getD [] ++ word) } hmode
  rw [Reader.read_append, hfront reader hmode, Option.bind_some, hrest]
  simp

/-- A character that stands for itself outside quotes. -/
def isPlain (char : Char) : Bool :=
  !isSpecial char && decide (char ∉ "'\" \t\n;".toList)

/-- Outside quotes a plain character joins the word. -/
theorem step_plain {char : Char} (h : isPlain char = true) {reader : Reader}
    (hmode : reader.mode = .plain) : reader.step char = some (reader.put char false) := by
  have hspecial : isSpecial char = false ∧ char ∉ "'\" \t\n;".toList := by
    simpa [isPlain] using h
  have hother : char ≠ '\'' ∧ char ≠ '"' ∧ char ≠ ' ' ∧ char ≠ '\t' ∧ char ≠ '\n' ∧ char ≠ ';' := by
    simpa using hspecial.2
  simp [Reader.step, hmode, hother, hspecial.1]

/-- Plain characters stand for themselves. -/
theorem spells_plain {text : List Char} (hne : text ≠ []) (h : ∀ char ∈ text, isPlain char = true) :
    Spells text (plainLetters text) := by
  induction text with
  | nil => exact absurd rfl hne
  | cons char rest ih =>
      have hchar : Spells [char] (plainLetters [char]) := by
        intro reader hmode
        simp [Reader.read, step_plain (h char List.mem_cons_self) hmode, Reader.put, plainLetters]
      by_cases hrest : rest = []
      · rw [hrest]
        exact hchar
      · exact hchar.append (ih hrest fun c hc => h c (List.mem_cons_of_mem _ hc))

/-- A quote of the text ends the quotes, is quoted by itself, and begins them again. -/
def protect (char : Char) : List Char :=
  if char = '\'' then "'\"'\"'".toList else [char]

/-- Between single quotes a protected character joins the word. -/
theorem read_protect (char : Char) {reader : Reader} {word : Word} (hmode : reader.mode = .single)
    (hword : reader.word = some word) : reader.read (protect char) = some (reader.put char true) := by
  unfold protect
  split
  · rename_i hquote
    simp [Reader.read, Reader.step, Reader.quote, Reader.put, isExpanding, hmode, hword, hquote]
  · rename_i hother
    simp [Reader.read, Reader.step, hmode, hother]

/-- Between single quotes a protected text stands for its characters. -/
theorem read_protected {reader : Reader} {word : Word} (hmode : reader.mode = .single)
    (hword : reader.word = some word) (text : List Char) :
    reader.read (text.flatMap protect) =
      some { reader with word := some (word ++ quotedLetters text) } := by
  induction text generalizing reader word with
  | nil => simp [Reader.read, quotedLetters, ← hword]
  | cons char rest ih =>
      have hnext : (reader.put char true).word = some (word ++ [⟨char, true⟩]) := by
        simp [Reader.put, hword]
      have hmode' : (reader.put char true).mode = .single := hmode
      have hrest := ih hmode' hnext
      rw [List.flatMap_cons, Reader.read_append, read_protect char hmode hword, Option.bind_some,
        hrest]
      simp [Reader.put, quotedLetters]

/-- A text in single quotes stands for itself. -/
theorem spells_quoted (text : List Char) :
    Spells ('\'' :: text.flatMap protect ++ ['\'']) (quotedLetters text) := by
  intro reader hmode
  have hopen : reader.read ('\'' :: text.flatMap protect ++ ['\'']) =
      (reader.quote .single).read (text.flatMap protect ++ ['\'']) := by
    simp [Reader.read, Reader.step, hmode]
  rw [hopen, Reader.read_append, read_protected rfl rfl, Option.bind_some]
  simp [Reader.read, Reader.step, Reader.quote, ← hmode]

/-- A word that consists of quoted letters only is the name of a command. -/
theorem isCommandName_quotedLetters (text : List Char) :
    Word.isCommandName (quotedLetters text) = true := by
  have hreserved : Word.isReserved (quotedLetters text) = false := by
    cases text with
    | nil => decide
    | cons char rest => simp [Word.isReserved, quotedLetters]
  have hassignment : Word.isAssignment (quotedLetters text) = false := by
    have hall : (quotedLetters text).takeWhile (fun letter => letter ≠ ⟨'=', false⟩) =
        quotedLetters text := by
      rw [List.takeWhile_eq_self_iff]
      intro letter hletter
      rcases List.mem_map.mp hletter with ⟨char, -, rfl⟩
      simp
    unfold Word.isAssignment
    rw [hall]
    simp
  simp [Word.isCommandName, hreserved, hassignment]

/-! ## Words and commands one after another -/

/-- The texts of a command, with a blank between two of them. -/
def joinWords (texts : List (List Char)) : List Char :=
  [' '].intercalate texts

/-- The texts of a script, with `; ` between two of them. -/
def joinCommands (texts : List (List Char)) : List Char :=
  [';', ' '].intercalate texts

/-- The texts stand for the words, one for one. -/
def SpellAll (texts : List (List Char)) (words : List Word) : Prop :=
  List.Forall₂ Spells texts words

/-- A command leaves its last word to be ended by what follows. -/
theorem read_joinWords {texts : List (List Char)} {words : List Word} (h : SpellAll texts words)
    {reader : Reader} (hmode : reader.mode = .plain) (hword : reader.word = none)
    (hne : words ≠ []) :
    ∃ front last, words = front ++ [last] ∧ reader.read (joinWords texts) =
      some { reader with word := some last, words := reader.words ++ front } := by
  induction h generalizing reader with
  | nil => exact absurd rfl hne
  | @cons text word texts words hspells hrest ih =>
      have hfirst := hspells reader hmode
      rw [hword, Option.getD_none, List.nil_append] at hfirst
      cases hrest with
      | nil => exact ⟨[], word, rfl, by simpa [joinWords, List.intercalate] using hfirst⟩
      | @cons text' word' texts words hspells' hrest =>
          have hjoin : joinWords (text :: text' :: texts) =
              text ++ ' ' :: joinWords (text' :: texts) := by
            simp [joinWords, List.intercalate, List.intersperse]
          have hblank : Reader.step { reader with word := some word } ' ' =
              some { reader with word := none, words := reader.words ++ [word] } := by
            simp [Reader.step, hmode, Reader.endWord]
          have hmode' : Reader.mode { reader with word := none, words := reader.words ++ [word] } =
              .plain := hmode
          rcases ih hmode' rfl (by simp) with ⟨front, last, hwords, hread⟩
          refine ⟨word :: front, last, by rw [hwords, List.cons_append], ?_⟩
          rw [hjoin, Reader.read_append, hfirst, Option.bind_some]
          have hcons : Reader.read { reader with word := some word }
              (' ' :: joinWords (text' :: texts)) =
              Reader.read { reader with word := none, words := reader.words ++ [word] }
                (joinWords (text' :: texts)) := by
            simp [Reader.read, hblank]
          rw [hcons, hread]
          simp

/-- Commands that are written with `; ` between them. -/
theorem read_joinCommands {commands : List (List (List Char))} {words : List (List Word)}
    (h : List.Forall₂ SpellAll commands words) (hne : ∀ command ∈ words, command ≠ [])
    {reader : Reader} (hmode : reader.mode = .plain) (hword : reader.word = none)
    (hwords : reader.words = []) :
    (reader.read (joinCommands (commands.map joinWords))).bind Reader.finish =
      some (reader.commands ++ words) := by
  induction h generalizing reader with
  | nil => simp [joinCommands, List.intercalate, Reader.read, Reader.finish, Reader.endWord,
      Reader.endCommand, hmode, hword, hwords]
  | @cons command word commands words hspells hrest ih =>
      rcases read_joinWords hspells hmode hword (hne word List.mem_cons_self)
        with ⟨front, last, heq, hread⟩
      rw [hwords, List.nil_append] at hread
      cases hrest with
      | nil =>
          have hjoin : joinCommands [joinWords command] = joinWords command := by
            simp [joinCommands, List.intercalate]
          rw [List.map_cons, List.map_nil, hjoin, hread, Option.bind_some, heq]
          simp [Reader.finish, hmode, Reader.endWord, Reader.endCommand]
      | @cons command' word' commands words hspells' hrest =>
          have hjoin : joinCommands ((command :: command' :: commands).map joinWords) =
              joinWords command ++ ';' :: ' ' ::
                joinCommands ((command' :: commands).map joinWords) := by
            simp [joinCommands, List.intercalate]
          have hsteps : Reader.read { reader with word := some last, words := front }
              (';' :: ' ' :: joinCommands ((command' :: commands).map joinWords)) =
              Reader.read { reader with
                word := none, words := [], commands := reader.commands ++ [word] }
                (joinCommands ((command' :: commands).map joinWords)) := by
            simp [Reader.read, Reader.step, hmode, Reader.endWord, Reader.endCommand, heq]
          have hmode' : Reader.mode { reader with
              word := none, words := [], commands := reader.commands ++ [word] } = .plain := hmode
          have hlater := ih (fun c hc => hne c (List.mem_cons_of_mem _ hc)) hmode' rfl rfl
          rw [hjoin, Reader.read_append, hread, Option.bind_some, hsteps, hlater]
          simp

/-- The words of a script are read as they are written. -/
theorem readWords_script {commands : List (List (List Char))} {words : List (List Word)}
    (h : List.Forall₂ SpellAll commands words) (hne : ∀ command ∈ words, command ≠ []) :
    readWords (joinCommands (commands.map joinWords)) = some words := by
  rw [readWords, read_joinCommands h hne rfl rfl rfl]
  rfl

/-- All commands are simple exactly if each of them is. -/
theorem mapM_simpleCommand_iff {words : List (List Word)} {arguments : List (List (List Char))} :
    words.mapM simpleCommand = some arguments ↔
      List.Forall₂ (fun word command => simpleCommand word = some command) words arguments := by
  induction words generalizing arguments with
  | nil => cases arguments <;> simp
  | cons word words ih =>
      cases arguments with
      | nil =>
          cases hword : simpleCommand word <;> cases hwords : words.mapM simpleCommand <;>
            simp [List.mapM_cons, hword, hwords]
      | cons command arguments =>
          rw [List.forall₂_cons, ← ih]
          cases hword : simpleCommand word <;> cases hwords : words.mapM simpleCommand <;>
            simp [List.mapM_cons, hword, hwords]

/-- The commands of a script are those of its words. -/
theorem commands_script_iff {texts : List (List (List Char))} {words : List (List Word)}
    (h : List.Forall₂ SpellAll texts words) (hne : ∀ command ∈ words, command ≠ [])
    {arguments : List (List (List Char))} :
    commands (joinCommands (texts.map joinWords)) = some arguments ↔
      List.Forall₂ (fun word command => simpleCommand word = some command) words arguments := by
  rw [commands, readWords_script h hne, Option.bind_some, mapM_simpleCommand_iff]

/-- A simple command begins with its name and keeps all its words. -/
theorem simpleCommand_eq_some_iff {first : Word} {rest : List Word}
    {arguments : List (List Char)} :
    simpleCommand (first :: rest) = some arguments ↔
      first.isCommandName = true ∧ arguments = (first :: rest).map Word.text := by
  rw [simpleCommand]
  by_cases h : first.isCommandName = true
  · rw [if_pos h, Option.some_inj, and_iff_right h, eq_comm]
  · rw [if_neg h]
    simp [h]

end SctpConformance.Library.Shell
