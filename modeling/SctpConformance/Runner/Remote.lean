import SctpConformance.Library.ShellWords
import SctpConformance.Runner.Process

/-!
# Commands on another machine

`RemoteExecutor` of `runner/src/sctp_conformance/process.py` makes one text of a command, its
directory and its environment, and hands it to `ssh`.  There a login shell reads the text
first, and then the `sh` that it starts.

Main results:

- Definition `script`: the text that `sh` gets.
- Theorem `commands_sshCommand`: the login shell starts `sh` with this text.
- Theorem `remote_command_read`: `sh` reads the command as it was given, exactly if its first
  argument can be the name of a command.
-/

namespace SctpConformance.Runner

open Library

/-! ## Quoting -/

/-- What `shlex` leaves alone: `\w` of ASCII and some marks. -/
def isSafe (char : Char) : Bool :=
  char.isAlphanum || decide (char ∈ "_@%+=:,/.-".toList)

/-- `shlex.quote` -/
def shlexQuote (text : Text) : Text :=
  if text = [] then "''".toList
  else if text.all isSafe then text
  else
    "'".toList ++ text.flatMap (fun ch => if ch = '\'' then "'\"'\"'".toList else [ch]) ++
      "'".toList

/-- Arguments in quotes with blanks between them. -/
def shellJoin (parts : List Text) : Text :=
  joinTexts " ".toList (parts.map shlexQuote)

/-- Runs commands on another host. -/
structure RemoteExecutor where
  target : Text

/-- `_ssh_command` -/
def RemoteExecutor.sshCommand (executor : RemoteExecutor) (script : Text) : List Text :=
  ["ssh".toList, "-o".toList, "BatchMode=yes".toList, executor.target,
    "sh -lc ".toList ++ shlexQuote script]

/-- The parts of the script that change the surroundings of the command. -/
def surroundings (cwd : Option Text) (env : List (Text × Text)) : List Text :=
  (match cwd with
    | some (first :: rest) => ["cd ".toList ++ shlexQuote (first :: rest)]
    | _ => []) ++
    env.map fun entry => "export ".toList ++ entry.1 ++ "=".toList ++ shlexQuote entry.2

/-- The script of `RemoteExecutor.run` and of `RemoteExecutor.spawn`. -/
def script (command : List Text) (cwd : Option Text) (env : List (Text × Text)) : Text :=
  joinTexts "; ".toList (surroundings cwd env ++ [shellJoin command])

/-- `ssh` has the arguments behind its target read by the login shell of the target, with
blanks between them. -/
def loginScript (sshCommand : List Text) : Text :=
  joinTexts " ".toList (sshCommand.drop 4)

/-! ## The words of quoted texts -/

/-- The word that a quoted text is read as. -/
def quotedWord (text : Text) : Shell.Word :=
  if text ≠ [] ∧ text.all isSafe then Shell.plainLetters text else Shell.quotedLetters text

/-- What needs no quotes means nothing to the shell. -/
theorem isPlain_of_isSafe {char : Char} (h : isSafe char = true) : Shell.isPlain char = true := by
  have hspecial : ∀ ch ∈ "|&<>()$`\\*?[#~'\" \t\n;".toList, isSafe ch = false := by decide
  have hnot : char ∉ "|&<>()$`\\*?[#~'\" \t\n;".toList := fun hmem => by
    rw [hspecial char hmem] at h
    contradiction
  simp only [Shell.isPlain, Shell.isSpecial, Bool.and_eq_true, Bool.not_eq_true',
    decide_eq_false_iff_not, decide_eq_true_eq]
  constructor <;> exact fun hmem => hnot (by
    revert hmem
    simp only [List.mem_cons, String.reduceToList]
    tauto)

/-- Everything else stands between single quotes. -/
theorem shlexQuote_eq {text : Text} (h : ¬ (text ≠ [] ∧ text.all isSafe)) :
    shlexQuote text = '\'' :: text.flatMap Shell.protect ++ ['\''] := by
  unfold shlexQuote
  by_cases hempty : text = []
  · rw [hempty]
    rfl
  · rw [if_neg hempty, if_neg fun hsafe => h ⟨hempty, hsafe⟩]
    rfl

/-- A quoted argument is one word for the shell. -/
theorem spells_shlexQuote (text : Text) : Shell.Spells (shlexQuote text) (quotedWord text) := by
  unfold quotedWord
  split
  · rename_i h
    have hquote : shlexQuote text = text := by
      unfold shlexQuote
      rw [if_neg h.1, if_pos h.2]
    rw [hquote]
    exact Shell.spells_plain h.1 fun char hchar =>
      isPlain_of_isSafe (List.all_eq_true.mp h.2 char hchar)
  · rename_i h
    rw [shlexQuote_eq h]
    exact Shell.spells_quoted text

/-- The word has the characters of the argument. -/
@[simp]
theorem text_quotedWord (text : Text) : Shell.Word.text (quotedWord text) = text := by
  unfold quotedWord
  split <;> simp

/-- A text that the shell takes for the name of a command when it stands first.  A reserved
word or an assignment is left alone by `shlex` if all its characters are safe. -/
def NamesCommand (text : Text) : Prop :=
  text.all isSafe → text ∉ Shell.reservedWords ∧
    ∀ name value, text = name ++ '=' :: value → Shell.isName name = false

/-- A name contains no `=`. -/
theorem not_mem_of_isName {name : Text} (h : Shell.isName name = true) : '=' ∉ name := by
  have hstart : Shell.isNameStart '=' = false := by decide
  have hdigit : '='.isDigit = false := by decide
  cases name with
  | nil => exact List.not_mem_nil
  | cons first rest =>
      simp only [Shell.isName, Bool.and_eq_true, List.all_eq_true, Bool.or_eq_true] at h
      intro hmem
      rcases List.mem_cons.mp hmem with rfl | hrest
      · rw [hstart] at h
        exact absurd h.1 (by decide)
      · have := h.2 _ hrest
        rw [hstart, hdigit] at this
        exact absurd this (by decide)

/-- An assignment without quotes is a name, `=` and anything behind it. -/
theorem isAssignment_plainLetters (text : Text) :
    Shell.Word.isAssignment (Shell.plainLetters text) = true ↔
      ∃ name value, text = name ++ '=' :: value ∧ Shell.isName name = true := by
  have hname : (Shell.plainLetters text).takeWhile (fun letter => letter ≠ ⟨'=', false⟩) =
      Shell.plainLetters (text.takeWhile (· ≠ '=')) := by
    unfold Shell.plainLetters
    rw [List.takeWhile_map]
    congr 2
    funext ch
    simp
  have hletters : (Shell.plainLetters (text.takeWhile (· ≠ '='))).all
      (fun letter => !letter.quoted) = true := by
    simp [Shell.plainLetters]
  have hlength (text : Text) : (Shell.plainLetters text).length = text.length := List.length_map _
  simp only [Shell.Word.isAssignment, hname, hletters, hlength, Shell.text_plainLetters,
    Bool.and_true, Bool.and_eq_true, decide_eq_true_eq]
  constructor
  · rintro ⟨hshort, hisName⟩
    have hsplit := List.takeWhile_append_dropWhile (p := (· ≠ '=')) (l := text)
    cases hdrop : text.dropWhile (· ≠ '=') with
    | nil =>
        rw [hdrop, List.append_nil] at hsplit
        rw [hsplit] at hshort
        exact absurd hshort (Nat.lt_irrefl _)
    | cons ch value =>
        have hch : ch = '=' := by
          have := List.head?_dropWhile_not (· ≠ '=') text
          rw [hdrop] at this
          simpa using this
        rw [hdrop, hch] at hsplit
        exact ⟨_, value, hsplit.symm, hisName⟩
  · rintro ⟨name, value, rfl, hisName⟩
    have hfree := not_mem_of_isName hisName
    rw [List.takeWhile_append_of_pos fun ch hch => by
        simpa using fun heq : ch = '=' => hfree (heq ▸ hch),
      List.takeWhile_cons_of_neg (by simp), List.append_nil]
    exact ⟨by simp, hisName⟩

/-- Which texts are names of commands when they stand first. -/
theorem isCommandName_quotedWord (text : Text) :
    Shell.Word.isCommandName (quotedWord text) = true ↔ NamesCommand text := by
  unfold quotedWord
  split
  · rename_i h
    have hassignment := isAssignment_plainLetters text
    have hreserved : Shell.Word.isReserved (Shell.plainLetters text) = true ↔
        text ∈ Shell.reservedWords := by
      simp [Shell.Word.isReserved, Shell.plainLetters, Shell.Word.text, Function.comp_def]
    simp only [Shell.Word.isCommandName, Bool.and_eq_true, Bool.not_eq_true', NamesCommand, h.2,
      forall_const]
    rw [← Bool.not_eq_true, ← Bool.not_eq_true, hreserved, hassignment]
    simp only [not_exists, not_and, Bool.not_eq_true]
  · rename_i h
    rw [Shell.isCommandName_quotedLetters]
    refine ⟨fun _ hsafe => ?_, fun _ => rfl⟩
    have hempty : text = [] := by
      by_contra hne
      exact h ⟨hne, hsafe⟩
    subst hempty
    exact ⟨by decide, fun name value heq => by simp at heq⟩

/-! ## The script of a command -/

/-- The commands of the script that change the surroundings. -/
def surroundingCommands (cwd : Option Text) (env : List (Text × Text)) : List (List Text) :=
  (match cwd with
    | some (first :: rest) => [["cd".toList, first :: rest]]
    | _ => []) ++
    env.map fun entry => ["export".toList, entry.1 ++ "=".toList ++ entry.2]

/-- How the arguments of such a command are written. -/
def surroundingTexts (cwd : Option Text) (env : List (Text × Text)) : List (List Text) :=
  (match cwd with
    | some (first :: rest) => [["cd".toList, shlexQuote (first :: rest)]]
    | _ => []) ++
    env.map fun entry => ["export".toList, entry.1 ++ "=".toList ++ shlexQuote entry.2]

/-- How they are read. -/
def surroundingWords (cwd : Option Text) (env : List (Text × Text)) : List (List Shell.Word) :=
  (match cwd with
    | some (first :: rest) => [[Shell.plainLetters "cd".toList, quotedWord (first :: rest)]]
    | _ => []) ++
    env.map fun entry => [Shell.plainLetters "export".toList,
      Shell.plainLetters (entry.1 ++ "=".toList) ++ quotedWord entry.2]

/-- The script, command by command and word by word. -/
theorem script_eq (command : List Text) (cwd : Option Text) (env : List (Text × Text)) :
    script command cwd env = Shell.joinCommands
      ((surroundingTexts cwd env ++ [command.map shlexQuote]).map Shell.joinWords) := by
  have hsurroundings : surroundings cwd env =
      (surroundingTexts cwd env).map Shell.joinWords := by
    have henv : (env.map fun entry =>
        "export ".toList ++ entry.1 ++ "=".toList ++ shlexQuote entry.2) =
          (env.map fun entry => ["export".toList, entry.1 ++ "=".toList ++ shlexQuote entry.2]).map
            Shell.joinWords := by
      simp [Shell.joinWords, List.intercalate]
    unfold surroundings surroundingTexts
    rw [List.map_append, henv]
    congr 1
    rcases cwd with _ | _ | ⟨first, rest⟩
    · rfl
    · rfl
    · simp [Shell.joinWords, List.intercalate]
  rw [script, hsurroundings, List.map_append]
  rfl

/-- Quoted arguments are as many words. -/
theorem spellAll_quoted (arguments : List Text) :
    Shell.SpellAll (arguments.map shlexQuote) (arguments.map quotedWord) := by
  induction arguments with
  | nil => exact .nil
  | cons text arguments ih => exact .cons (spells_shlexQuote text) ih

/-- A name means nothing else to the shell. -/
theorem isPlain_of_isName {name : Text} (h : Shell.isName name = true) :
    ∀ ch ∈ name, Shell.isPlain ch = true := by
  have hsafe : ∀ ch, Shell.isNameStart ch = true ∨ ch.isDigit = true → isSafe ch = true := by
    intro ch hch
    simp only [Shell.isNameStart, Bool.or_eq_true, decide_eq_true_eq] at hch
    simp only [isSafe, Char.isAlphanum, Bool.or_eq_true, decide_eq_true_eq]
    rcases hch with (halpha | rfl) | hdigit
    · exact .inl (.inl halpha)
    · exact .inr (by decide)
    · exact .inl (.inr hdigit)
  cases name with
  | nil => simp
  | cons first rest =>
      simp only [Shell.isName, Bool.and_eq_true, List.all_eq_true, Bool.or_eq_true] at h
      intro ch hch
      rcases List.mem_cons.mp hch with rfl | hrest
      · exact isPlain_of_isSafe (hsafe ch (.inl h.1))
      · exact isPlain_of_isSafe (hsafe ch (h.2 ch hrest))

/-- The parts of the script are read as the words that they are written for. -/
theorem spells_surroundings (cwd : Option Text) {env : List (Text × Text)}
    (henv : ∀ entry ∈ env, Shell.isName entry.1 = true) :
    List.Forall₂ Shell.SpellAll (surroundingTexts cwd env) (surroundingWords cwd env) := by
  have hcd : Shell.Spells "cd".toList (Shell.plainLetters "cd".toList) :=
    Shell.spells_plain (by decide) (by decide)
  have hexport : Shell.Spells "export".toList (Shell.plainLetters "export".toList) :=
    Shell.spells_plain (by decide) (by decide)
  have hequals : ∀ ch ∈ "=".toList, Shell.isPlain ch = true := by decide
  refine List.rel_append ?_ ?_
  · rcases cwd with _ | _ | ⟨first, rest⟩
    · exact .nil
    · exact .nil
    · exact .cons (.cons hcd (.cons (spells_shlexQuote _) .nil)) .nil
  · induction env with
    | nil => exact .nil
    | cons entry env ih =>
        have hname : Shell.Spells (entry.1 ++ "=".toList)
            (Shell.plainLetters (entry.1 ++ "=".toList)) := by
          refine Shell.spells_plain (by simp) fun ch hch => ?_
          rcases List.mem_append.mp hch with hch | hch
          · exact isPlain_of_isName (henv entry List.mem_cons_self) ch hch
          · exact hequals ch hch
        exact .cons (.cons hexport (.cons (hname.append (spells_shlexQuote _)) .nil))
          (ih fun e he => henv e (List.mem_cons_of_mem _ he))

/-- The commands in front of the one that is asked for are simple ones. -/
theorem simpleCommand_surroundings (cwd : Option Text) (env : List (Text × Text)) :
    List.Forall₂ (fun words command => Shell.simpleCommand words = some command)
      (surroundingWords cwd env) (surroundingCommands cwd env) := by
  have hcd : Shell.Word.isCommandName (Shell.plainLetters "cd".toList) = true := by decide
  have hexport : Shell.Word.isCommandName (Shell.plainLetters "export".toList) = true := by decide
  refine List.rel_append ?_ ?_
  · rcases cwd with _ | _ | ⟨first, rest⟩
    · exact .nil
    · exact .nil
    · refine .cons (Shell.simpleCommand_eq_some_iff.mpr ⟨hcd, ?_⟩) .nil
      simp
  · induction env with
    | nil => exact .nil
    | cons entry env ih =>
        refine .cons (Shell.simpleCommand_eq_some_iff.mpr ⟨hexport, ?_⟩) ih
        simp [Shell.text_append]

/-- None of them is empty. -/
theorem surroundingWords_ne_nil (cwd : Option Text) (env : List (Text × Text)) :
    ∀ command ∈ surroundingWords cwd env, command ≠ [] := by
  intro command hcommand
  rcases List.mem_append.mp hcommand with h | h
  · rcases cwd with _ | _ | ⟨first, rest⟩ <;> simp_all
  · rcases List.mem_map.mp h with ⟨entry, -, rfl⟩
    simp

/-! ## What the remote machine runs -/

/-- The login shell starts `sh` with the script. -/
theorem commands_sshCommand (executor : RemoteExecutor) (script : Text) :
    Shell.commands (loginScript (executor.sshCommand script)) =
      some [["sh".toList, "-lc".toList, script]] := by
  have htext : loginScript (executor.sshCommand script) = Shell.joinCommands
      ([["sh".toList, "-lc".toList, shlexQuote script]].map Shell.joinWords) := by
    simp [loginScript, RemoteExecutor.sshCommand, joinTexts, Shell.joinCommands, Shell.joinWords,
      List.intercalate]
  have hsh : Shell.Spells "sh".toList (Shell.plainLetters "sh".toList) :=
    Shell.spells_plain (by decide) (by decide)
  have hlc : Shell.Spells "-lc".toList (Shell.plainLetters "-lc".toList) :=
    Shell.spells_plain (by decide) (by decide)
  have hname : Shell.Word.isCommandName (Shell.plainLetters "sh".toList) = true := by decide
  rw [htext, Shell.commands_script_iff
    (.cons (.cons hsh (.cons hlc (.cons (spells_shlexQuote script) .nil))) .nil) (by simp)]
  refine .cons (Shell.simpleCommand_eq_some_iff.mpr ⟨hname, ?_⟩) .nil
  simp

/-- `sh` is started with the script, and reads the directory, the environment and the command as
they were given, exactly if the first argument of the command can be the name of a command. -/
theorem remote_command_read (executor : RemoteExecutor) (first : Text) (rest : List Text)
    (cwd : Option Text) (env : List (Text × Text))
    (henv : ∀ entry ∈ env, Shell.isName entry.1 = true) :
    Shell.commands (loginScript (executor.sshCommand (script (first :: rest) cwd env))) =
        some [["sh".toList, "-lc".toList, script (first :: rest) cwd env]] ∧
      (Shell.commands (script (first :: rest) cwd env) =
          some (surroundingCommands cwd env ++ [first :: rest]) ↔ NamesCommand first) := by
  refine ⟨commands_sshCommand executor _, ?_⟩
  have hwords : List.Forall₂ Shell.SpellAll
      (surroundingTexts cwd env ++ [(first :: rest).map shlexQuote])
      (surroundingWords cwd env ++ [(first :: rest).map quotedWord]) :=
    List.rel_append (spells_surroundings cwd henv) (.cons (spellAll_quoted _) .nil)
  have hne : ∀ command ∈ surroundingWords cwd env ++ [(first :: rest).map quotedWord],
      command ≠ [] := by
    intro command hcommand
    rcases List.mem_append.mp hcommand with h | h
    · exact surroundingWords_ne_nil cwd env command h
    · rw [List.mem_singleton.mp h]
      simp
  have hlast : Shell.simpleCommand ((first :: rest).map quotedWord) = some (first :: rest) ↔
      NamesCommand first := by
    rw [List.map_cons, Shell.simpleCommand_eq_some_iff, isCommandName_quotedWord]
    simp [Function.comp_def]
  rw [script_eq, Shell.commands_script_iff hwords hne, ← hlast]
  constructor
  · intro h
    have hdrop := List.forall₂_drop (surroundingWords cwd env).length h
    rw [List.drop_left, (simpleCommand_surroundings cwd env).length_eq, List.drop_left] at hdrop
    cases hdrop with
    | cons hcommand _ => exact hcommand
  · intro h
    exact List.rel_append (simpleCommand_surroundings cwd env) (.cons h .nil)

/-- A directory with a blank, a value with a quote, and a command with both. -/
theorem remote_command_read_quotes :
    Shell.commands (loginScript (RemoteExecutor.sshCommand ⟨"oracle".toList⟩
        (script ["make".toList, "it's done".toList] (some "my suite".toList)
          [("NOTE".toList, "$HOME".toList)]))) =
        some [["sh".toList, "-lc".toList, script ["make".toList, "it's done".toList]
          (some "my suite".toList) [("NOTE".toList, "$HOME".toList)]]] ∧
      (Shell.commands (script ["make".toList, "it's done".toList] (some "my suite".toList)
          [("NOTE".toList, "$HOME".toList)]) = some [["cd".toList, "my suite".toList],
        ["export".toList, "NOTE=$HOME".toList], ["make".toList, "it's done".toList]] ↔
          NamesCommand "make".toList) :=
  remote_command_read ⟨"oracle".toList⟩ "make".toList ["it's done".toList]
    (some "my suite".toList) [("NOTE".toList, "$HOME".toList)] (by decide)

end SctpConformance.Runner
