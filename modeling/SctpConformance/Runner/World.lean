import SctpConformance.Runner.Process

/-!
# The surroundings of a run

What the runner finds when it runs: the helpers that its commands start, the ports that are
free, and the file system in which it writes what they print.  Any of them may refuse.

Main results:

- Definition `Path.relativeTo`: the part of a path below another one.
- Definition `World`: the surroundings.
- Theorem `writeFiles_ok_iff`: when the output of the helpers is written.
-/

namespace SctpConformance.Runner

open Library

/-! ## Paths -/

/-- An absolute path of `pathlib`: its root (`/`, or `//` for a text with just two slashes in
front) and its parts. -/
structure Path where
  root : Text
  parts : List Text
deriving DecidableEq

/-- The parts of a text; empty ones and dots are left out. -/
def pathParts (text : Text) : List Text :=
  (text.splitOn '/').filter fun part => part ≠ [] ∧ part ≠ ".".toList

/-- `path / text`: an absolute text replaces the path. -/
def Path.join (path : Path) (text : Text) : Path :=
  match text with
  | '/' :: '/' :: '/' :: _ => { root := "/".toList, parts := pathParts text }
  | '/' :: '/' :: _ => { root := "//".toList, parts := pathParts text }
  | '/' :: _ => { root := "/".toList, parts := pathParts text }
  | _ => { path with parts := path.parts ++ pathParts text }

/-- The path is the other one or lies below it. -/
def Path.IsBelow (path base : Path) : Prop :=
  path.root = base.root ∧ base.parts <+: path.parts

instance (path base : Path) : Decidable (path.IsBelow base) :=
  inferInstanceAs (Decidable (_ ∧ _))

/-- The text of the parts below the other path. -/
def Path.below (path base : Path) : Text :=
  joinTexts "/".toList (path.parts.drop base.parts.length)

/-- `str(path.relative_to(base))`, for a path that is not the base itself. -/
def Path.relativeTo (path base : Path) : Except Raised Text :=
  if path.IsBelow base then .ok (path.below base) else .error .valueError

/-! ## The surroundings -/

/-- What a run finds around it. -/
structure World where
  /-- What starting the command of a helper ends in: for the scenario at this position, in this
  role and with these flags. -/
  helper : Nat → Role → List Text → Except Raised Helper
  /-- What `free_port` ends in. -/
  freePort : Nat → Except Raised Nat
  /-- What the rest of `create_runner`, `bootstrap` and `build` end in. -/
  prepare : Except Raised Unit
  /-- `run_dir` -/
  runDir : Path
  /-- What making the directory or opening the file at this path ends in. -/
  storage : Path → Except Raised Unit
  /-- What handing a line to the standard output ends in. -/
  terminal : Except Raised Unit

variable (py : Python) (world : World)

/-- All characters of the text can be encoded. -/
def Encodable (text : Text) : Prop :=
  ∀ ch ∈ text, py.encodable ch = true

instance (text : Text) : Decidable (Encodable py text) :=
  inferInstanceAs (Decidable (∀ ch ∈ text, _))

/-- A text is encoded piece by piece. -/
theorem encodable_append {text text' : Text} :
    Encodable py (text ++ text') ↔ Encodable py text ∧ Encodable py text' :=
  List.forall_mem_append

/-- ASCII characters can be encoded. -/
theorem encodable_of_ascii {text : Text} (h : ∀ ch ∈ text, ch.toNat < 128) : Encodable py text :=
  fun ch hch => py.encodable_ascii ch (h ch hch)

/-- Joined texts can be encoded if each of them can, and the text between them. -/
theorem encodable_joinTexts {separator : Text} (hseparator : Encodable py separator)
    {parts : List Text} :
    Encodable py (joinTexts separator parts) ↔ ∀ part ∈ parts, Encodable py part := by
  unfold joinTexts
  induction parts with
  | nil => exact iff_of_true (fun ch hch => nomatch hch) (List.forall_mem_nil _)
  | cons part parts ih =>
      cases parts with
      | nil => rw [List.intercalate_singleton, List.forall_mem_singleton]
      | cons next parts =>
          have hcons := List.forall_mem_cons (p := Encodable py) (a := part) (l := next :: parts)
          rw [List.intercalate_cons_cons, encodable_append, encodable_append, ih, hcons]
          exact ⟨fun h => ⟨h.1.1, h.2⟩, fun h => ⟨⟨h.1, hseparator⟩, h.2⟩⟩

/-- `path.write_text(text)` -/
def World.writeText (path : Path) (text : Text) : Except Raised Unit := do
  world.storage path
  if Encodable py text then return () else throw .unicodeEncodeError

/-- A text is written if its file can be opened and its characters can be encoded. -/
theorem writeText_ok_iff {path : Path} {text : Text} :
    world.writeText py path text = .ok () ↔ world.storage path = .ok () ∧ Encodable py text := by
  unfold World.writeText
  rw [Outcome.seq_eq_ok, Outcome.check_eq_ok, Outcome.pure_eq_ok]
  simp only [and_true]

/-- `print(line)` -/
def World.print (line : Text) : Except Raised Unit := do
  world.terminal
  if Encodable py line then return () else throw .unicodeEncodeError

/-- A line is printed if the output takes it and its characters can be encoded. -/
theorem print_ok_iff {line : Text} :
    world.print py line = .ok () ↔ world.terminal = .ok () ∧ Encodable py line := by
  unfold World.print
  rw [Outcome.seq_eq_ok, Outcome.check_eq_ok, Outcome.pure_eq_ok]
  simp only [and_true]

/-! ## The output of the helpers -/

/-- `run_dir / profile.id / scenario.id` -/
def World.scenarioDir (profileId scenarioId : Text) : Path :=
  (world.runDir.join profileId).join scenarioId

/-- The keys of `artifact_paths` for the output of a helper, and the names of the files. -/
def outputFiles (role : String) : List (Text × Text) :=
  ["stdout", "stderr"].map fun stream =>
    (role.toList ++ "_".toList ++ stream.toList, role.toList ++ ".".toList ++ stream.toList)

/-- The files are written one after another.  Their texts have been decoded, and can be encoded
again. -/
def World.storeAll (dir : Path) : List (Text × Text) → Except Raised Unit
  | [] => .ok ()
  | file :: files => do
      world.storage (dir.join file.2)
      World.storeAll dir files

/-- The paths of the files in the directory of the run. -/
def World.artifactPaths (dir : Path) : List (Text × Text) → Except Raised (List (Text × Text))
  | [] => .ok []
  | file :: files => do
      let path ← (dir.join file.2).relativeTo world.runDir
      let paths ← World.artifactPaths dir files
      return (file.1, path) :: paths

/-- `_write_artifacts` and `_write_client_only_artifacts` -/
def World.writeFiles (dir : Path) (files : List (Text × Text)) :
    Except Raised (List (Text × Text)) := do
  world.storeAll dir files
  world.artifactPaths dir files

/-- The paths of the files relative to the directory of the run. -/
def World.filePaths (dir : Path) (files : List (Text × Text)) : List (Text × Text) :=
  files.map fun file => (file.1, (dir.join file.2).below world.runDir)

/-- The files can be written, and lie in the directory of the run. -/
structure World.Stores (dir : Path) (files : List (Text × Text)) : Prop where
  stored : ∀ file ∈ files, world.storage (dir.join file.2) = .ok ()
  below : ∀ file ∈ files, (dir.join file.2).IsBelow world.runDir

/-- All the files are written. -/
theorem storeAll_ok_iff {dir : Path} {files : List (Text × Text)} :
    world.storeAll dir files = .ok () ↔
      ∀ file ∈ files, world.storage (dir.join file.2) = .ok () := by
  induction files with
  | nil => exact iff_of_true rfl (List.forall_mem_nil _)
  | cons file files ih =>
      rw [List.forall_mem_cons, ← ih, World.storeAll]
      exact Outcome.seq_eq_ok

/-- A path has a text relative to another one if it lies below it. -/
theorem relativeTo_eq_ok {path base : Path} {text : Text} :
    path.relativeTo base = .ok text ↔ path.IsBelow base ∧ text = path.below base := by
  unfold Path.relativeTo
  by_cases hbelow : path.IsBelow base
  · rw [if_pos hbelow, Except.ok.injEq, eq_comm]
    exact ⟨fun h => ⟨hbelow, h⟩, fun h => h.2⟩
  · rw [if_neg hbelow]
    constructor
    · intro h
      cases h
    · rintro ⟨h, -⟩
      contradiction

/-- The paths are given if all the files lie in the directory of the run. -/
theorem artifactPaths_ok_iff {dir : Path} {files paths : List (Text × Text)} :
    world.artifactPaths dir files = .ok paths ↔
      (∀ file ∈ files, (dir.join file.2).IsBelow world.runDir) ∧
        paths = world.filePaths dir files := by
  unfold World.filePaths
  induction files generalizing paths with
  | nil =>
      rw [World.artifactPaths, Except.ok.injEq, List.map_nil]
      exact ⟨fun h => ⟨List.forall_mem_nil _, h.symm⟩, fun h => h.2.symm⟩
  | cons file files ih =>
      rw [List.forall_mem_cons, List.map_cons, World.artifactPaths, Outcome.bind_eq_ok]
      simp only [relativeTo_eq_ok, Outcome.bind_eq_ok, ih, Outcome.pure_eq_ok]
      constructor
      · rintro ⟨path, ⟨hbelow, rfl⟩, rest, ⟨hall, rfl⟩, rfl⟩
        exact ⟨⟨hbelow, hall⟩, rfl⟩
      · rintro ⟨⟨hbelow, hall⟩, rfl⟩
        exact ⟨_, ⟨hbelow, rfl⟩, _, ⟨hall, rfl⟩, rfl⟩

/-- The output of the helpers is written exactly if its files can be, and lie in the directory
of the run. -/
theorem writeFiles_ok_iff {dir : Path} {files paths : List (Text × Text)} :
    world.writeFiles dir files = .ok paths ↔
      world.Stores dir files ∧ paths = world.filePaths dir files := by
  unfold World.writeFiles
  rw [Outcome.seq_eq_ok, storeAll_ok_iff, artifactPaths_ok_iff]
  constructor
  · rintro ⟨hstored, hbelow, hpaths⟩
    exact ⟨⟨hstored, hbelow⟩, hpaths⟩
  · rintro ⟨hstores, hpaths⟩
    exact ⟨hstores.stored, hstores.below, hpaths⟩

end SctpConformance.Runner
