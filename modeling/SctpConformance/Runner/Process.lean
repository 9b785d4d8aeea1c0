import SctpConformance.Library.Raising

/-!
# Helper processes as the runner sees them

`runner/src/sctp_conformance/process.py`: the events that a helper prints, the queue
they go through, and the calls that wait for a helper with a time limit.

A helper is given by what the runner can observe of it: its lines of output with the
times at which they are read, when it ends and with which code, and whether it ends on
the signals of `terminate`.  Any such behaviour is allowed.  Times are milliseconds, and
strings are lists of characters.  What the runner takes from Python's library on the
texts that helpers print (`json.loads`, `repr`, the comparison of two values,
`str.lower`, `json.dumps`, the encoding of a text file) is a parameter.

Main results:

- Theorem `waitForEvent_gives`: `wait_for_event` returns if and only if the first
  event of that name arrives before the time limit.
- Theorems `runCommand_gives`, `wait_gives`, `terminate_gives`: what the other calls return.
-/

namespace SctpConformance.Runner

open Library

/-! ## Values -/

/-- A Python `str`. -/
abbrev Text := List Char

/-- The values that `json.loads` builds.  A `float` keeps its literal. -/
inductive Value where
  | none
  | bool (value : Bool)
  | int (value : Int)
  | float (literal : Text)
  | str (value : Text)
  | list (items : List Value)
  | dict (members : List (Text × Value))

/-- A `dict` that a helper printed. -/
abbrev Event := List (Text × Value)

/-- `event.get(key)` -/
def Event.get (event : Event) (key : Text) : Option Value :=
  (event.find? (·.1 = key)).map (·.2)

/-- `event[key] = value` -/
def Event.set (event : Event) (key : Text) (value : Value) : Event :=
  if event.any (·.1 = key) then
    event.map fun member => if member.1 = key then (key, value) else member
  else event ++ [(key, value)]

/-- `event.get(key) == value`, where `value` is a string. -/
def Event.hasText (event : Event) (key value : Text) : Bool :=
  match event.get key with
  | some (.str text) => text = value
  | _ => false

/-- `event.get("event") == name` -/
def Event.isNamed (name : Text) (event : Event) : Bool :=
  event.hasText "event".toList name

/-- The first member with the key counts. -/
theorem Event.get_cons (member : Text × Value) (event : Event) (key : Text) :
    Event.get (member :: event) key =
      if member.1 = key then some member.2 else Event.get event key := by
  unfold Event.get
  by_cases h : member.1 = key <;> simp [h]

/-- An assignment leaves the other keys alone. -/
theorem Event.get_set_ne (event : Event) {key key' : Text} (value : Value) (h : key' ≠ key) :
    (event.set key value).get key' = event.get key' := by
  have hmap : ∀ event : Event,
      Event.get (event.map fun member => if member.1 = key then (key, value) else member) key' =
        event.get key' := by
    intro event
    induction event with
    | nil => rfl
    | cons member event ih =>
        rw [List.map_cons, Event.get_cons, Event.get_cons, ih]
        by_cases hm : member.1 = key
        · simp [hm, Ne.symm h]
        · simp [hm]
  have hend : Event.get (event ++ [(key, value)]) key' = event.get key' := by
    unfold Event.get
    simp [List.find?_append, Ne.symm h]
  unfold Event.set
  split
  · exact hmap event
  · exact hend

/-- The exceptions that reach a caller of the functions below. -/
inductive Raised where
  | osError
  | unicodeDecodeError
  | unicodeEncodeError
  | queueEmpty
  | timeoutError (message : Text)
  | timeoutExpired
  | assertionError
  | typeError
  | valueError
  | recursionError
  | runtimeError (message : Text)
deriving DecidableEq

/-- What `json.loads` does on a text. -/
inductive Loaded where
  | value (value : Value)
  | jsonDecodeError
  | raised (exception : Raised)

/-- The functions of Python's library that the runner applies to what helpers print.  A value
that is too deep for `repr` or `==` is too deep for `json.dumps`, so that a run which meets one
ends with a `RecursionError` in any case. -/
structure Python where
  loads : Text → Loaded
  repr : Value → Text
  equal : Value → Value → Bool
  lower : Text → Text
  /-- Whether a text file takes the character.  It does not take one half of a surrogate pair,
  which an escape in a JSON text can stand for. -/
  encodable : Char → Bool
  /-- Whether `asdict` and `json.dumps` get to the bottom of the value. -/
  serializable : Value → Bool
  encodable_ascii : ∀ ch, ch.toNat < 128 → encodable ch = true
  encodable_repr : ∀ value, ∀ ch ∈ repr value, encodable ch = true

/-- `list(value)` -/
def Value.toList : Value → Except Raised (List Value)
  | .list items => .ok items
  | .str text => .ok (text.map fun ch => .str [ch])
  | .dict members => .ok (members.map fun member => .str member.1)
  | _ => .error .typeError

/-- `separator.join(parts)` -/
def joinTexts (separator : Text) (parts : List Text) : Text :=
  separator.intercalate parts

/-! ## Processes -/

/-- The behaviour of a helper process, in milliseconds from its start.  A line of output
is listed with the time at which it is read, which is not later than the end of the
process. -/
structure Helper where
  stdout : List (Nat × Text)
  stderr : List Text
  /-- If there is a byte in the output that cannot be decoded: the lines that the process prints
  behind the ones that are read. -/
  undecoded : Option (List Text) := none
  /-- Whether the error output can be decoded to its end. -/
  stderrDecodes : Bool := true
  /-- When the process ends by itself, and its return code. -/
  ending : Option (Nat × Int)
  /-- Whether it has ended five seconds after `SIGTERM`. -/
  endsOnTerminate : Bool
  /-- Whether it has ended five seconds after `SIGKILL`. -/
  endsOnKill : Bool
  stdout_lines : ∀ line ∈ stdout, '\n' ∉ line.2 ∧ '\r' ∉ line.2
  stdout_ordered : (stdout.map Prod.fst).Pairwise (· ≤ ·)
  stdout_before : ∀ line ∈ stdout, ∀ last ∈ ending, line.1 ≤ last.1

/-- All lines of output, whether they are read or not. -/
def Helper.printed (helper : Helper) : List Text :=
  helper.stdout.map Prod.snd ++ helper.undecoded.getD []

/-- All that the process prints can be decoded. -/
def Helper.Decodes (helper : Helper) : Prop :=
  helper.undecoded = none ∧ helper.stderrDecodes = true

instance (helper : Helper) : Decidable helper.Decodes :=
  inferInstanceAs (Decidable (_ ∧ _))

/-- The two parts that helpers play. -/
inductive Role where
  | server
  | client
deriving DecidableEq

/-- The clock, and the helpers started so far, each with the position of its scenario
among the selected ones. -/
structure Stage where
  now : Nat
  started : List (Nat × Helper)

/-- A computation of the runner. -/
abbrev Act (α : Type) : Type :=
  Raising Raised Stage α

/-- What `subprocess.run` returns. -/
structure CompletedCommand where
  returncode : Int
  stdout : Text
  stderr : Text

/-- A Helper that has been started. -/
structure ManagedProcess where
  process : Helper
  name : Text
  startedAt : Nat

variable (py : Python)

/-- `_read_stdout`: the lines it keeps.  An exception other than a decoding error ends
the reader. -/
def readLines : List (Nat × Text) → List Text
  | [] => []
  | (_, line) :: rest =>
      match py.loads line with
      | .raised _ => [line]
      | _ => line :: readLines rest

/-- `_read_stdout`: the events it puts in the queue, with their times. -/
def readEvents : List (Nat × Text) → List (Nat × Event)
  | [] => []
  | (time, line) :: rest =>
      match py.loads line with
      | .value (.dict event) => (time, event) :: readEvents rest
      | .raised _ => []
      | _ => readEvents rest

/-- The clock moves on to a later time. -/
def waitUntil (time : Nat) : Act Unit :=
  modify fun stage => { stage with now := max stage.now time }

/-- The first lines of the loop of `wait_for_event`. -/
def checkRemaining (process : ManagedProcess) (eventName : Text) (deadline : Nat) : Act Unit := do
  let stage ← get
  if deadline ≤ stage.now then
    throw (.timeoutError (process.name ++ ": timed out waiting for ".toList ++ eventName))

/-- `queue.Empty` is raised when nothing arrives before the deadline. -/
def raiseEmpty (deadline : Nat) : Act Event := do
  waitUntil deadline
  throw .queueEmpty

/-- The loop of `wait_for_event`, on the events that are still to be taken from the
queue. -/
def awaitEvent (process : ManagedProcess) (eventName : Text) (deadline : Nat) :
    List (Nat × Event) → Act Event
  | [] => do
      checkRemaining process eventName deadline
      raiseEmpty deadline
  | (time, event) :: rest => do
      checkRemaining process eventName deadline
      if process.startedAt + time < deadline then
        waitUntil (process.startedAt + time)
        if event.isNamed eventName then
          return event
        awaitEvent process eventName deadline rest
      else
        raiseEmpty deadline

/-- `ManagedProcess.wait_for_event` -/
def ManagedProcess.waitForEvent (process : ManagedProcess) (eventName : Text) (timeout : Nat) :
    Act Event := do
  let stage ← get
  awaitEvent process eventName (stage.now + timeout) (readEvents py process.process.stdout)

/-- The events keep the times and the order of their lines. -/
theorem readEvents_sublist (lines : List (Nat × Text)) :
    ((readEvents py lines).map Prod.fst).Sublist (lines.map Prod.fst) := by
  induction lines with
  | nil => exact List.Sublist.refl _
  | cons line rest ih =>
      unfold readEvents
      split
      · exact ih.cons_cons _
      · exact List.nil_sublist _
      · exact ih.cons _

/-- Waiting does nothing but let time pass. -/
@[simp]
theorem waitUntil_gives {time : Nat} {s t : Stage} {u : Unit} :
    (waitUntil time).Gives s u t ↔ t = { s with now := max s.now time } := by
  unfold waitUntil
  exact Raising.gives_modify

/-- Time is left. -/
@[simp]
theorem checkRemaining_gives {process : ManagedProcess} {eventName : Text} {deadline : Nat}
    {s t : Stage} {u : Unit} :
    (checkRemaining process eventName deadline).Gives s u t ↔ s.now < deadline ∧ t = s := by
  unfold checkRemaining
  by_cases h : deadline ≤ s.now
  · simp [h, Nat.not_lt.mpr h]
  · simp [h, Nat.not_le.mp h]

/-- A queue that stays empty gives no event. -/
@[simp]
theorem not_gives_raiseEmpty {deadline : Nat} {s t : Stage} {event : Event} :
    ¬ (raiseEmpty deadline).Gives s event t := by
  unfold raiseEmpty
  simp

/-- The loop finds the first event of that name if it arrives in time. -/
theorem awaitEvent_gives {process : ManagedProcess} {eventName : Text} {deadline : Nat}
    {queue : List (Nat × Event)} (hordered : (queue.map Prod.fst).Pairwise (· ≤ ·))
    {s t : Stage} (hnow : s.now < deadline) {event : Event} :
    (awaitEvent process eventName deadline queue).Gives s event t ↔
      ∃ time, queue.find? (fun entry => entry.2.isNamed eventName) =
          some (time, event) ∧
        process.startedAt + time < deadline ∧
        t = { s with now := max s.now (process.startedAt + time) } := by
  induction queue generalizing s with
  | nil => simp [awaitEvent]
  | cons entry rest ih =>
      obtain ⟨first, candidate⟩ := entry
      rw [List.map_cons, List.pairwise_cons] at hordered
      unfold awaitEvent
      simp only [Raising.gives_bind, checkRemaining_gives, hnow, true_and, exists_const,
        exists_eq_left, Raising.gives_ite, not_gives_raiseEmpty, waitUntil_gives,
        Raising.gives_pure]
      by_cases hmatch : candidate.isNamed eventName
      · simp only [List.find?_cons, hmatch]
        constructor
        · intro h
          split at h
          · obtain ⟨rfl, rfl⟩ := h
            rename_i htime
            exact ⟨first, rfl, htime, rfl⟩
          · cases h
        · rintro ⟨time, hfound, htime, rfl⟩
          cases hfound
          simp [htime]
      · simp only [List.find?_cons, hmatch]
        have hlater : ∀ time, rest.find? (fun entry => entry.2.isNamed eventName) =
            some (time, event) → first ≤ time := by
          intro time hfound
          exact hordered.1 time (List.mem_map_of_mem (List.mem_of_find?_eq_some hfound))
        by_cases htime : process.startedAt + first < deadline
        · have hnext := ih hordered.2
            (s := { s with now := max s.now (process.startedAt + first) })
            (Nat.max_lt.mpr ⟨hnow, htime⟩)
          simp only [htime, if_true, hnext, Nat.max_assoc, Nat.add_max_add_left]
          refine exists_congr fun time => and_congr_right fun hfound => ?_
          rw [Nat.max_eq_right (hlater time hfound)]
        · simp only [htime, if_false, false_iff]
          rintro ⟨time, hfound, htime', -⟩
          have := hlater time hfound
          omega

/-- `wait_for_event` returns the first event of that name, if it arrives before the time
limit. -/
theorem waitForEvent_gives {process : ManagedProcess} {eventName : Text} {timeout : Nat}
    (htimeout : 0 < timeout) {s t : Stage} {event : Event} :
    (process.waitForEvent py eventName timeout).Gives s event t ↔
      ∃ time, (readEvents py process.process.stdout).find?
          (fun entry => entry.2.isNamed eventName) = some (time, event) ∧
        process.startedAt + time < s.now + timeout ∧
        t = { s with now := max s.now (process.startedAt + time) } := by
  have hordered := (process.process.stdout_ordered).sublist
    (readEvents_sublist py process.process.stdout)
  unfold ManagedProcess.waitForEvent
  rw [Raising.gives_get_bind]
  exact awaitEvent_gives hordered (by omega)

/-- The result of `ManagedProcess.wait`: the lines that were read. -/
def Helper.awaited (helper : Helper) (code : Int) : CompletedCommand where
  returncode := code
  stdout := joinTexts "\n".toList (readLines py helper.stdout)
  stderr := joinTexts "\n".toList helper.stderr

/-- `ManagedProcess.wait` -/
def ManagedProcess.wait (process : ManagedProcess) (timeout : Nat) : Act CompletedCommand := do
  let stage ← get
  match process.process.ending with
  | some (time, code) =>
      if process.startedAt + time < stage.now + timeout then
        waitUntil (process.startedAt + time)
        return process.process.awaited py code
      waitUntil (stage.now + timeout)
      throw .timeoutExpired
  | none =>
      waitUntil (stage.now + timeout)
      throw .timeoutExpired

/-- `wait` returns the lines that were read if the process ends before the time limit. -/
theorem wait_gives {process : ManagedProcess} {timeout : Nat} {s t : Stage}
    {completed : CompletedCommand} :
    (process.wait py timeout).Gives s completed t ↔
      ∃ time code, process.process.ending = some (time, code) ∧
        process.startedAt + time < s.now + timeout ∧
        completed = process.process.awaited py code ∧
        t = { s with now := max s.now (process.startedAt + time) } := by
  unfold ManagedProcess.wait
  rw [Raising.gives_get_bind]
  rcases process.process.ending with _ | ⟨time, code⟩
  · simp
  · by_cases htime : process.startedAt + time < s.now + timeout
    · simp [htime, and_assoc, and_comm]
    · simp [htime]

/-- `ManagedProcess.terminate` -/
def ManagedProcess.terminate (process : ManagedProcess) : Act Unit := do
  let stage ← get
  let running := match process.process.ending with
    | some (time, _) => decide (stage.now < process.startedAt + time)
    | none => true
  if running && !process.process.endsOnTerminate && !process.process.endsOnKill then
    throw .timeoutExpired

/-- A process that has ended needs no signal. -/
theorem terminate_gives {process : ManagedProcess} {s t : Stage} {u : Unit} {time : Nat}
    {code : Int} (hending : process.process.ending = some (time, code))
    (htime : process.startedAt + time ≤ s.now) :
    process.terminate.Gives s u t ↔ t = s := by
  unfold ManagedProcess.terminate
  simp [hending, Nat.not_lt.mpr htime]

/-! ## Executors -/

/-- The helper of a scenario has been started. -/
def recordStart (index : Nat) (helper : Helper) : Act Unit :=
  modify fun stage => { stage with started := stage.started ++ [(index, helper)] }

/-- The result of `subprocess.run` with `capture_output`. -/
def Helper.captured (helper : Helper) (code : Int) : CompletedCommand where
  returncode := code
  stdout := helper.stdout.flatMap fun line => line.2 ++ "\n".toList
  stderr := helper.stderr.flatMap fun line => line ++ "\n".toList

/-- `LocalExecutor.run` and `RemoteExecutor.run` of a helper, with a time limit.  The output is
decoded when the process has ended. -/
def runCommand (index : Nat) (helper : Helper) (timeout : Nat) : Act CompletedCommand := do
  let stage ← get
  recordStart index helper
  match helper.ending with
  | some (time, code) =>
      if time < timeout then
        waitUntil (stage.now + time)
        if helper.Decodes then
          return helper.captured code
        throw .unicodeDecodeError
      waitUntil (stage.now + timeout)
      throw .timeoutExpired
  | none =>
      waitUntil (stage.now + timeout)
      throw .timeoutExpired

/-- The command returns if its process ends before the time limit and its output can be
decoded. -/
theorem runCommand_gives {index : Nat} {helper : Helper} {timeout : Nat} {s t : Stage}
    {completed : CompletedCommand} :
    (runCommand index helper timeout).Gives s completed t ↔
      ∃ time code, helper.ending = some (time, code) ∧ time < timeout ∧ helper.Decodes ∧
        completed = helper.captured code ∧
        t = { now := s.now + time, started := s.started ++ [(index, helper)] } := by
  unfold runCommand recordStart
  rw [Raising.gives_get_bind]
  rcases helper.ending with _ | ⟨time, code⟩
  · simp
  · by_cases htime : time < timeout
    · by_cases hdecodes : helper.Decodes
      · simp [htime, hdecodes, and_assoc, and_comm]
      · simp [htime, hdecodes]
    · simp [htime]

/-- `LocalExecutor.spawn` and `RemoteExecutor.spawn` of a helper. -/
def spawn (index : Nat) (helper : Helper) (name : Text) : Act ManagedProcess := do
  let stage ← get
  recordStart index helper
  return { process := helper, name := name, startedAt := stage.now }

/-- A Helper starts now, and the start is recorded. -/
theorem spawn_gives {index : Nat} {helper : Helper} {name : Text} {s t : Stage}
    {process : ManagedProcess} :
    (spawn index helper name).Gives s process t ↔
      process = { process := helper, name := name, startedAt := s.now } ∧
        t = { s with started := s.started ++ [(index, helper)] } := by
  unfold spawn recordStart
  simp [and_comm]

end SctpConformance.Runner
