/-
The world of a test case: files, the device, the capture log, the captures that still run in the
background, and the waits. An action changes the world and ends with a value or a failure; the changes of a failed
action stay.
-/
import DeviceBench.Capture.Log
import DeviceBench.Device
import DeviceBench.Duration
import DeviceBench.Files
import DeviceBench.Invocation
import DeviceBench.Text.Lines

namespace DeviceBench

/-- A file that stays open for writing: its number and where the next byte goes. -/
structure OpenFile where
  number : Nat
  offset : Nat
  deriving DecidableEq, Repr

/-- A capture that runs in the background: its number, what ran and what came of it, and after how
many more runs of others its end is noticed. -/
structure BackgroundCapture where
  id : Nat
  command : CommandLine
  captured : Captured
  due : Nat
  deriving DecidableEq, Repr

/-- Everything that a test case can reach. -/
structure World where
  files : Files
  device : Device
  /-- The command lines started so far, oldest first. -/
  started : List CommandLine
  log : Option CaptureLog
  /-- The journal file of the log. -/
  journal : Option OpenFile
  clock : ClockReading
  background : List BackgroundCapture
  /-- How many runs of others go before the end of a background capture is noticed. -/
  captureLag : Nat
  /-- The waits so far, oldest first, each with how many command lines had been started. -/
  waits : List (Nat × Duration)

/-- A change of the world that ends with a value or a failure. -/
abbrev Action (α : Type) := ExceptT Failure (StateM World) α

namespace World

/-- A world without a log in which nothing has been started. -/
def of (files : Files) (device : Device) (clock : ClockReading) : World :=
  ⟨files, device, [], none, none, clock, [], 1, []⟩

/-- The world with a log in memory. -/
def withLog (w : World) : World := { w with log := some (.empty false), journal := none }

/-- The world with a log that is kept in a new journal file. -/
def withJournaledLog (w : World) (path : String) : Except OsError World :=
  (w.files.create path).map fun (number, files) =>
    { w with files, log := some (.empty true), journal := some ⟨number, 0⟩ }

/-- Writes bytes to the journal, if there is one. -/
def writeJournal (w : World) (bytes : Bytes) : World :=
  match w.journal with
  | none => w
  | some f =>
    { w with
      files := w.files.write f.number f.offset bytes
      journal := some ⟨f.number, f.offset + bytes.length⟩ }

/-- Records how a run ended, if there is a log. -/
def record (w : World) (command : CommandLine) (outcome : Outcome) : World :=
  match w.log with
  | none => w
  | some log =>
    let entry := log.nextEntry w.clock command outcome
    { w.writeJournal (Text.encode (CaptureLog.journalLine entry)) with
      log := some (log.record w.clock command outcome).2 }

/-- Starts a command line on the device. -/
def start (w : World) (command : CommandLine) : Answer × World :=
  (w.device w.files w.started command, { w with started := w.started ++ [command] })

/-! ## Background captures -/

/-- The background captures after a run of another: those that are due are recorded. -/
def settleFrom (w : World) : List BackgroundCapture → World
  | [] => { w with background := [] }
  | b :: bs =>
    if b.due = 0 then (w.record b.command b.captured.outcome).settleFrom bs
    else
      let w := w.settleFrom bs
      { w with background := { b with due := b.due - 1 } :: w.background }

/-- Records the background captures that are due and brings the others nearer. -/
def settle (w : World) : World := w.settleFrom w.background

/-- Leaves a capture to run in the background. Without a lag its end is noticed at once. -/
def addBackground (w : World) (command : CommandLine) (captured : Captured) : Nat × World :=
  let id := w.started.length
  match w.captureLag with
  | 0 => (id, w.record command captured.outcome)
  | lag + 1 => (id, { w with background := w.background ++ [⟨id, command, captured, lag⟩] })

/-- Waits for a background capture: if its end has not been noticed yet, it is recorded now. -/
def join (w : World) (id : Nat) : World :=
  match w.background.find? (·.id == id) with
  | none => w
  | some b =>
    { w with background := w.background.filter (·.id != id) }.record b.command b.captured.outcome

end World

namespace Action

/-- What an action comes to, as a value: a failure in it is not passed on. -/
def outcomeOf {α : Type} (action : Action α) : Action (Except Failure α) :=
  ExceptT.mk do
    let result ← action.run
    return .ok result

/-- A step that cannot change the world. -/
def ofExcept {α : Type} (result : Except Failure α) : Action α := ExceptT.mk (pure result)

/-- The files as they are now. -/
def files : Action Files := do return (← get).files

/-- Changes the files at a path. -/
def onFiles {α : Type} (path : String) (change : Files → Except OsError (α × Files)) : Action α := do
  match change (← files) with
  | .error cause => throw (.file path cause)
  | .ok (a, files) =>
    modify fun w => { w with files }
    return a

end Action

end DeviceBench
