/-
Running command lines. Every run leaves exactly one entry in the log, also when it is then rejected
or never started; what ran in the background is recorded when its end is noticed.
-/
import DeviceBench.World

namespace DeviceBench

namespace Runner

/-- A command line that cannot be started. -/
def refuse {α : Type} (command : CommandLine) (cause : OsError) : Action α := do
  modify fun w => (w.record command (.spawnFailed cause.message)).settle
  throw (.spawn command cause)

/-- Runs a command line to its end and checks it. -/
def run (i : Invocation) : Action Captured := do
  match ← modifyGet fun w => w.start i.command with
  | .refused cause => refuse i.command cause
  | .ran stdout stderr ending =>
    let captured : Captured := ⟨Text.splitLines stdout, Text.splitLines stderr, ending.code⟩
    modify fun w => (w.record i.command captured.outcome).settle
    Action.ofExcept (i.check captured)
    return captured

/-- Runs a command line and keeps the lines of its output. -/
def stdout (i : Invocation) : Action (List String) := do return (← run i).stdout

/-! ## Shell commands that write to a file -/

/-- A shell command with the codes that it may end with. -/
def shellInvocation (text : String) (allowed : List Int32) : Invocation :=
  ⟨.shell text, allowed, none, none⟩

/-- Creates the file and starts a shell command that writes its output there. What is captured is
its standard error only. -/
def startShell (i : Invocation) (path : String) : Action Captured := do
  let number ← Action.onFiles path fun files => files.create path
  match ← modifyGet fun w => w.start i.command with
  | .refused cause => refuse i.command cause
  | .ran stdout stderr ending =>
    modify fun w => { w with files := w.files.write number 0 stdout }
    return ⟨[], Text.splitLines stderr, ending.code⟩

/-- Runs a shell command to its end with its output written to a file. -/
def runShellToFile (text path : String) (allowed : List Int32) : Action Captured := do
  let i := shellInvocation text allowed
  let captured ← startShell i path
  modify fun w => (w.record i.command captured.outcome).settle
  Action.ofExcept (i.check captured)
  return captured

/-- Starts a shell command with its output written to a file, runs an action, and waits for the
command. Its own failure comes before that of the action. -/
def withShellToFile {α : Type} (text path : String) (allowed : List Int32) (action : Action α) :
    Action α := do
  let i := shellInvocation text allowed
  let captured ← startShell i path
  let id ← modifyGet fun w => w.addBackground i.command captured
  let result ← action.outcomeOf
  modify fun w => w.join id
  Action.ofExcept (i.check captured)
  Action.ofExcept result

end Runner

end DeviceBench
