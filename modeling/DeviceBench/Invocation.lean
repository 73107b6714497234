/-
Invocations: a command line and what counts as success, and the check of a finished run.
-/
import DeviceBench.Failure

namespace DeviceBench

/-- What a finished process left behind. -/
structure Captured where
  stdout : List String
  stderr : List String
  code : Int32
  deriving DecidableEq, Repr

/-- The outcome that the log keeps of a finished process. -/
def Captured.outcome (c : Captured) : Outcome := .completed c.code c.stdout c.stderr

/-- A command line, the codes it may end with, and how many lines it has to write if that is
checked. -/
structure Invocation where
  command : CommandLine
  allowed : List Int32
  stdoutLines : Option Nat
  stderrLines : Option Nat
  deriving DecidableEq, Repr

namespace Invocation

/-- A program and its arguments; it has to end with code zero. -/
def of (program : String) (args : List String) : Invocation := ⟨⟨program, args⟩, [0], none, none⟩

/-- A program that takes the device as its first argument. -/
def onDevice (program device : String) (args : List String) : Invocation := of program (device :: args)

/-- The same with exactly so many lines on both streams. -/
def expectLines (i : Invocation) (stdout stderr : Nat) : Invocation :=
  { i with stdoutLines := some stdout, stderrLines := some stderr }

/-- A stream has the expected number of lines, if that is checked. -/
def checkStream (i : Invocation) (c : Captured) (stream : Stream) (expected : Option Nat)
    (lines : List String) : Except Failure Unit :=
  match expected with
  | none => .ok ()
  | some n =>
    if n = lines.length then .ok ()
    else .error (.outputShape i.command stream n lines.length c.stdout c.stderr)

/-- A finished run meets the expectations: the code first, then standard error, then standard
output. -/
def check (i : Invocation) (c : Captured) : Except Failure Unit := do
  if !i.allowed.contains c.code then
    throw (.returnCode i.command c.code i.allowed c.stdout c.stderr)
  i.checkStream c .stderr i.stderrLines c.stderr
  i.checkStream c .stdout i.stdoutLines c.stdout

end Invocation

end DeviceBench
