/-
What a test case does besides running programs: comparing results with expected files, analysing
captures, removing files and waiting.
-/
import DeviceBench.Frequency.Table
import DeviceBench.Golden
import DeviceBench.Runner
import DeviceBench.Config

namespace DeviceBench.Bench

/-- Halts the device, clears it and resets its statistics. -/
def reset (c : Config) : Action Unit := do discard <| Runner.run c.resetCall

/-- Compares output with a file in the schedules directory. -/
def compareOutput (c : Config) (output : List String) (expected : String)
    (options : CompareOptions) : Action Unit := do
  Action.ofExcept (Golden.compareOutput (← Action.files) c.rules output (c.schedule expected) options)

/-- Compares a result file with an expected file. -/
def compareFiles (c : Config) (current expected : String) (exclude : Option String) :
    Action Unit := do
  Action.ofExcept (Golden.compareFiles (← Action.files) c.rules current expected exclude)

/-- The frequency table of a capture file. A directory can be opened, but not its first row. -/
def tableOf (files : Files) (path : String) (column : Nat) : Except Failure FrequencyTable :=
  match files.read path with
  | .ok bytes => FrequencyTable.ofBytes bytes column
  | .error .isDirectory => .error (.malformedRow 1 (.unreadable .isDirectory))
  | .error cause => .error (.file path cause)

/-- Analyses a capture file. -/
def analyse (path : String) (column : Nat) : Action FrequencyTable := do
  Action.ofExcept (tableOf (← Action.files) path column)

/-- Removes a file; one that is not there needs no removal. -/
def deleteFile (path : String) : Action Unit :=
  Action.onFiles path fun files =>
    match files.remove path with
    | .ok files => .ok ((), files)
    | .error .notFound => .ok ((), files)
    | .error cause => .error cause

/-- Waits. -/
def delay (d : Duration) : Action Unit :=
  modify fun w => { w with waits := w.waits ++ [(w.started.length, d)] }

/-- Waits if there is something to wait for. -/
def pause (d : Duration) : Action Unit := unless d.isZero do delay d

end DeviceBench.Bench
