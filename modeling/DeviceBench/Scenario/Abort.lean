/-
Scenarios about running and aborted threads: after a reset no thread runs; of all threads started
the odd ones below eight are aborted on two processors; each thread is aborted alone.
-/
import DeviceBench.Scenario.Step
import DeviceBench.Selector

namespace DeviceBench.Scenario

/-- The mask of all processors. -/
def allProcessors : String := "0xf"

/-- The processors of which threads are aborted, as a mask. -/
def abortedProcessors : String := "0x3"

/-- The threads that are aborted, as a mask. -/
def abortedThreads : String := "0xaa"

/-- The indices that a mask selects below a width. -/
def selected (mask : String) (width : Nat) : List Nat :=
  match Selector.parse mask width with
  | .ok s => s.indices
  | .error _ => []

/-- Every processor reports the threads that run, one line each. -/
def runningStep (c : Config) (cpus : Nat) (mask : Nat → String) : Step :=
  ⟨(c.command ["-c", allProcessors, "running"]).expectLines cpus 0,
    .lines cpus fun cpu => runningLine cpu (mask cpu), .zero⟩

/-- After a reset no thread of so many processors runs. -/
def resetSteps (c : Config) (cpus : Nat) : List Step :=
  [call c.resetCall, runningStep c cpus fun _ => "0x0"]

/-- The schedule with the patterns of a processor. -/
def scheduleOf (cpu : Nat) : String := s!"pps-all-threads-cpu{cpu}.dot"

/-- Every thread of every processor is started, thread by thread. -/
def startSteps (c : Config) (layout : Layout) : List Step :=
  (List.range layout.threads).flatMap fun thread =>
    (List.range processors).map fun cpu =>
      call <| c.command
        ["startpattern", threadPattern (UInt32.ofNat cpu) (UInt32.ofNat thread), "-t",
          toString thread]

/-- The lines that report the aborted threads, processor by processor. -/
def abortedLines (layout : Layout) : List String :=
  (selected abortedProcessors processors).flatMap fun cpu =>
    (selected abortedThreads layout.threads).map fun thread => abortedLine cpu thread

/-- The abort of the selected threads and its report. -/
def abortStep (c : Config) (layout : Layout) : Step :=
  let lines := abortedLines layout
  ⟨(c.command ["-c", abortedProcessors, "-t", abortedThreads, "abort"]).expectLines lines.length 0,
    .lines lines.length fun index => lines[index]?.getD "", .zero⟩

/-- The threads of a processor that run after the abort. -/
def maskAfterAbort (layout : Layout) (cpu : Nat) : String :=
  if (selected abortedProcessors processors).contains cpu then layout.afterAbort
  else layout.allRunning

/-- All threads are started and some aborted; the report and the threads that are left are as they
have to be. -/
def abortSteps (c : Config) (layout : Layout) : List Step :=
  resetSteps c processors ++
    (List.range processors).map (fun cpu => call (c.addCall (scheduleOf cpu))) ++
    startSteps c layout ++
    [ runningStep c processors fun _ => layout.allRunning,
      abortStep c layout,
      runningStep c processors (maskAfterAbort layout) ]

/-- One thread is aborted: one line of output and none of errors. -/
def abortSingleStep (c : Config) (cpu : Nat) (thread : String) : Step :=
  call ((c.command ["-c", toString cpu, "-t", thread, "abort"]).expectLines 1 0)

/-- After a reset each thread of each processor is aborted alone. -/
def abortSingleSteps (c : Config) (layout : Layout) (addressing : Addressing) : List Step :=
  call c.resetCall ::
    (List.range processors).flatMap fun cpu =>
      (List.range layout.threads).map fun thread =>
        abortSingleStep c cpu (addressing.address (UInt32.ofNat thread))

end DeviceBench.Scenario
