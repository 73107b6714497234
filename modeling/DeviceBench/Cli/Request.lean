/-
What the command line can ask for.
-/
import DeviceBench.Duration
import DeviceBench.Scenario.Layout

namespace DeviceBench.Cli

/-- A scenario that can be asked for by name. -/
inductive ScenarioName where
  | reset
  | abort
  | abortSingle
  | flow
  deriving DecidableEq, Repr

/-- What the program is to do. -/
inductive Command where
  /-- Show the frequency table of a capture file, or only its counts. -/
  | frequency (csv : String) (column : Nat) (quiet : Bool)
  /-- Compare a result file with an expected file. -/
  | compare (current expected : String) (exclude : Option String)
  /-- Show the indices that a mask selects. -/
  | bits (mask : String) (width : Nat)
  /-- Capture timing messages into a file, and show their frequency table if wanted. -/
  | snoop (csv : String) (duration : Duration) (analyse : Bool) (column : Nat)
  /-- Run a scenario. -/
  | scenario (name : ScenarioName) (layout : Scenario.Layout) (addressing : Scenario.Addressing)
  deriving DecidableEq, Repr

/-- A command with the configuration file and the journal of the capture log that it may use. -/
structure Request where
  config : Option String
  captureLog : Option String
  command : Command
  deriving DecidableEq, Repr

end DeviceBench.Cli
