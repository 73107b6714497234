/-
The program: what a request does to the world, what it prints and the code that it ends with. Code 0
means that all went well, 1 that a comparison, a scenario or anything else failed, and 2 that the
command line makes no request.
-/
import DeviceBench.Bench
import DeviceBench.Cli.Arguments
import DeviceBench.ConfigFile
import DeviceBench.Scenario.Abort
import DeviceBench.Scenario.Flow
import DeviceBench.Selector
import DeviceBench.Snoop

namespace DeviceBench.Cli

/-- The code that the program ends with and what it printed. -/
structure Report where
  code : UInt32
  stdout : String
  stderr : String
  deriving DecidableEq, Repr

namespace Report

/-- All went well. -/
def success (stdout : String) : Report := ⟨0, stdout, ""⟩

/-- The error of a message and the refusal of the system that caused it. -/
def error (message : String) (cause : Option OsError) : Report :=
  let causeText := match cause with
    | none => ""
    | some cause => "\n\nCaused by:\n    " ++ cause.message
  ⟨1, "", "Error: " ++ message ++ causeText ++ "\n"⟩

/-- The report of a failure. -/
def ofFailure (f : Failure) : Report := error f.message f.cause?

/-- The report of a command line that makes no request. -/
def ofFault (fault : Fault) : Report :=
  if fault.isError then ⟨2, "", fault.message ++ "\n"⟩ else ⟨0, fault.message ++ "\n", ""⟩

end Report

/-! ## Commands that only read -/

/-- A frequency table after an empty line. -/
def shownTable (t : FrequencyTable) : String := "\n" ++ t.render

/-- The values of a table with their counts. -/
def shownCounts (t : FrequencyTable) : String :=
  String.join (t.counts.map fun (value, n) => value ++ s!" {n}\n")

/-- Shows the frequency table of a file. -/
def frequencyReport (files : Files) (csv : String) (column : Nat) (quiet : Bool) :
    Except Failure Report := do
  let table ← Bench.tableOf files csv column
  return .success (if quiet then shownCounts table else shownTable table)

/-- The rules of a configuration file, or those for painted nodes. -/
def rulesOf (files : Files) : Option String → Except Failure RuleSet
  | some path => do (← ConfigFile.load files path).ruleSet
  | none => .ok .paintedNodes

/-- Compares two files; that they differ is no error. -/
def compareReport (files : Files) (config : Option String) (current expected : String)
    (exclude : Option String) : Except Failure Report := do
  let rules ← rulesOf files config
  match Golden.compareFiles files rules current expected exclude with
  | .ok () => return .success ""
  | .error (.goldenMismatch _ diff) => return ⟨1, diff, ""⟩
  | .error f => throw f

/-- Shows the indices that a mask selects. -/
def bitsReport (mask : String) (width : Nat) : Except Failure Report := do
  let s ← Selector.parse mask width
  return .success (String.intercalate " " (s.indices.map toString) ++ "\n")

/-! ## Commands that use the device -/

/-- The settings for a request. -/
def settings (env : Environment) (files : Files) : Option String → Except Failure Config
  | some path => Config.ofFile env files path
  | none => Config.ofEnvironment env files

/-- Captures timing messages and shows their table if wanted. -/
def snoopAction (csv : String) (d : Duration) (analyse : Bool) (column : Nat) (c : Config) :
    Action Report := do
  Snoop.toFile c csv d
  if analyse then return .success (shownTable (← Bench.analyse csv column))
  else return .success ""

/-- The steps of a scenario. -/
def stepsOf (layout : Scenario.Layout) (addressing : Scenario.Addressing) (c : Config) :
    ScenarioName → List Scenario.Step
  | .reset => Scenario.resetSteps c Scenario.processors
  | .abort => Scenario.abortSteps c layout
  | .abortSingle => Scenario.abortSingleSteps c layout addressing
  | .flow => Scenario.allFlowSteps c

/-- Runs steps; if one fails, all that ran is shown before the failure. -/
def scenarioAction (c : Config) (steps : List Scenario.Step) : Action Report := do
  match ← (Scenario.runSteps c steps).outcomeOf with
  | .ok () => return .success "ok\n"
  | .error f =>
    let history := ((← get).log.map CaptureLog.transcript).getD ""
    return ⟨1, "", history ++ "FAILED: " ++ f.message ++ "\n"⟩

/-- The world with the log that a request wants. -/
def withLogFor (w : World) : Option String → Except OsError World
  | some path => w.withJournaledLog path
  | none => .ok w.withLog

/-- Runs an action on the device with the settings and the log of a request. -/
def onDevice (env : Environment) (r : Request) (action : Config → Action Report) (w : World) :
    Report × World :=
  match settings env w.files r.config with
  | .error f => (.ofFailure f, w)
  | .ok c =>
    match withLogFor w r.captureLog with
    | .error cause =>
      (.error ("cannot create capture log " ++ r.captureLog.getD "") (some cause), w)
    | .ok w =>
      match (action c).run.run w with
      | (.ok report, w) => (report, w)
      | (.error f, w) => (.ofFailure f, w)

/-! ## Requests -/

/-- The report of a command that leaves the world as it is. -/
def reading (result : Except Failure Report) (w : World) : Report × World :=
  match result with
  | .ok report => (report, w)
  | .error f => (.ofFailure f, w)

/-- What a request reports, and the world after it. -/
def perform (env : Environment) (r : Request) (w : World) : Report × World :=
  match r.command with
  | .frequency csv column quiet => reading (frequencyReport w.files csv column quiet) w
  | .compare current expected exclude =>
    reading (compareReport w.files r.config current expected exclude) w
  | .bits mask width => reading (bitsReport mask width) w
  | .snoop csv d analyse column => onDevice env r (snoopAction csv d analyse column) w
  | .scenario name layout addressing =>
    onDevice env r (fun c => scenarioAction c (stepsOf layout addressing c name)) w

/-- What a command line reports, and the world after it. -/
def run (env : Environment) (words : List String) (w : World) : Report × World :=
  match parse (env.shown? Environment.configFileVariable) words with
  | .error fault => (.ofFault fault, w)
  | .ok request => perform env request w

end DeviceBench.Cli
