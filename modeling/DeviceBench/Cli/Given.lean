/-
What the words of one level of the command line have given so far. Each value is read when it is
given, so a value that stands here has the form that its parameter asks for.
-/
import DeviceBench.Cli.Parameter
import DeviceBench.Cli.Request
import DeviceBench.Frequency.Table

namespace DeviceBench.Cli

/-- The values given so far. -/
structure Given where
  config : Option String := none
  captureLog : Option String := none
  csv : Option String := none
  column : Option Nat := none
  quiet : Bool := false
  current : Option String := none
  expected : Option String := none
  exclude : Option String := none
  mask : Option String := none
  width : Option Nat := none
  duration : Option Duration := none
  analyse : Bool := false
  name : Option ScenarioName := none
  threads : Option Scenario.Layout := none
  addressing : Option Scenario.Addressing := none
  deriving DecidableEq, Repr

/-! ## Values -/

/-- The names of the scenarios. -/
def scenarioChoices : List (String × ScenarioName) :=
  [("reset", .reset), ("abort", .abort), ("abort-single", .abortSingle), ("flow", .flow)]

/-- The names of the layouts. -/
def layoutChoices : List (String × Scenario.Layout) := [("8", .eight), ("32", .thirtyTwo)]

/-- The names of the ways to address a thread. -/
def addressingChoices : List (String × Scenario.Addressing) := [("decimal", .decimal), ("hex", .hex)]

/-- A path is any text but the empty one. -/
def readPath (p : Parameter) (value : String) : Except Fault String :=
  if value.isEmpty then .error (.noValue p) else .ok value

/-- One of the values that have names. -/
def readChoice {α : Type} (choices : List (String × α)) (p : Parameter) (value : String) :
    Except Fault α :=
  match choices.lookup value with
  | some a => .ok a
  | none => .error (if value.isEmpty then .noValue p else .noChoice value p)

/-- A number of 64 bits. -/
def readWord (p : Parameter) (value : String) : Except Fault Nat :=
  match Text.readUnsigned 10 Text.maxWord value.toList with
  | .ok n => .ok n
  | .error fault => .error (.badValue value p (.numeral fault))

/-- The greatest number of 32 bits. -/
def maxWidth : Nat := 4294967295

/-- A number of 32 bits. It is read as a signed number of 64 bits and then has to be in range. -/
def readWidth (p : Parameter) (value : String) : Except Fault Nat :=
  match Text.readSigned 9223372036854775807 value.toList with
  | .error fault => .error (.badValue value p (.numeral fault))
  | .ok n =>
    if 0 ≤ n ∧ n ≤ maxWidth then .ok n.toNat else .error (.badValue value p (.outside n maxWidth))

/-- A span of time in seconds. -/
def readSeconds (p : Parameter) (value : String) : Except Fault Duration :=
  match Duration.parse value with
  | .ok d => .ok d
  | .error fault => .error (.badValue value p (.duration fault))

namespace Given

/-- A parameter has been given. -/
def has (g : Given) : Parameter → Bool
  | .config => g.config.isSome
  | .captureLog => g.captureLog.isSome
  | .csv => g.csv.isSome
  | .column => g.column.isSome
  | .quiet => g.quiet
  | .current => g.current.isSome
  | .expected => g.expected.isSome
  | .exclude => g.exclude.isSome
  | .mask => g.mask.isSome
  | .width => g.width.isSome
  | .duration => g.duration.isSome
  | .analyse => g.analyse
  | .name => g.name.isSome
  | .threads => g.threads.isSome
  | .addressing => g.addressing.isSome
  | .help | .version => false

/-- What is given once the value of a parameter is read; a flag has no value to read. -/
def read (g : Given) (value : String) (p : Parameter) : Except Fault Given :=
  match p with
  | .config => (readPath p value).map fun v => { g with config := some v }
  | .captureLog => (readPath p value).map fun v => { g with captureLog := some v }
  | .csv => (readPath p value).map fun v => { g with csv := some v }
  | .column => (readWord p value).map fun v => { g with column := some v }
  | .quiet => .ok { g with quiet := true }
  | .current => (readPath p value).map fun v => { g with current := some v }
  | .expected => (readPath p value).map fun v => { g with expected := some v }
  | .exclude => .ok { g with exclude := some value }
  | .mask => .ok { g with mask := some value }
  | .width => (readWidth p value).map fun v => { g with width := some v }
  | .duration => (readSeconds p value).map fun v => { g with duration := some v }
  | .analyse => .ok { g with analyse := true }
  | .name => (readChoice scenarioChoices p value).map fun v => { g with name := some v }
  | .threads => (readChoice layoutChoices p value).map fun v => { g with threads := some v }
  | .addressing => (readChoice addressingChoices p value).map fun v => { g with addressing := some v }
  | .help => .error .help
  | .version => .error .version

/-- Gives a parameter a value, which can be done only once. -/
def give (g : Given) (p : Parameter) (value : String) : Except Fault Given :=
  if g.has p then .error (.repeated p) else g.read value p

/-! ## Commands -/

/-- How long a capture takes if nothing is said about it. -/
def defaultDuration : Duration := .of 1 0

/-- How wide a mask is if nothing is said about it. -/
def defaultWidth : Nat := 32

/-- The command that the given values make, unless one is missing that has no default. -/
def command? (g : Given) : Subcommand → Option Command
  | .frequency => do
    return .frequency (← g.csv) (g.column.getD FrequencyTable.defaultColumn) g.quiet
  | .compare => do return .compare (← g.current) (← g.expected) g.exclude
  | .bits => do return .bits (← g.mask) (g.width.getD defaultWidth)
  | .snoop => do
    return .snoop (← g.csv) (g.duration.getD defaultDuration) g.analyse
      (g.column.getD FrequencyTable.defaultColumn)
  | .scenario => do
    return .scenario (← g.name) (g.threads.getD .eight) (g.addressing.getD .decimal)

end Given

end DeviceBench.Cli
