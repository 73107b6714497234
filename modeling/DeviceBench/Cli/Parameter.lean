/-
The parameters of the command line: which subcommand takes which, how each is written and shown, and
what can be wrong with a command line.
-/
import DeviceBench.Duration
import DeviceBench.Text.Terminal

namespace DeviceBench.Cli

/-! ## Parameters -/

/-- Everything that a command line can give. -/
inductive Parameter where
  | config
  | captureLog
  | help
  | version
  | csv
  | column
  | quiet
  | current
  | expected
  | exclude
  | mask
  | width
  | duration
  | analyse
  | name
  | threads
  | addressing
  deriving DecidableEq, Repr

namespace Parameter

/-- The word after the two dashes of an option. -/
def long? : Parameter → Option String
  | config => some "config"
  | captureLog => some "capture-log"
  | help => some "help"
  | version => some "version"
  | column => some "column"
  | quiet => some "quiet"
  | exclude => some "exclude"
  | width => some "width"
  | duration => some "duration"
  | analyse => some "analyse"
  | threads => some "threads"
  | addressing => some "notation"
  | csv | current | expected | mask | name => none

/-- The letter after the dash of an option. -/
def short? : Parameter → Option Char
  | help => some 'h'
  | version => some 'V'
  | quiet => some 'q'
  | _ => none

/-- Options without a value. -/
def isFlag : Parameter → Bool
  | help | version | quiet | analyse => true
  | _ => false

/-- What stands for the value of a parameter. -/
def placeholder : Parameter → String
  | config => "<CONFIG>"
  | captureLog => "<CAPTURE_LOG>"
  | csv => "<CSV>"
  | column => "<COLUMN>"
  | current => "<CURRENT>"
  | expected => "<EXPECTED>"
  | exclude => "<EXCLUDE>"
  | mask => "<MASK>"
  | width => "<WIDTH>"
  | duration => "<DURATION>"
  | name => "<NAME>"
  | threads => "<THREADS>"
  | addressing => "<NOTATION>"
  | help | version | quiet | analyse => ""

/-- How a message shows a parameter. -/
def shown (p : Parameter) : String :=
  match p.long? with
  | none => p.placeholder
  | some word => if p.isFlag then "--" ++ word else "--" ++ word ++ " " ++ p.placeholder

end Parameter

/-! ## Subcommands -/

/-- The subcommands. -/
inductive Subcommand where
  | frequency
  | compare
  | bits
  | snoop
  | scenario
  deriving DecidableEq, Repr

/-- The subcommand with a name. -/
def Subcommand.ofName? : String → Option Subcommand
  | "frequency" => some .frequency
  | "compare" => some .compare
  | "bits" => some .bits
  | "snoop" => some .snoop
  | "scenario" => some .scenario
  | _ => none

/-- The word that asks for help on subcommands. -/
def helpWord : String := "help"

/-- The parameters of a subcommand that are known by their place, in order. -/
def Subcommand.positionals : Subcommand → List Parameter
  | frequency => [.csv]
  | compare => [.current, .expected]
  | bits => [.mask]
  | snoop => [.csv]
  | scenario => [.name]

/-- The options of a subcommand; those for configuration, capture log and help go with each. -/
def Subcommand.options : Subcommand → List Parameter
  | frequency => [.column, .quiet, .config, .captureLog, .help]
  | compare => [.exclude, .config, .captureLog, .help]
  | bits => [.width, .config, .captureLog, .help]
  | snoop => [.duration, .analyse, .column, .config, .captureLog, .help]
  | scenario => [.threads, .addressing, .config, .captureLog, .help]

/-- The options before a subcommand. -/
def topOptions : List Parameter := [.config, .captureLog, .help, .version]

/-! ## Faults -/

/-- Why a value is refused. -/
inductive ValueFault where
  | numeral (fault : Text.NumeralFault)
  | outside (value limit : Int)
  | duration (fault : Duration.Fault)
  deriving DecidableEq, Repr

/-- The words for a refused value. -/
def ValueFault.message : ValueFault → String
  | numeral fault => fault.message
  | outside value limit => s!"{value} is not in 0..={limit}"
  | duration fault => fault.message

/-- What ends the reading of a command line before there is a request. -/
inductive Fault where
  | help
  | version
  | nothingGiven
  | noSubcommand
  | unknownSubcommand (word : String)
  | missingArguments
  | unknownArgument (shown : String)
  | noValue (p : Parameter)
  | noChoice (value : String) (p : Parameter)
  | badValue (value : String) (p : Parameter) (fault : ValueFault)
  | repeated (p : Parameter)
  | unexpectedValue (value : String) (p : Parameter)
  deriving DecidableEq, Repr

namespace Fault

/-- The program in a few words. -/
def summary : String := "Black-box testbench for the data master"

/-- The words for a fault. Of what the command line gave they hold what a terminal shows. -/
def message : Fault → String
  | help | version | nothingGiven => summary
  | noSubcommand => "error: 'dm-testbench' requires a subcommand but one was not provided"
  | unknownSubcommand word => "error: unrecognized subcommand '" ++ Text.visible word ++ "'"
  | missingArguments => "error: the following required arguments were not provided:"
  | unknownArgument shown => "error: unexpected argument '" ++ Text.visible shown ++ "' found"
  | noValue p => "error: a value is required for '" ++ p.shown ++ "' but none was supplied"
  | noChoice value p =>
    "error: invalid value '" ++ Text.visible value ++ "' for '" ++ p.shown ++ "'"
  | badValue value p fault =>
    "error: invalid value '" ++ Text.visible value ++ "' for '" ++ p.shown ++ "': " ++ fault.message
  | repeated p => "error: the argument '" ++ p.shown ++ "' cannot be used multiple times"
  | unexpectedValue value p =>
    "error: unexpected value '" ++ Text.visible value ++ "' for '" ++ p.shown ++
      "' found; no more were expected"

/-- A request for help or the version is answered and no error. -/
def isError : Fault → Bool
  | help | version => false
  | _ => true

end Fault

end DeviceBench.Cli
