/-
Filters of log lines: a list of directives, each a level for all lines or for those of a target. The
most specific directives come first.
-/
import DeviceBench.Environment
import DeviceBench.Text.Alphanumeric
import DeviceBench.Text.Blank
import DeviceBench.Text.Numeral
import DeviceBench.Text.Search

namespace DeviceBench

/-- How much a filter lets through. -/
inductive LogLevel where
  | off
  | error
  | warn
  | info
  | debug
  | trace
  deriving DecidableEq, Repr

namespace LogLevel

/-- All levels, each at the place of its number. -/
def all : List LogLevel := [off, error, warn, info, debug, trace]

/-- The name of a level. -/
def name : LogLevel → String
  | off => "off"
  | error => "error"
  | warn => "warn"
  | info => "info"
  | debug => "debug"
  | trace => "trace"

/-- The level with a number, or with a name in any case. -/
def parse? (text : List Char) : Option LogLevel :=
  match Text.readUnsigned 10 Text.maxWord text with
  | .ok n => all[n]?
  | .error _ => all.find? fun l => l.name.toList = text.map Char.toLower

end LogLevel

/-- A level for the lines of a target, or for all lines. -/
structure LogDirective where
  target : Option String
  level : LogLevel
  deriving DecidableEq, Repr

namespace LogDirective

/-- The character may start a directive. -/
def mayStart (c : Char) : Bool := c = '-' || c = ':' || c = '_' || Text.isAlphanumeric c

/-- The directive that a text writes: a level, a target, or a target with a level. Everything is let
through where no level is given. Blanks belong to the target; behind blanks in front a directive may
start, but no level can follow the target then. -/
def parse? (text : List Char) : Option LogDirective :=
  let start := Text.dropBlank text
  if !start.head?.any mayStart ∨ (start.length < text.length ∧ text.contains '=') then none
  else
    match Text.splitFirst? '=' text with
    | some (target, []) => some ⟨some (String.ofList target), .trace⟩
    | some (target, level) =>
      (LogLevel.parse? level).map fun level => ⟨some (String.ofList target), level⟩
    | none =>
      match LogLevel.parse? text with
      | some level => some ⟨none, level⟩
      | none => some ⟨some (String.ofList text), .trace⟩

/-- The first directive is more specific: its target is longer, or equally long and greater. -/
def isBefore (a b : LogDirective) : Bool :=
  match a.target, b.target with
  | some a, some b =>
    b.utf8ByteSize < a.utf8ByteSize || (a.utf8ByteSize == b.utf8ByteSize && decide (b < a))
  | some _, none => true
  | none, _ => false

/-- A directive as text. -/
def display (d : LogDirective) : String :=
  match d.target with
  | some target => target ++ "=" ++ d.level.name
  | none => d.level.name

end LogDirective

namespace LogFilter

/-- Adds a directive at its place; it replaces one for the same target. -/
def insert (d : LogDirective) : List LogDirective → List LogDirective
  | [] => [d]
  | e :: es =>
    if d.target = e.target then d :: es
    else if d.isBefore e then d :: e :: es
    else e :: insert d es

/-- The directives that a text writes, separated by commas; empty ones are skipped. -/
def parse? (text : String) : Option (List LogDirective) := do
  let pieces := (text.splitOn ",").filter fun piece => !piece.isEmpty
  let directives ← pieces.mapM fun piece => LogDirective.parse? piece.toList
  return directives.foldl (fun ds d => insert d ds) []

/-- The filter without a valid setting. -/
def default : List LogDirective := [⟨none, .info⟩]

/-- The filter that the environment sets. -/
def ofEnvironment (env : Environment) : List LogDirective :=
  ((env.get? Environment.logFilterVariable).bind parse?).getD default

/-- A filter as text. -/
def display (ds : List LogDirective) : String :=
  String.intercalate "," (ds.map LogDirective.display)

end LogFilter

end DeviceBench
