/-
Devices behind programs. What a started program does may depend on the files it finds and on
everything started before it, so a device is a function of both. The scripted device stands in for a
real one: it answers from a list of rules.
-/
import DeviceBench.Files

namespace DeviceBench

/-- How a process ends. -/
inductive Ending where
  | exited (code : Int32)
  | killed (signal : Int32)
  deriving DecidableEq, Repr

/-- The return code of an ending: a signal counts as its negative. -/
def Ending.code : Ending → Int32
  | exited code => code
  | killed signal => -signal

/-- What comes of starting a program: it cannot be started, or it writes its output and ends. -/
inductive Answer where
  | refused (cause : OsError)
  | ran (stdout stderr : Bytes) (ending : Ending)
  deriving DecidableEq, Repr

/-- What a program answers, given the files and the command lines started before it, oldest first. -/
abbrev Device := Files → List CommandLine → CommandLine → Answer

/-! ## The scripted device -/

/-- A rule of a scripted device: which command lines it answers, how often, and what it answers. -/
structure DeviceRule where
  /-- The program, if only one is meant. -/
  program : Option String
  /-- Arguments that all have to be there. -/
  has : List String
  /-- How often the rule can be used, if not without limit. -/
  times : Option Nat
  stdout : Bytes
  stderr : Bytes
  ending : Ending
  deriving DecidableEq, Repr

namespace DeviceRule

/-- The rule is about a command line. -/
def matchesCommand (rule : DeviceRule) (c : CommandLine) : Bool :=
  rule.program.all (· == c.program) && rule.has.all c.hasArg

/-- The rule can still be used. -/
def isLeft (rule : DeviceRule) : Bool := rule.times != some 0

/-- The rule after one use. -/
def used (rule : DeviceRule) : DeviceRule := { rule with times := rule.times.map (· - 1) }

end DeviceRule

/-- A device that answers from rules: the programs that exist, those that exist but may not be
started, and the rules. -/
structure DeviceScript where
  programs : List String
  locked : List String
  rules : List DeviceRule
  deriving DecidableEq, Repr

namespace DeviceScript

/-- The command line holds a zero character, which no process can be given. -/
def holdsZero (c : CommandLine) : Bool := (c.program :: c.args).any (·.toList.contains '\x00')

/-- The command line can be started. Programs are plain names, never paths. -/
def starts (s : DeviceScript) (c : CommandLine) : Bool :=
  !holdsZero c && !c.program.isEmpty && !c.program.toList.contains '/' &&
    s.programs.contains c.program && !s.locked.contains c.program

/-- Why a path cannot be started as a program: no file and no directory may be executed. -/
def pathRefusal (files : Files) (path : String) : OsError :=
  match files.resolve path with
  | .error cause => cause
  | .ok (.absent ..) => .notFound
  | .ok (.file _ _ _ _ true) => .notDirectory
  | .ok _ => .permissionDenied

/-- Why a command line that cannot be started cannot be. A zero character is refused before the
program is looked for; a plain name is looked for in the directory of programs. -/
def refusal (s : DeviceScript) (files : Files) (c : CommandLine) : OsError :=
  if holdsZero c then .nulInArgument
  else if c.program.toList.contains '/' then pathRefusal files c.program
  else if s.locked.contains c.program ∨ c.program = "." ∨ c.program = ".." then .permissionDenied
  else if Files.maxName < c.program.utf8ByteSize then .nameTooLong
  else .notFound

/-- The first rule that is about a command line and can still be used, with the rules after its
use. -/
def takeRule (c : CommandLine) : List DeviceRule → Option DeviceRule × List DeviceRule
  | [] => (none, [])
  | rule :: rules =>
    if rule.isLeft && rule.matchesCommand c then (some rule, rule.used :: rules)
    else
      let (found, rules) := takeRule c rules
      (found, rule :: rules)

/-- The rules after a command line. -/
def rulesAfter (s : DeviceScript) (rules : List DeviceRule) (c : CommandLine) : List DeviceRule :=
  if s.starts c then (takeRule c rules).2 else rules

/-- The device that answers from the script. Without a rule a program writes nothing and ends with
code zero. -/
def device (s : DeviceScript) : Device := fun files history c =>
  if s.starts c then
    match (takeRule c (history.foldl s.rulesAfter s.rules)).1 with
    | some rule => .ran rule.stdout rule.stderr rule.ending
    | none => .ran [] [] (.exited 0)
  else .refused (s.refusal files c)

end DeviceScript

end DeviceBench
