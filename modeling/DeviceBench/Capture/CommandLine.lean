/-
Command lines and how their runs end. A command line is a program with its arguments, exactly as
handed to the system; a run completes with a code and two lists of lines, or never starts.
-/
import DeviceBench.Text.Blank
import DeviceBench.Text.Quoted

namespace DeviceBench

/-- A program and its arguments. -/
structure CommandLine where
  program : String
  args : List String
  deriving DecidableEq, Repr, Inhabited

namespace CommandLine

/-- A command text that the shell interprets. -/
def shell (command : String) : CommandLine := ⟨"sh", ["-c", command]⟩

/-- Some argument equals the token, wherever it stands. -/
def hasArg (c : CommandLine) (token : String) : Bool := c.args.any (· == token)

/-- The argument after the first that equals the token. -/
def argAfter? (c : CommandLine) (token : String) : Option String :=
  match c.args.dropWhile (· != token) with
  | _ :: next :: _ => some next
  | _ => none

/-- How a command line shows an argument: as it is, or quoted when it is empty or holds a blank. -/
def shownArg (arg : String) : List Char :=
  if arg.isEmpty || arg.toList.any Text.isBlank then (Text.quote arg).toList else arg.toList

/-- The command line on one line, as reports and failures show it. -/
def display (c : CommandLine) : String :=
  String.ofList (c.program.toList ++ c.args.flatMap fun arg => ' ' :: shownArg arg)

end CommandLine

/-- How a run ended. -/
inductive Outcome where
  /-- The process ran to its end. -/
  | completed (code : Int32) (stdout stderr : List String)
  /-- The process could not be started. -/
  | spawnFailed (message : String)
  deriving DecidableEq, Repr

namespace Outcome

/-- The return code, if the process ran at all. -/
def code? : Outcome → Option Int32
  | completed code _ _ => some code
  | spawnFailed _ => none

/-- The process ran and its code is zero. -/
def isSuccess (o : Outcome) : Bool := o.code? == some 0

end Outcome

end DeviceBench
