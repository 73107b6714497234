/-
Capturing timing messages: a shell command writes them to a file for a set time, alone or while an
action runs.
-/
import DeviceBench.Config
import DeviceBench.Duration
import DeviceBench.Runner

namespace DeviceBench.Snoop

/-- The shell command of a template and a duration. In a template that ends with a quote the
duration goes before the quote. -/
def commandText (template : String) (d : Duration) : String :=
  let seconds := ' ' :: d.secondsText.toList
  let cs := template.toList
  String.ofList <|
    if cs.getLast? = some '\'' then cs.dropLast ++ seconds ++ ['\''] else cs ++ seconds

/-- The shell command that captures for a duration. -/
def command (c : Config) (d : Duration) : String := commandText c.snoopTemplate d

/-- Captures into a file. -/
def toFile (c : Config) (path : String) (d : Duration) : Action Unit := do
  discard <| Runner.runShellToFile (command c d) path [0]

/-- Captures into a file while an action runs. The action's end does not end the capture, and an
action that fails is reported only after it. -/
def withAction {α : Type} (c : Config) (path : String) (d : Duration) (action : Action α) :
    Action α :=
  Runner.withShellToFile (command c d) path [0] action

end DeviceBench.Snoop
