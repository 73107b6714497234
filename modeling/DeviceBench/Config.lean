/-
Configuration of a test suite: which programs reach which device, where schedules lie, how timing
messages are captured, and the normalization rules.
-/
import DeviceBench.Files
import DeviceBench.Invocation
import DeviceBench.RuleSet

namespace DeviceBench

/-- The path of a name in a directory: an absolute name stands alone, and a slash goes between the
two unless the directory is empty or ends with one. -/
def joinPath (dir name : String) : String :=
  if name.startsWith "/" then name
  else if dir.isEmpty || dir.endsWith "/" then dir ++ name
  else dir ++ "/" ++ name

/-- The settings of a test suite. -/
structure Config where
  /-- The device, as the first argument of both programs. -/
  device : String
  /-- The program that commands the device. -/
  commandProgram : String
  /-- The program that manages its schedules. -/
  scheduleProgram : String
  /-- The directory of schedules and expected results. -/
  schedulesDir : String
  /-- The shell command that captures timing messages, without a duration. -/
  snoopTemplate : String
  rules : RuleSet
  deriving DecidableEq, Repr

namespace Config

/-- The settings for a device with all else at its default. -/
def ofDevice (device : String) : Config :=
  ⟨device, "dm-cmd", "dm-sched", "schedules/", "saft-ctl tr0 -xv snoop 0 0 0", .paintedNodes⟩

/-- The path of a schedule or an expected result. -/
def schedule (c : Config) (name : String) : String := joinPath c.schedulesDir name

/-- A call of the program that commands the device. -/
def command (c : Config) (args : List String) : Invocation :=
  .onDevice c.commandProgram c.device args

/-- A call of the program that manages schedules. -/
def scheduler (c : Config) (args : List String) : Invocation :=
  .onDevice c.scheduleProgram c.device args

/-- The call that halts the device, clears it and resets its statistics. -/
def resetCall (c : Config) : Invocation := c.command ["reset", "all"]

/-- The call that adds a schedule. -/
def addCall (c : Config) (file : String) : Invocation := c.scheduler ["add", c.schedule file]

/-- The call that lists the patterns of the device. -/
def listCall (c : Config) : Invocation := c.scheduler []

/-- The call that starts a pattern. -/
def startCall (c : Config) (pattern : String) : Invocation := c.command ["startpattern", pattern]

end Config

end DeviceBench
