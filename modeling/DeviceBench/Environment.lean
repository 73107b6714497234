/-
Environment variables of the test suite. A variable that is empty or no text counts as not set.
-/
import DeviceBench.Text.Utf8

namespace DeviceBench

/-- The variables that are set, with their bytes. -/
structure Environment where
  bindings : List (String × Bytes)
  deriving DecidableEq, Repr

namespace Environment

/-- The device, without which no test case can run. -/
def deviceVariable : String := "DATAMASTER"

/-- The program that commands the device. -/
def commandProgramVariable : String := "TEST_BINARY_DM_CMD"

/-- The program that manages schedules. -/
def scheduleProgramVariable : String := "TEST_BINARY_DM_SCHED"

/-- The directory of schedules and expected results. -/
def schedulesDirVariable : String := "TEST_SCHEDULES"

/-- The shell command that captures timing messages. -/
def snoopTemplateVariable : String := "SNOOP_COMMAND"

/-- The configuration file. -/
def configFileVariable : String := "DM_TESTBENCH_CONFIG"

/-- The filter of log lines. -/
def logFilterVariable : String := "DM_TESTBENCH_LOG"

/-- All variables. -/
def names : List String :=
  [deviceVariable, commandProgramVariable, scheduleProgramVariable, schedulesDirVariable,
    snoopTemplateVariable, configFileVariable, logFilterVariable]

/-- The text of a variable that is set to one. -/
def get? (env : Environment) (name : String) : Option String :=
  ((env.bindings.lookup name).bind Text.decode?).filter (· ≠ "")

/-- What a variable that is set shows; it may be empty, and what is no text is replaced in it. -/
def shown? (env : Environment) (name : String) : Option String :=
  (env.bindings.lookup name).map fun bytes => String.ofList (Text.decodeLossy bytes)

end Environment

end DeviceBench
