/-
How the device under test is laid out: its processors and threads, the names of the patterns that
run on them, and the lines in which it reports them.
-/
import DeviceBench.Failure

namespace DeviceBench.Scenario

/-! ## Processors and threads -/

/-- How many processors the device has. -/
def processors : Nat := 4

/-- How many threads the firmware gives each processor. -/
inductive Layout where
  | eight
  | thirtyTwo
  deriving DecidableEq, Repr

/-- Threads per processor. -/
def Layout.threads : Layout → Nat
  | .eight => 8
  | .thirtyTwo => 32

/-- The mask of running threads with every thread started. -/
def Layout.allRunning : Layout → String
  | .eight => "0xff"
  | .thirtyTwo => "0xffffffff"

/-- The mask of running threads once the odd threads below eight are aborted. -/
def Layout.afterAbort : Layout → String
  | .eight => "0x55"
  | .thirtyTwo => "0xffffff55"

/-- How a command addresses one thread. -/
inductive Addressing where
  /-- By its number. -/
  | decimal
  /-- By a mask with one bit. -/
  | hex
  deriving DecidableEq, Repr

/-- The address of a thread; a mask has 64 bits, so thread numbers wrap there. -/
def Addressing.address : Addressing → UInt32 → String
  | .decimal, thread => toString thread.toNat
  | .hex, thread => "0x" ++ Text.hexText ((1 : UInt64) <<< thread.toUInt64).toNat

/-! ## Names of patterns -/

/-- The letter of a digit from 0 to 25. -/
def letter (digit : Nat) : Char := Char.ofNat (0x61 + digit)

/-- The letters that count to `n`: `a` to `z`, then `aa`, `ab` and so on; none for zero. What is
written already stands behind them. -/
def lettersOnto (n : Nat) (written : List Char) : List Char :=
  if n = 0 then written else lettersOnto ((n - 1) / 26) (letter ((n - 1) % 26) :: written)
  termination_by n
  decreasing_by omega

/-- The pattern that runs on a thread of a processor. -/
def threadPattern (cpu thread : UInt32) : String :=
  s!"PPS{cpu.toNat}" ++ String.ofList (lettersOnto (thread + 1).toNat [])

/-! ## Lines of output -/

/-- The line that reports the running threads of a processor. -/
def runningLine (cpu : Nat) (mask : String) : String := s!"CPU {cpu} Running Threads: " ++ mask

/-- The line that reports an aborted thread. -/
def abortedLine (cpu thread : Nat) : String := s!"CPU {cpu} Thread {thread} aborted."

/-- One line has to be the expected one; a line that is missing counts as empty. -/
def expectLine (lines : List String) (index : Nat) (expected : String) : Except Failure Unit :=
  let actual := lines[index]?.getD ""
  if actual = expected then .ok () else .error (.unexpectedLine index expected actual)

end DeviceBench.Scenario
