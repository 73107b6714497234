/-
Scenarios as data. A scenario is a list of steps, each a call with what its output has to be and how
long to wait then, so the calls that a scenario makes are known before it runs and a failing step is the
last.
-/
import DeviceBench.Bench
import DeviceBench.Scenario.Layout

namespace DeviceBench.Scenario

/-- What the output of a step has to be. -/
inductive Judgement where
  /-- Anything. -/
  | anything
  /-- So many lines, each the one that stands at its place. -/
  | lines (count : Nat) (line : Nat → String)
  /-- What an expected file holds. -/
  | golden (name : String) (options : CompareOptions)

/-- A call, what its output has to be, and how long to wait before the next step. -/
structure Step where
  call : Invocation
  judgement : Judgement
  pause : Duration

/-- The lines from `index` on, `count` of them, are the expected ones. -/
def expectLines (output : List String) (line : Nat → String) : Nat → Nat → Except Failure Unit
  | 0, _ => .ok ()
  | count + 1, index => do
    expectLine output index (line index)
    expectLines output line count (index + 1)

/-- Judges the output of a step. -/
def judge (c : Config) (files : Files) (output : List String) : Judgement → Except Failure Unit
  | .anything => .ok ()
  | .lines count line => expectLines output line count 0
  | .golden name options => Golden.compareOutput files c.rules output (c.schedule name) options

/-- Runs a step. -/
def Step.run (c : Config) (s : Step) : Action Unit := do
  let output ← Runner.stdout s.call
  Action.ofExcept (judge c (← Action.files) output s.judgement)
  Bench.pause s.pause

/-- Runs steps in order up to the first that fails. -/
def runSteps (c : Config) (steps : List Step) : Action Unit := steps.forM (Step.run c)

/-- The command lines that steps run. -/
def commands (steps : List Step) : List CommandLine := steps.map (·.call.command)

/-- A call whose output may be anything. -/
def call (i : Invocation) : Step := ⟨i, .anything, .zero⟩

end DeviceBench.Scenario
