/-
The scenario about flow commands: a pattern is redirected at a block, and the visited blocks and the
queue of that block are compared with expected files before and after the command takes effect.
-/
import DeviceBench.Scenario.Step

namespace DeviceBench.Scenario

/-- When a flow command becomes valid. -/
inductive FlowVariant where
  | relativeNow
  | relativeOneSecond
  | absoluteNow
  | absoluteOneSecond
  deriving DecidableEq, Repr

namespace FlowVariant

/-- All variants in the order in which they are tested. -/
def all : List FlowVariant := [relativeNow, relativeOneSecond, absoluteNow, absoluteOneSecond]

/-- The milliseconds between the command and the look at the queue. A device needs some even when
the command is valid at once. -/
def delayMillis : FlowVariant → UInt64
  | relativeNow => 400
  | relativeOneSecond => 1400
  | absoluteNow => 0
  | absoluteOneSecond => 1000

/-- The delay as a span of time. -/
def delay (v : FlowVariant) : Duration := .ofMillis v.delayMillis

/-- The options of the command. -/
def options : FlowVariant → List String
  | relativeNow => []
  | relativeOneSecond => ["-l", "1000000000"]
  | absoluteNow => ["-a"]
  | absoluteOneSecond => ["-l", "1000000000", "-a"]

end FlowVariant

/-- The schedule of the scenario. -/
def flowSchedule : String := "dynamic-branch-single-schedule.dot"

/-- The pattern that is started and redirected. -/
def entryPattern : String := "IN_C0"

/-- The pattern that it is redirected to. -/
def targetPattern : String := "B"

/-- The block at which the patterns part. -/
def branchBlock : String := "BLOCK_IN0"

/-- What follows this in a queue changes with every run. -/
def validTimeField : String := "VTIME:"

/-- The visited blocks of the device have to be those of an expected file. -/
def visitedStep (c : Config) (expected : String) : Step :=
  ⟨c.scheduler ["rawvisited"], .golden expected .exact, .zero⟩

/-- The queue of the block has to be that of an expected file, but for its valid times. -/
def queueStep (c : Config) (expected : String) : Step :=
  ⟨c.command ["rawqueue", branchBlock], .golden expected (.of none (some validTimeField) []), .zero⟩

/-- The flow command, with the time that the device then needs. -/
def flowStep (c : Config) (options : List String) (delay : Duration) : Step :=
  ⟨c.command (["flowpattern", entryPattern, targetPattern] ++ options), .anything, delay⟩

/-- All steps of the scenario. -/
def flowSteps (c : Config) (options : List String) (delay : Duration := .zero) : List Step :=
  [ call c.resetCall,
    call (c.addCall flowSchedule),
    call (c.startCall entryPattern),
    visitedStep c "dynamic-branch-single-expected-0-0.txt",
    flowStep c options delay,
    queueStep c "dynamic-branch-single-expected-1-1.txt",
    call (c.startCall entryPattern),
    visitedStep c "dynamic-branch-single-expected-1-3.txt",
    queueStep c "dynamic-branch-single-expected-1-4.txt" ]

/-- The scenario with every variant in turn. -/
def allFlowSteps (c : Config) : List Step :=
  FlowVariant.all.flatMap fun v => flowSteps c v.options v.delay

end DeviceBench.Scenario
