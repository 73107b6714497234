/-
Loading schedules: a schedule is added to the device, and then none, one or all of the patterns that
the device lists are started.
-/
import DeviceBench.Config
import DeviceBench.Listing
import DeviceBench.Runner

namespace DeviceBench

/-- Which patterns to start once a schedule is added. -/
inductive Start where
  | nothing
  | named (pattern : String)
  | first
  | all
  deriving DecidableEq, Repr

namespace Loader

/-- The patterns to start; those of the device are listed only when they are needed. -/
def names (c : Config) : Start → Action (List String)
  | .nothing => return []
  | .named pattern => return [pattern]
  | .first => do return Listing.pull 1 .beforeHeader (← Runner.stdout c.listCall)
  | .all => do return Listing.patterns (← Runner.stdout c.listCall)

/-- Adds a schedule, starts patterns in order and gives their names. -/
def load (c : Config) (file : String) (start : Start) : Action (List String) := do
  discard <| Runner.run (c.addCall file)
  let patterns ← names c start
  patterns.forM fun pattern => discard <| Runner.run (c.startCall pattern)
  return patterns

end Loader

end DeviceBench
