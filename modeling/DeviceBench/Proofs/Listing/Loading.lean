/-
What loading a schedule does. The schedule is added, the patterns are listed where they are needed, and
those that are to be started are started one after the other. The calls are known as soon as the device
has listed its patterns; loading issues them in order, ends with the first that fails, and gives the
names of the patterns only if none does.
-/
import DeviceBench.Proofs.Listing.Patterns
import DeviceBench.Proofs.Scenario.Programs
import DeviceBench.Proofs.World.Verdicts

namespace DeviceBench.Loader

open Scenario (call runSteps Passed)

/-! ## The calls of a loading -/

/-- The lines of the listing that the device gives once the schedule is added. -/
def listing (c : Config) (file : String) (w : World) : List String :=
  match (w.afterRun (c.addCall file).command).answer c.listCall.command with
  | .refused _ => []
  | .ran stdout _ _ => Text.splitLines stdout

/-- The patterns to start, of those that the device lists. -/
def chosen : Start → List String → List String
  | .nothing, _ => []
  | .named pattern, _ => [pattern]
  | .first, listed => listed.take 1
  | .all, listed => listed

/-- The calls that list the patterns: one where the names are not given, otherwise none. -/
def listCalls (c : Config) : Start → List Invocation
  | .nothing | .named _ => []
  | .first | .all => [c.listCall]

/-- The calls of a loading in order: the schedule is added, the patterns are listed where they are
needed, and each one chosen is started. -/
def calls (c : Config) (file : String) (start : Start) (listed : List String) : List Invocation :=
  c.addCall file :: (listCalls c start ++ (chosen start listed).map c.startCall)

/-- The command lines of calls. -/
def lines (is : List Invocation) : List CommandLine := is.map (·.command)

/-- A device that lists two patterns, with a blank line between them. -/
def listingWorld : World :=
  .of .empty
    (fun _ _ command =>
      .ran (if command.args = ["dev"] then Text.encode "Patterns:\nA idle\n\n B\n" else []) []
        (.exited 0))
    .yearsEnd

example :
    ((load (.ofDevice "dev") "two.dot" .first).run.run listingWorld).1 = .ok ["A"] ∧
      ((load (.ofDevice "dev") "two.dot" .all).run.run listingWorld).1 = .ok ["A", "B"] := by
  decide +kernel

end DeviceBench.Loader
