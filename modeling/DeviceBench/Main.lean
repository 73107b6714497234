/-
The entry point. It brings the files that a command line names into a world, runs the program there
and writes back what has changed. The working directory is that of the process. No process is started from
here: for the program every other program is one that does not exist.
-/
import DeviceBench.Cli.Program
import Std.Time.DateTime

namespace DeviceBench.Cli

/-! ## Paths -/

/-- The paths that a command names. -/
def Command.paths : Command → List String
  | .frequency csv _ _ => [csv]
  | .compare current expected _ => [current, expected]
  | .bits _ _ => []
  | .snoop csv _ _ _ => [csv]
  | .scenario _ _ _ => []

/-- The paths that a request names. -/
def Request.paths (r : Request) : List String :=
  r.config.toList ++ r.captureLog.toList ++ r.command.paths

/-- The directories that a path leads through, from its own start on. -/
def directoriesOf (path : String) : List String :=
  let names := Files.components path
  let start := if Files.isAbsolute path then "/" else ""
  (List.range names.length).tail.map fun n => start ++ String.intercalate "/" (names.take n)

/-! ## The world outside -/

/-- The bytes of a file, nothing for a directory, and an error for what cannot be read. -/
def readNode (path : String) : IO (Option Bytes) :=
  tryCatch (do return some (← IO.FS.readBinFile path).toList) fun
    | .inappropriateType .. => return none
    | cause => throw cause

/-- Adds what stands at a path. -/
def addPath (files : Files) (path : String) : IO Files :=
  tryCatch
    (do
      match ← readNode path with
      | some bytes => return files.withFile path bytes
      | none => return files.withDirectory path)
    fun _ => return files

/-- The files that paths name, with the directories on the way to them and the working directory. -/
def filesFor (paths : List String) : IO Files := do
  let files := Files.workingIn (Files.components (← IO.currentDir).toString)
  (paths.flatMap fun path => directoriesOf path ++ [path]).foldlM addPath files

/-- Writes the files that have changed. -/
def writeChanged (before after : Files) (paths : List String) : IO Unit :=
  paths.forM fun path => do
    match (after.read path).toOption with
    | some bytes =>
      if (before.read path).toOption ≠ some bytes then IO.FS.writeBinFile path ⟨bytes.toArray⟩
    | none => pure ()

/-- The variables that are set, of those that the program knows. -/
def currentEnvironment : IO Environment := do
  let bindings ← Environment.names.filterMapM fun name => do
    return (← IO.getEnv name).map fun value => (name, Text.encode value)
  return ⟨bindings⟩

/-- What the clock shows. -/
def currentTime : IO Moment := do
  let now ← Std.Time.Timestamp.now
  let day := Std.Time.PlainDate.ofEpochDay now.toDaysSinceUnixEpoch
  let nanos := now.toNanosecondsSinceUnixEpoch.toInt.toNat % (86400 * 1000000000)
  let moment? := do
    let date ← Date.of? day.year.toInt day.month.toNat day.day.toNat
    Moment.of? date (nanos / 1000000000) (nanos % 1000000000)
  match moment? with
  | some moment => return moment
  | none => throw (.userError "the clock shows no point in time")

/-- A device on which nothing can be started. -/
def noDevice : Device := fun _ _ _ => .refused .notFound

/-- Runs a command line. -/
def runProcess (words : List String) : IO Report := do
  let env ← currentEnvironment
  let request? := (parse (env.shown? Environment.configFileVariable) words).toOption
  let paths := (request?.map Request.paths).getD []
  let files ← filesFor paths
  let (report, w) := run env words (.of files noDevice ⟨← currentTime, 0⟩)
  writeChanged files w.files paths
  return report

end DeviceBench.Cli

/-- Runs a command line and ends with the code of its report. -/
def main (args : List String) : IO UInt32 := do
  let report ← DeviceBench.Cli.runProcess args
  IO.print report.stdout
  IO.eprint report.stderr
  return report.code
