/-
Configuration files. A file may set everything but has to set nothing; the environment wins over it,
and what neither sets has a default. Keys that no setting has are refused.
-/
import DeviceBench.Config
import DeviceBench.Environment
import DeviceBench.Toml.Reader

namespace DeviceBench

/-- What a configuration file sets, with the normalization rules that it adds. -/
structure ConfigFile where
  device : Option String
  commandProgram : Option String
  scheduleProgram : Option String
  schedulesDir : Option String
  snoopTemplate : Option String
  rules : List Rule
  deriving DecidableEq, Repr

namespace ConfigFile

/-- A file that sets nothing. -/
def empty : ConfigFile := ⟨none, none, none, none, none, []⟩

/-! ## Reading -/

/-- The text at a key, if the key is there. -/
def textAt (entries : Toml.Entries) (key : String) : Option (Option String) :=
  match entries.lookup key with
  | none => some none
  | some (.text s) => some (some s)
  | some _ => none

/-- There are no other keys. -/
def hasOnly (keys : List String) (entries : Toml.Entries) : Bool :=
  entries.all fun (key, _) => keys.contains key

/-- The rule that a table describes; its replacement may be left out. -/
def ruleOfTable? (entries : Toml.Entries) : Option Rule := do
  if !hasOnly ["pattern", "replacement"] entries then none
  let pattern ← ← textAt entries "pattern"
  let replacement ← textAt entries "replacement"
  return ⟨pattern, replacement.getD ""⟩

/-- The rule that a value describes: a table, or a list that starts with the two texts. -/
def ruleOf? : Toml → Option Rule
  | .table _ entries => ruleOfTable? entries
  | .array [.text pattern] => some ⟨pattern, ""⟩
  | .array (.text pattern :: .text replacement :: _) => some ⟨pattern, replacement⟩
  | _ => none

/-- The rules that a document adds. -/
def rulesAt (entries : Toml.Entries) (key : String) : Option (List Rule) :=
  match entries.lookup key with
  | none => some []
  | some (.array items) => items.mapM ruleOf?
  | some (.tables items) => items.reverse.mapM ruleOfTable?
  | some _ => none

/-- The settings that the keys of a document make. -/
def ofEntries? (entries : Toml.Entries) : Option ConfigFile := do
  if !hasOnly ["datamaster", "dm_cmd", "dm_sched", "schedules_dir", "snoop_command", "normalize"]
      entries then none
  return ⟨← textAt entries "datamaster", ← textAt entries "dm_cmd", ← textAt entries "dm_sched",
    ← textAt entries "schedules_dir", ← textAt entries "snoop_command",
    ← rulesAt entries "normalize"⟩

/-- The settings that a document makes. -/
def parse (source : String) : Except Failure ConfigFile :=
  match (Toml.parse? source).bind ofEntries? with
  | some file => .ok file
  | none => .error .configuration

/-- The settings of the file at a path. -/
def load (files : Files) (path : String) : Except Failure ConfigFile := do
  parse (← files.readText path)

/-- The rules for painted nodes and after them those of the file. -/
def ruleSet (file : ConfigFile) : Except Failure RuleSet := RuleSet.paintedNodes.withRules file.rules

end ConfigFile

namespace Config

/-- The settings of the environment, then of a file, then the defaults. Rules that do not go together
are noticed first, a device that nothing names after them. -/
def resolve (env : Environment) (file : ConfigFile) : Except Failure Config := do
  let rules ← file.ruleSet
  match (env.get? Environment.deviceVariable).or file.device with
  | none => throw (.missingVariable Environment.deviceVariable)
  | some device =>
    let default := ofDevice device
    let setting (name : String) (inFile : Option String) (otherwise : String) : String :=
      ((env.get? name).or inFile).getD otherwise
    return {
      device
      commandProgram :=
        setting Environment.commandProgramVariable file.commandProgram default.commandProgram
      scheduleProgram :=
        setting Environment.scheduleProgramVariable file.scheduleProgram default.scheduleProgram
      schedulesDir := setting Environment.schedulesDirVariable file.schedulesDir default.schedulesDir
      snoopTemplate :=
        setting Environment.snoopTemplateVariable file.snoopTemplate default.snoopTemplate
      rules }

/-- The configuration with the file at a path. -/
def ofFile (env : Environment) (files : Files) (path : String) : Except Failure Config := do
  resolve env (← ConfigFile.load files path)

/-- The configuration with the file that the environment names, if it names one. -/
def ofEnvironment (env : Environment) (files : Files) : Except Failure Config :=
  match env.get? Environment.configFileVariable with
  | some path => ofFile env files path
  | none => resolve env .empty

end Config

end DeviceBench
