/-
Entries of the capture log and their JSON text. An entry is written as one line of compact JSON with
its fields in a fixed order; it is read back with the fields in any order, unknown fields skipped.
-/
import DeviceBench.Capture.CommandLine
import DeviceBench.Json.Reader
import DeviceBench.Time.Stamp

namespace DeviceBench

/-! ## Written form -/

/-- A command line as JSON. -/
def CommandLine.toJson (c : CommandLine) : Json :=
  Json.fields [("program", .text c.program), ("args", Json.texts c.args)]

/-- An outcome as JSON, its kind first. -/
def Outcome.toJson : Outcome → Json
  | completed code stdout stderr =>
    Json.fields [("type", .text "completed"), ("code", .integer code.toInt),
      ("stdout", Json.texts stdout), ("stderr", Json.texts stderr)]
  | spawnFailed message =>
    Json.fields [("type", .text "spawn_failed"), ("message", .text message)]

/-- One recorded run: its number in the log, when it was recorded, the milliseconds since the log
was made, what ran and how it ended. -/
structure Entry where
  seq : Nat
  time : Moment
  elapsed : Nat
  command : CommandLine
  outcome : Outcome
  deriving DecidableEq, Repr

/-- An entry as JSON. -/
def Entry.toJson (e : Entry) : Json :=
  Json.fields [("seq", .integer e.seq), ("timestamp", .text (Stamp.write e.time)),
    ("elapsed_ms", .integer e.elapsed), ("command", e.command.toJson),
    ("outcome", e.outcome.toJson)]

/-- The text of an entry, without a line feed. -/
def Entry.toText (e : Entry) : String := e.toJson.toText

/-! ## Reading -/

namespace Json

/-- The values of the named members: of a record in any order, each exactly once, others skipped; of
a list in the order of the names, no more and no fewer. -/
def members? (names : List String) : Json → Option (List Json)
  | .record fields =>
    if fields.any (·.1.isNone) then none
    else
      names.mapM fun name =>
        match fields.filter (·.1 == some name) with
        | [(_, value)] => some value
        | _ => none
  | .list items => if items.length = names.length then some items else none
  | _ => none

/-- The text that a value is. -/
def text? : Json → Option String
  | .text s => some s
  | _ => none

/-- The texts that a list holds. -/
def texts? : Json → Option (List String)
  | .list items => items.mapM text?
  | _ => none

/-- The unsigned number of 64 bits that a value is. -/
def word? : Json → Option Nat
  | .integer n => if 0 ≤ n ∧ n ≤ Text.maxWord then some n.toNat else none
  | _ => none

/-- The signed number of 32 bits that a value is. -/
def code? : Json → Option Int32
  | .integer n => if -2147483648 ≤ n ∧ n ≤ 2147483647 then some (Int32.ofInt n) else none
  | _ => none

end Json

/-- The command line that a JSON value describes. -/
def CommandLine.ofJson? (j : Json) : Option CommandLine := do
  match ← j.members? ["program", "args"] with
  | [program, args] => some ⟨← program.text?, ← args.texts?⟩
  | _ => none

/-- The outcome of a kind whose other members a JSON value holds. -/
def Outcome.ofMembers? (kind : String) (j : Json) : Option Outcome := do
  if kind = "completed" then
    match ← j.members? ["code", "stdout", "stderr"] with
    | [code, stdout, stderr] => some (.completed (← code.code?) (← stdout.texts?) (← stderr.texts?))
    | _ => none
  else if kind = "spawn_failed" then
    match ← j.members? ["message"] with
    | [message] => some (.spawnFailed (← message.text?))
    | _ => none
  else none

/-- How deep the values of an outcome may be nested. -/
def Outcome.maxDepth : Nat := 126

/-- The outcome that a JSON value describes: its kind stands in the member `type`, wherever that
stands, or first in a list. All of it has to be plain, skipped members too. -/
def Outcome.ofJson? (j : Json) : Option Outcome := do
  if !j.isPlain || Outcome.maxDepth < j.depth then none
  match j with
  | .record fields =>
    match fields.filter (·.1 == some "type") with
    | [(_, kind)] => Outcome.ofMembers? (← kind.text?) (.record (fields.filter (·.1 != some "type")))
    | _ => none
  | .list (kind :: rest) => Outcome.ofMembers? (← kind.text?) (.list rest)
  | _ => none

/-- The entry that a JSON value describes. -/
def Entry.ofJson? (j : Json) : Option Entry := do
  match ← j.members? ["seq", "timestamp", "elapsed_ms", "command", "outcome"] with
  | [seq, time, elapsed, command, outcome] =>
    some ⟨← seq.word?, ← Stamp.read? (← time.text?), ← elapsed.word?, ← CommandLine.ofJson? command,
      ← Outcome.ofJson? outcome⟩
  | _ => none

/-- The entry that a text writes. -/
def Entry.ofText? (text : String) : Option Entry := (Json.parse? text).bind Entry.ofJson?

end DeviceBench
