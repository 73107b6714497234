/-
Golden files. A result is filtered and normalized and has to equal the expected file line by line;
a difference is reported as a unified diff without context.
-/
import DeviceBench.Diff.Hunk
import DeviceBench.Files
import DeviceBench.RuleSet
import DeviceBench.Text.Lines

namespace DeviceBench

/-- What is left out of a comparison: lines of the result with a marker, what follows another marker
in the lines of both sides, and lines of both sides by number. -/
structure CompareOptions where
  exclude : Option String
  excludeField : Option String
  /-- Each number counts in what the numbers before it have left. -/
  delete : List Nat
  deriving DecidableEq, Repr

namespace CompareOptions

/-- Everything is compared. -/
def exact : CompareOptions := ⟨none, none, []⟩

/-- Options with these markers and numbers; an empty marker is none. -/
def of (exclude excludeField : Option String) (delete : List Nat) : CompareOptions :=
  ⟨exclude.filter (· ≠ ""), excludeField.filter (· ≠ ""), delete⟩

end CompareOptions

namespace Golden

/-! ## Filters -/

/-- A line contains a marker; no line contains an empty one. -/
def hasMarker (marker : Option String) (line : String) : Bool :=
  marker.any fun m => m ≠ "" && Text.occurs m.toList line.toList

/-- The lines without a marker. -/
def withoutMarker (marker : Option String) (lines : List String) : List String :=
  lines.filter fun line => !hasMarker marker line

/-- Deletes lines by number, one after the other. -/
def deleteLines : List String → List Nat → Except Failure (List String)
  | lines, [] => .ok lines
  | lines, i :: is =>
    if i < lines.length then deleteLines (lines.eraseIdx i) is
    else .error (.lineIndex i lines.length)

/-- A line cut after the first occurrence of a marker. -/
def cutAfter (marker line : String) : String :=
  match Text.throughFirst? marker.toList line.toList with
  | some start => String.ofList start
  | none => line

/-- Every line cut after the first occurrence of a marker, if there is one. -/
def cutLines (marker : Option String) (lines : List String) : List String :=
  match marker with
  | some m => lines.map (cutAfter m)
  | none => lines

/-! ## Comparison -/

/-- Two sides have to be equal; the labels name them in the difference. -/
def check (current expected : List String) (currentLabel expectedLabel : String) :
    Except Failure Unit :=
  match Diff.unified current expected currentLabel expectedLabel with
  | none => .ok ()
  | some diff => .error (.goldenMismatch expectedLabel diff)

/-- The text of a file with universal newlines. -/
def readUniversal (files : Files) (path : String) : Except Failure String :=
  (files.readText path).map fun text => String.ofList (Text.unifyNewlines text.toList)

/-- The lines of a result text as they are compared: with their line feeds, without those that
carry the marker, normalized. -/
def normalizedLines (rules : RuleSet) (exclude : Option String) (text : String) : List String :=
  rules.applyLines (withoutMarker exclude (Text.keptLines text))

/-- Compares a result file with an expected file; a line feed that only one of them ends with is a
difference. -/
def compareFiles (files : Files) (rules : RuleSet) (current expected : String)
    (exclude : Option String) : Except Failure Unit := do
  let currentText ← readUniversal files current
  let expectedText ← readUniversal files expected
  check (normalizedLines rules exclude currentText) (Text.keptLines expectedText) current expected

/-- The lines of an output as they are compared. -/
def outputSide (rules : RuleSet) (options : CompareOptions) (output : List String) :
    Except Failure (List String) :=
  (deleteLines (withoutMarker options.exclude output) options.delete).map fun lines =>
    rules.applyLines (cutLines options.excludeField lines)

/-- The lines of an expected text as an output is compared with them. -/
def expectedSide (options : CompareOptions) (text : String) : Except Failure (List String) :=
  (deleteLines (Text.bareLines text) options.delete).map (cutLines options.excludeField)

/-- Compares lines of output with an expected file. -/
def compareOutput (files : Files) (rules : RuleSet) (output : List String) (expected : String)
    (options : CompareOptions) : Except Failure Unit := do
  let current ← outputSide rules options output
  let expectedLines ← expectedSide options (← readUniversal files expected)
  check current expectedLines "output" expected

end Golden

end DeviceBench
