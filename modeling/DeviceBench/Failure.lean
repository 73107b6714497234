/-
Failures: everything that ends a test case. A failure says what went wrong as data; `message` gives
its words. Nothing retries, so a failure is always the last thing that happens in its test case.
-/
import DeviceBench.Capture.CommandLine

namespace DeviceBench

/-- What the system answers when it refuses a file or a process. -/
inductive OsError where
  | notFound
  | permissionDenied
  | notDirectory
  | isDirectory
  | nameTooLong
  | nulInFileName
  | nulInArgument
  | invalidUtf8
  deriving DecidableEq, Repr

/-- The words for a refusal of the system. -/
def OsError.message : OsError → String
  | notFound => "No such file or directory (os error 2)"
  | permissionDenied => "Permission denied (os error 13)"
  | notDirectory => "Not a directory (os error 20)"
  | isDirectory => "Is a directory (os error 21)"
  | nameTooLong => "File name too long (os error 36)"
  | nulInFileName => "file name contained an unexpected NUL byte"
  | nulInArgument => "nul byte found in provided data"
  | invalidUtf8 => "stream did not contain valid UTF-8"

/-- Why a text is no mask of a width. -/
inductive MaskFault where
  | numeral (fault : Text.NumeralFault)
  | tooWide (width : Nat)
  deriving DecidableEq, Repr

/-- The words for a fault of a mask. -/
def MaskFault.message : MaskFault → String
  | numeral fault => fault.message
  | tooWide width => s!"width {width} exceeds 64 bits"

/-- Why a text is no point in time. -/
inductive TimeFault where
  | tooShort
  | invalid
  | outOfRange
  | trailing
  deriving DecidableEq, Repr

/-- The words for a fault of a point in time. -/
def TimeFault.message : TimeFault → String
  | tooShort => "premature end of input"
  | invalid => "input contains invalid characters"
  | outOfRange => "input is out of range"
  | trailing => "trailing input"

/-- Where a row holds a field that is no text: the row counted from zero, its first line, the field
counted from zero, the byte at which the row starts, and the well-formed bytes of the field. -/
structure BadText where
  row : Nat
  line : Nat
  field : Nat
  start : Nat
  valid : Nat
  deriving DecidableEq, Repr

/-- Why a row of a capture is refused. -/
inductive RowFault where
  | badText (place : BadText)
  | missingColumn (column : Nat)
  | badTimestamp (date time : String) (fault : TimeFault)
  | unreadable (cause : OsError)
  deriving DecidableEq, Repr

/-- The words for a fault of a row. -/
def RowFault.message : RowFault → String
  | badText p =>
    s!"CSV parse error: record {p.row} (line {p.line}, field: {p.field}, byte: {p.start}): " ++
      s!"invalid utf-8: invalid UTF-8 in field {p.field} near byte index {p.valid}"
  | missingColumn column => s!"missing column {column}"
  | badTimestamp date time fault => s!"bad timestamp '{date} {time}': " ++ fault.message
  | unreadable cause => cause.message

/-- The two streams of a process. -/
inductive Stream where
  | stdout
  | stderr
  deriving DecidableEq, Repr

/-- The name of a stream. -/
def Stream.name : Stream → String
  | stdout => "stdout"
  | stderr => "stderr"

/-- Why a test case ends. -/
inductive Failure where
  /-- A process ended with a code that is not allowed. -/
  | returnCode (command : CommandLine) (code : Int32) (allowed : List Int32)
      (stdout stderr : List String)
  /-- A process wrote another number of lines than it has to. -/
  | outputShape (command : CommandLine) (stream : Stream) (expected actual : Nat)
      (stdout stderr : List String)
  /-- A result differs from the expected file. -/
  | goldenMismatch (expected diff : String)
  /-- A variable that has no default is not set. -/
  | missingVariable (name : String)
  /-- A process could not be started. -/
  | spawn (command : CommandLine) (cause : OsError)
  /-- A file could not be read, created or removed. -/
  | file (path : String) (cause : OsError)
  /-- A line to be deleted does not exist. -/
  | lineIndex (index count : Nat)
  /-- A row of a capture is refused; rows count from one. -/
  | malformedRow (row : Nat) (fault : RowFault)
  /-- A text is no mask. -/
  | invalidMask (mask : String) (fault : MaskFault)
  /-- A line of output is not the one that has to stand there. -/
  | unexpectedLine (index : Nat) (expected actual : String)
  /-- A configuration file cannot be read as one. -/
  | configuration
  /-- A normalization rule could undo another. -/
  | invalidRule (pattern replacement : String)
  deriving DecidableEq, Repr

namespace Failure

/-- The two streams at the end of a message. -/
def shownStreams (stdout stderr : List String) : String :=
  "\nstderr: " ++ Text.quoteList stderr ++ "\nstdout: " ++ Text.quoteList stdout

/-- The words for a failure. -/
def message : Failure → String
  | returnCode command code allowed stdout stderr =>
    s!"wrong return code {code.toInt}, expected: " ++
      Text.bracketed (allowed.map fun c => toString c.toInt) ++
      ", command line: " ++ command.display ++ shownStreams stdout stderr
  | outputShape command stream expected actual stdout stderr =>
    "wrong " ++ stream.name ++ s!", expected {expected} lines, got {actual}, command line: " ++
      command.display ++ shownStreams stdout stderr
  | goldenMismatch expected diff => "diff against " ++ expected ++ ":\n" ++ diff
  | missingVariable name => "required environment variable " ++ name ++ " is not set"
  | spawn command cause => "failed to start " ++ command.display ++ ": " ++ cause.message
  | file path cause => path ++ ": " ++ cause.message
  | lineIndex index count => s!"cannot delete line {index}: only {count} lines left"
  | malformedRow row fault => s!"malformed capture row {row}: " ++ fault.message
  | invalidMask mask fault => "invalid bit mask '" ++ mask ++ "': " ++ fault.message
  | unexpectedLine index expected actual =>
    s!"line {index}: expected '{expected}', got '{actual}'"
  | configuration => "invalid configuration"
  | invalidRule pattern replacement =>
    "normalization rule '" ++ pattern ++ "' -> '" ++ replacement ++ "' is not idempotent"

/-- The refusal of the system that a failure reports, if one caused it. -/
def cause? : Failure → Option OsError
  | spawn _ cause => some cause
  | file _ cause => some cause
  | _ => none

end Failure

/-! ## Going on without a failure -/

/-- A sequence comes to a value exactly if its first part does and what goes on from there does. -/
theorem bind_eq_ok_iff {ε α β : Type} {x : Except ε α} {f : α → Except ε β} {b : β} :
    (x >>= f) = .ok b ↔ ∃ a, x = .ok a ∧ f a = .ok b := by
  cases x with
  | error e =>
    constructor
    · intro h
      cases h
    · rintro ⟨a, h, -⟩
      cases h
  | ok a =>
    constructor
    · intro h
      exact ⟨a, rfl, h⟩
    · rintro ⟨_, h, hf⟩
      cases h
      exact hf

/-- A sequence fails exactly if its first part does or what goes on from there does. -/
theorem bind_eq_error_iff {ε α β : Type} {x : Except ε α} {f : α → Except ε β} {e : ε} :
    (x >>= f) = .error e ↔ x = .error e ∨ ∃ a, x = .ok a ∧ f a = .error e := by
  cases x with
  | error e' =>
    constructor
    · intro h
      cases h
      exact .inl rfl
    · rintro (h | ⟨a, h, -⟩)
      · cases h
        rfl
      · cases h
  | ok a =>
    constructor
    · intro h
      exact .inr ⟨a, rfl, h⟩
    · rintro (h | ⟨_, h, hf⟩)
      · cases h
      · cases h
        exact hf

theorem check_bind_eq_ok_iff {ε β : Type} {x : Except ε Unit} {f : Unit → Except ε β} {b : β} :
    (x >>= f) = .ok b ↔ x = .ok () ∧ f () = .ok b := by
  rw [bind_eq_ok_iff]
  constructor
  · rintro ⟨_, h⟩
    exact h
  · intro h
    exact ⟨(), h⟩

end DeviceBench
