/-
The capture log: every run in the order of recording, numbered from zero without gaps. A log can keep
a journal: then each recorded entry also becomes a line there, and clearing the log leaves the
journal as it is.
-/
import DeviceBench.Capture.Entry

namespace DeviceBench

/-- What a clock shows: the point in time and the milliseconds since the log was made. -/
structure ClockReading where
  time : Moment
  elapsed : Nat
  deriving DecidableEq, Repr

/-- The recorded runs, oldest first, and the lines of the journal if there is one. -/
structure CaptureLog where
  entries : List Entry
  journal : Option (List String)
  deriving DecidableEq, Repr

namespace CaptureLog

/-- A log without entries. -/
def empty (journaled : Bool) : CaptureLog := ⟨[], if journaled then some [] else none⟩

/-- The line of the journal for an entry, with its line feed. -/
def journalLine (e : Entry) : String := e.toText ++ "\n"

/-- The entry that a run becomes. -/
def nextEntry (log : CaptureLog) (clock : ClockReading) (command : CommandLine)
    (outcome : Outcome) : Entry :=
  ⟨log.entries.length, clock.time, clock.elapsed, command, outcome⟩

/-- Records a run and gives its number. -/
def record (log : CaptureLog) (clock : ClockReading) (command : CommandLine) (outcome : Outcome) :
    Nat × CaptureLog :=
  let e := log.nextEntry clock command outcome
  (e.seq, ⟨log.entries ++ [e], log.journal.map (· ++ [journalLine e])⟩)

/-- Forgets the recorded runs; numbers start again at zero. -/
def clear (log : CaptureLog) : CaptureLog := ⟨[], log.journal⟩

/-! ## Looking things up -/

/-- How many runs are recorded. -/
def size (log : CaptureLog) : Nat := log.entries.length

/-- The last `n` entries, oldest first. -/
def last (log : CaptureLog) (n : Nat) : List Entry := log.entries.drop (log.entries.length - n)

/-- How many entries satisfy a condition. -/
def count (log : CaptureLog) (p : Entry → Bool) : Nat := log.entries.countP p

/-- The entries with an argument that equals the token. -/
def withArg (log : CaptureLog) (token : String) : List Entry :=
  log.entries.filter (·.command.hasArg token)

/-- The entries that did not end with code zero. -/
def failures (log : CaptureLog) : List Entry := log.entries.filter fun e => !e.outcome.isSuccess

/-! ## Texts -/

/-- How an outcome is shown in one word or two. -/
def shownOutcome (o : Outcome) : String :=
  match o.code? with
  | some code => toString code.toInt
  | none => "spawn failed"

/-- An entry without its number. -/
def shownRun (e : Entry) : String := "[" ++ shownOutcome e.outcome ++ "] " ++ e.command.display

/-- The history for a reader: a line per entry, with number, outcome and command line. -/
def transcript (log : CaptureLog) : String :=
  String.join (log.entries.map fun e => s!"#{e.seq} " ++ shownRun e ++ "\n")

/-- The log in a few words. -/
def summary (log : CaptureLog) : String :=
  s!"CaptureLog \x7b len: {log.size}, mirrored: {log.journal.isSome} \x7d"

end CaptureLog

end DeviceBench
