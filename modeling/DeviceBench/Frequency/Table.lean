/-
Frequency tables: how often each value of one column occurs in a capture, and how often per second.
The seconds reach from the earliest to the latest row.
-/
import DeviceBench.Frequency.Row
import DeviceBench.Number.Decimal
import DeviceBench.Time.Reading

namespace DeviceBench

/-- The values with their counts, ascending, the number of rows, and the earliest and latest time. -/
structure FrequencyTable where
  counts : List (String × Nat)
  total : Nat
  range : Option (Moment × Moment)
  deriving DecidableEq, Repr

namespace FrequencyTable

/-! ## Counting -/

/-- The table of no rows. -/
def empty : FrequencyTable := ⟨[], 0, none⟩

/-- The column of the value unless another is named. -/
def defaultColumn : Nat := 20

/-- One more occurrence of a value. -/
def tally (value : String) : List (String × Nat) → List (String × Nat)
  | [] => [(value, 1)]
  | (v, n) :: counts =>
    if value < v then (value, 1) :: (v, n) :: counts
    else if value = v then (v, n + 1) :: counts
    else (v, n) :: tally value counts

/-- The range with one more point. -/
def widen (t : Moment) : Option (Moment × Moment) → Moment × Moment
  | none => (t, t)
  | some (first, last) => (first.earlier t, last.later t)

/-- One more row with a value and a time. -/
def add (table : FrequencyTable) (value : String) (t : Moment) : FrequencyTable :=
  ⟨tally value table.counts, table.total + 1, some (widen t table.range)⟩

/-- A field of a row. -/
def column (fields : List String) (i : Nat) : Except RowFault String :=
  match fields[i]? with
  | some text => .ok text
  | none => .error (.missingColumn i)

/-- The time and value of the row with this number: its text, the date and time columns, the time
itself and the value column are checked in this order. -/
def readRow (valueColumn row : Nat) (r : Row) : Except RowFault (Moment × String) := do
  let fields ← r.texts row
  let date ← column fields 1
  let time ← column fields 2
  let t ← Moment.ofColumns date time
  let value ← column fields valueColumn
  return (t, value)

/-- The table with more rows, the first of them with this number; the first row with a fault ends
it. -/
def addRows (valueColumn : Nat) : Nat → FrequencyTable → List Row → Except Failure FrequencyTable
  | _, table, [] => .ok table
  | row, table, r :: rows =>
    match readRow valueColumn row r with
    | .error fault => .error (.malformedRow (row + 1) fault)
    | .ok (t, value) => addRows valueColumn (row + 1) (table.add value t) rows

/-- The table of a capture. -/
def ofBytes (bytes : Bytes) (valueColumn : Nat) : Except Failure FrequencyTable :=
  addRows valueColumn 0 empty (Row.ofBytes bytes)

/-! ## Rates -/

/-- How often a value occurs. -/
def count (table : FrequencyTable) (value : String) : Nat := (table.counts.lookup value).getD 0

/-- The microseconds from the earliest to the latest row; zero without rows, or when 64 bits cannot
hold them. -/
def spanMicros (table : FrequencyTable) : Int :=
  match table.range with
  | none => 0
  | some (first, last) => (last.microsSince? first).getD 0

/-- The size of the span in seconds. -/
def spanSeconds (table : FrequencyTable) : Binary64 :=
  (Binary64.ofNat table.spanMicros.natAbs).div (Binary64.ofNat 1000000)

/-- A count per second, unless the span is empty. -/
def rate? (table : FrequencyTable) (n : Nat) : Option Binary64 :=
  if 0 < table.spanMicros then some ((Binary64.ofNat n).div table.spanSeconds) else none

/-- How often a value occurs per second. -/
def frequency? (table : FrequencyTable) (value : String) : Option Binary64 :=
  table.rate? (table.count value)

/-! ## Text -/

/-- A text with blanks before it up to a width. -/
def padLeft (width : Nat) (s : String) : String :=
  String.ofList (List.replicate (width - s.length) ' ') ++ s

/-- A text with blanks on both sides up to a width, the odd one after it. -/
def padBoth (width : Nat) (s : String) : String :=
  let blanks := width - s.length
  String.ofList (List.replicate (blanks / 2) ' ') ++ s ++
    String.ofList (List.replicate (blanks - blanks / 2) ' ')

/-- The mark of a late message in a value. -/
def delayedMark : String := "!delayed"

/-- The mark of messages that collided. -/
def conflictMark : String := "!conflict"

/-- A text contains a mark. -/
def marked (mark value : String) : Bool := Text.occurs mark.toList value.toList

/-- The width of the value column. -/
def valueWidth (table : FrequencyTable) : Nat :=
  (table.counts.map fun (value, _) => value.length).foldl max "Value".length + 1

/-- The width of the count column. -/
def countWidth (table : FrequencyTable) : Nat :=
  (table.counts.map fun (_, n) => (toString n).length).foldl max
    (max "Count".length (toString table.total).length)

/-- Some value carries a mark. -/
def hasMarks (table : FrequencyTable) : Bool :=
  table.counts.any fun (value, _) => marked delayedMark value || marked conflictMark value

/-- A value as its row shows it: where some value is marked, values without a mark get the width of
the longer mark, and the shorter mark gets the blank that it lacks. -/
def shownValue (hasMarks : Bool) (value : String) : String :=
  value ++ (if hasMarks && !marked "!" value then "         " else "") ++
    (if marked delayedMark value then " " else "")

/-- A rate in its column, with three places. -/
def shownRate (table : FrequencyTable) (n : Nat) : String :=
  match table.rate? n with
  | some rate => padLeft 9 (Decimal.fixed 3 rate)
  | none => padLeft 9 "-"

/-- A row of the table without its end: the label, the count and the rate. -/
def shownRow (table : FrequencyTable) (label : String) (n : Nat) : String :=
  padLeft table.valueWidth label ++ ": " ++ padLeft table.countWidth (toString n) ++ " " ++
    table.shownRate n ++ "Hz"

/-- The span in seconds with six places. -/
def shownSpan (table : FrequencyTable) : String :=
  (if table.spanMicros < 0 then "-" else "") ++ Decimal.fixed 6 table.spanSeconds

/-- The line above the rows. -/
def headerLine (table : FrequencyTable) : String :=
  padBoth table.valueWidth "Value" ++ "  " ++ padLeft table.countWidth "Count" ++ "   " ++
    padLeft 9 "Frequency"

/-- The lines of the table: a header, a row for each value and one for all of them. -/
def lines (table : FrequencyTable) : List String :=
  table.headerLine ::
    (table.counts.map fun (value, n) => table.shownRow (shownValue table.hasMarks value) n) ++
    [table.shownRow "All" table.total ++ ", time span: " ++ table.shownSpan ++ "sec"]

/-- The table as text. -/
def render (table : FrequencyTable) : String := String.join (table.lines.map (· ++ "\n"))

end FrequencyTable

end DeviceBench
