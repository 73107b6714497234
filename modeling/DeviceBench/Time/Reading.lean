/-
Reading civil times from left to right. The first fault met decides: a text that ends too soon, a
character that does not belong, or a number outside its range.
-/
import DeviceBench.Failure
import DeviceBench.Text.Search
import DeviceBench.Time.Moment

namespace DeviceBench

/-- A reader of a part of a time: it takes characters off the text or stops at a fault. -/
abbrev TimeReader := StateT (List Char) (Except TimeFault)

/-- The greatest number that a part of a time can be read as. -/
def maxTimeNumber : Nat := 9223372036854775807

namespace TimeReader

/-- Skips blanks. -/
def blanks : TimeReader Unit := modify Text.dropBlank

/-- The number at the start of the text, in at most so many digits. -/
def number (width : Option Nat) : TimeReader Nat := do
  let cs ← get
  match cs with
  | [] => throw .tooShort
  | c :: _ =>
    if !c.isDigit then throw .invalid
    let digits := (match width with | some w => cs.take w | none => cs).takeWhile Char.isDigit
    let value : Nat := digits.foldl (fun n c => n * 10 + (c.toNat - '0'.toNat)) 0
    if maxTimeNumber < value then throw .outOfRange
    set (cs.drop digits.length)
    return value

/-- A number of one or two digits from `low` to `high`, blanks allowed before it. -/
def field (low high : Nat) : TimeReader Nat := do
  blanks
  let n ← number (some 2)
  if n < low ∨ high < n then throw .outOfRange
  return n

/-- A year, blanks allowed before it: four digits, or any number of them after a sign. -/
def year : TimeReader Int := do
  blanks
  let cs ← get
  let y ← match cs with
    | '-' :: cs => do set cs; let n ← number none; pure (-(n : Int))
    | '+' :: cs => do set cs; let n ← number none; pure (n : Int)
    | _ => do let n ← number (some 4); pure (n : Int)
  if y < -2147483648 ∨ 2147483647 < y then throw .outOfRange
  return y

/-- One character that has to stand here. -/
def mark (c : Char) : TimeReader Unit := do
  match ← get with
  | [] => throw .tooShort
  | c' :: cs => if c' = c then set cs else throw .invalid

/-- The nanoseconds of a fraction, if one stands here: nine digits count, more are skipped. -/
def fraction : TimeReader Nat := do
  match ← get with
  | '.' :: cs =>
    set cs
    let n ← number (some 9)
    let read := cs.length - (← get).length
    modify fun rest => rest.dropWhile Char.isDigit
    return n * Nat.pow 10 (9 - read)
  | _ => return 0

/-- Nothing may be left. -/
def finish : TimeReader Unit := do
  if !(← get).isEmpty then throw .trailing

/-- A date and a time of day with a blank between them, as any amount of blanks. -/
def dateAndTime : TimeReader Moment := do
  let y ← year
  mark '-'
  let m ← field 1 12
  mark '-'
  let d ← field 1 31
  blanks
  let hour ← field 0 23
  mark ':'
  let minute ← field 0 59
  mark ':'
  let second ← field 0 60
  let nano ← fraction
  finish
  match (Date.of? y m d).bind fun date => Moment.ofClock? date hour minute second nano with
  | some t => return t
  | none => throw .outOfRange

end TimeReader

namespace Moment

/-- The point that a date and time in one text name. -/
def read (text : List Char) : Except TimeFault Moment :=
  (TimeReader.dateAndTime.run text).map (·.1)

/-- The start of a text that has exactly so many bytes, if a character ends there. -/
def firstBytes? : Nat → List Char → Option (List Char)
  | 0, _ => some []
  | _ + 1, [] => none
  | n + 1, c :: cs =>
    if c.utf8Size ≤ n + 1 then (firstBytes? (n + 1 - c.utf8Size) cs).map (c :: ·) else none

/-- A time of day cut after six bytes of its fraction. -/
def cutFraction (time : List Char) : List Char :=
  match Text.splitFirst? '.' time with
  | none => time
  | some (whole, fraction) =>
    match firstBytes? 6 fraction with
    | none => time
    | some micros => whole ++ '.' :: micros

/-- The point that the date and time columns of a capture name, to the microsecond. -/
def ofColumns (date time : String) : Except RowFault Moment :=
  let time := String.ofList (cutFraction time.toList)
  match read (date.toList ++ ' ' :: time.toList) with
  | .ok t => .ok t
  | .error fault => .error (.badTimestamp date time fault)

end Moment

end DeviceBench
