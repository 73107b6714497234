/-
Time stamps: points in universal time. A stamp is written as date, `T`, time and `Z`, with as many
groups of three fraction digits as it needs; it is read with any offset, moved to universal time.
-/
import DeviceBench.Time.Reading
import DeviceBench.Text.Numeral

namespace DeviceBench.Stamp

/-! ## Writing -/

/-- A year: four digits, or a sign and at least four digits outside the years 0 to 9999. -/
def yearText (year : Int) : String :=
  if 0 ≤ year ∧ year ≤ 9999 then Text.paddedText 4 year.toNat
  else (if year < 0 then "-" else "+") ++ Text.paddedText 4 year.natAbs

/-- The digits of a fraction of a second in as few groups of three as hold it. -/
def fractionText (nano : Nat) : String :=
  if nano = 0 then ""
  else if nano % 1000000 = 0 then "." ++ Text.paddedText 3 (nano / 1000000)
  else if nano % 1000 = 0 then "." ++ Text.paddedText 6 (nano / 1000)
  else "." ++ Text.paddedText 9 nano

/-- A stamp; a leap second shows as second 60. -/
def write (t : Moment) : String :=
  let two := Text.paddedText 2
  yearText t.date.year ++ "-" ++ two t.date.month ++ "-" ++ two t.date.day ++ "T" ++
    two t.hour ++ ":" ++ two t.minute ++ ":" ++ two (t.second % 60 + t.nano / 1000000000) ++
    fractionText (t.nano % 1000000000) ++ "Z"

/-! ## Reading -/

/-- Two digits. -/
def twoDigits : TimeReader Nat := do
  match ← get with
  | a :: b :: cs =>
    if a.isDigit && b.isDigit then
      set cs
      return (a.toNat - '0'.toNat) * 10 + (b.toNat - '0'.toNat)
    else throw .invalid
  | _ => throw .tooShort

/-- Hours and minutes of an offset in minutes, with colons or blanks between them. -/
def offsetMinutes : TimeReader Nat := do
  let hours ← twoDigits
  modify fun cs => cs.dropWhile fun c => c = ':' || Text.isBlank c
  let minutes ← twoDigits
  if 59 < minutes then throw .outOfRange
  return hours * 60 + minutes

/-- The minutes that a clock with this offset is ahead of universal time: `Z`, `UTC` in any case, or
a sign with hours and minutes. -/
def offset : TimeReader Int := do
  let cs ← get
  if (cs.take 3).map Char.toUpper = ['U', 'T', 'C'] then
    set (cs.drop 3)
    return 0
  match cs with
  | [] => throw .tooShort
  | c :: cs =>
    set cs
    if c = 'Z' ∨ c = 'z' then return 0
    else if c = '+' then do
      let n ← offsetMinutes
      return (n : Int)
    else if c = '-' ∨ c = '\u2212' then do
      let n ← offsetMinutes
      return -(n : Int)
    else throw .invalid

/-- The point a number of minutes, less than a day, before another. -/
def minutesBefore? (t : Moment) (minutes : Int) : Option Moment :=
  let second : Int := t.second - minutes * 60
  if second < 0 then t.date.previous?.bind fun d => Moment.of? d (second + 86400).toNat t.nano
  else if second < 86400 then Moment.of? t.date second.toNat t.nano
  else t.date.next?.bind fun d => Moment.of? d (second - 86400).toNat t.nano

/-- A stamp with blanks allowed between its parts, in universal time. -/
def reader : TimeReader Moment := do
  let y ← TimeReader.year
  TimeReader.blanks
  TimeReader.mark '-'
  let m ← TimeReader.field 1 12
  TimeReader.blanks
  TimeReader.mark '-'
  let d ← TimeReader.field 1 31
  match ← get with
  | [] => throw .tooShort
  | c :: cs => if c = 'T' ∨ c = 't' ∨ c = ' ' then set cs else throw .invalid
  let hour ← TimeReader.field 0 23
  TimeReader.blanks
  TimeReader.mark ':'
  let minute ← TimeReader.field 0 59
  TimeReader.blanks
  TimeReader.mark ':'
  let second ← TimeReader.field 0 60
  let nano ← TimeReader.fraction
  TimeReader.blanks
  let minutes ← offset
  TimeReader.blanks
  TimeReader.finish
  if minutes ≤ -1440 ∨ 1440 ≤ minutes then throw .outOfRange
  let local? := (Date.of? y m d).bind fun date => Moment.ofClock? date hour minute second nano
  match local?.bind fun t => minutesBefore? t minutes with
  | some t => return t
  | none => throw .outOfRange

/-- The point in universal time that a stamp names. -/
def read? (text : String) : Option Moment :=
  match reader.run text.toList with
  | .ok (t, _) => some t
  | .error _ => none

end DeviceBench.Stamp
