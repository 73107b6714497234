/-
Points in civil time: a day, a second of the day and nanoseconds. During a leap second the second
stands still and the nanoseconds run on past a thousand million.
-/
import DeviceBench.Time.Date

namespace DeviceBench

/-- A point in civil time. -/
structure Moment where
  date : Date
  second : Nat
  nano : Nat
  second_lt : second < 86400
  nano_lt : nano < 2000000000
  leap : nano < 1000000000 ∨ second % 60 = 59
  deriving DecidableEq, Repr

namespace Moment

/-- The point with this second and nanosecond of a day, if there is one. -/
def of? (date : Date) (second nano : Nat) : Option Moment :=
  if h : second < 86400 ∧ nano < 2000000000 ∧ (nano < 1000000000 ∨ second % 60 = 59) then
    some ⟨date, second, nano, h.1, h.2.1, h.2.2⟩
  else none

/-- The point that a clock shows; a sixtieth second is the leap second after the fifty-ninth. -/
def ofClock? (date : Date) (hour minute second nano : Nat) : Option Moment :=
  if second = 60 then of? date (hour * 3600 + minute * 60 + 59) (1000000000 + nano)
  else of? date (hour * 3600 + minute * 60 + second) nano

/-- The hour that the clock shows. -/
def hour (t : Moment) : Nat := t.second / 3600

/-- The minute that the clock shows. -/
def minute (t : Moment) : Nat := t.second / 60 % 60

/-! ## Order and difference -/

/-- What points are compared by, most important first. -/
def key (t : Moment) : List Int :=
  [t.date.year, t.date.month, t.date.day, t.second, t.nano]

/-- The earlier of two points. -/
def earlier (a b : Moment) : Moment := if b.key < a.key then b else a

/-- The later of two points. -/
def later (a b : Moment) : Moment := if a.key < b.key then b else a

/-- The nanoseconds from `b` to `a`. A leap second counts once the clock has moved past it. -/
def nanosSince (a b : Moment) : Int :=
  let passed : Int :=
    if b.second < a.second then (if 1000000000 ≤ b.nano then 1 else 0)
    else if a.second < b.second then (if 1000000000 ≤ a.nano then -1 else 0)
    else 0
  ((a.date.number - b.date.number) * 86400 + ((a.second : Int) - b.second) + passed) * 1000000000 +
    ((a.nano : Int) - b.nano)

/-- The whole microseconds from `b` to `a`, if 64 bits can hold them. -/
def microsSince? (a b : Moment) : Option Int :=
  let micros := (a.nanosSince b).tdiv 1000
  if -9223372036854775808 ≤ micros ∧ micros ≤ 9223372036854775807 then some micros else none

end Moment

end DeviceBench
