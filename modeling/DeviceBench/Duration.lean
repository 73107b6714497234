/-
Spans of time in whole seconds and nanoseconds, never negative. They are read from seconds in
decimal text and shown as seconds with the fewest digits.
-/
import DeviceBench.Number.Decimal
import DeviceBench.Number.Quantity

namespace DeviceBench

/-- A span of time. -/
structure Duration where
  secs : Nat
  nanos : Nat
  secs_le : secs ≤ Text.maxWord
  nanos_lt : nanos < 1000000000
  deriving DecidableEq, Repr

namespace Duration

/-- The empty span. -/
def zero : Duration := ⟨0, 0, Nat.zero_le _, by decide⟩

/-- A span of so many seconds and nanoseconds, as far as they fit. -/
def of (secs : UInt64) (nanos : Nat) : Duration :=
  ⟨secs.toNat, nanos % 1000000000, Text.toNat_le_maxWord secs, Nat.mod_lt _ (by decide)⟩

/-- A span of milliseconds. -/
def ofMillis (ms : UInt64) : Duration :=
  ⟨ms.toNat / 1000, ms.toNat % 1000 * 1000000,
    Nat.le_trans (Nat.div_le_self _ _) (Text.toNat_le_maxWord ms), by omega⟩

/-- The span is empty. -/
def isZero (d : Duration) : Bool := d.secs == 0 && d.nanos == 0

/-! ## Reading -/

/-- Why a text is no span. -/
inductive Fault where
  | text (fault : Quantity.Fault)
  | negative
  | tooBig
  deriving DecidableEq, Repr

/-- The words for a fault. -/
def Fault.message : Fault → String
  | .text fault => fault.message
  | .negative => "cannot convert float seconds to Duration: value is negative"
  | .tooBig => "cannot convert float seconds to Duration: value is either too big or NaN"

/-- So many nanoseconds, if the seconds fit 64 bits. -/
def ofNanos? (n : Nat) : Option Duration :=
  if h : n / 1000000000 ≤ Text.maxWord then
    some ⟨n / 1000000000, n % 1000000000, h, Nat.mod_lt _ (by decide)⟩
  else none

/-- The span that a number of seconds is, rounded to nanoseconds, ties to even. -/
def ofQuantity : Quantity → Except Fault Duration
  | .finite negative x =>
    if negative ∧ x.mantissa ≠ 0 then .error .negative
    else
      match ofNanos? (roundHalfEven (x.num * 1000000000) x.den) with
      | some d => .ok d
      | none => .error .tooBig
  | .infinite true => .error .negative
  | .infinite false => .error .tooBig
  | .noNumber => .error .tooBig

/-- The span that a text writes in seconds. -/
def parse (text : String) : Except Fault Duration :=
  match Quantity.read text with
  | .ok x => ofQuantity x
  | .error fault => .error (.text fault)

/-! ## Showing -/

/-- The span in seconds as a double: the whole seconds and the fraction are rounded, then their
sum. -/
def seconds (d : Duration) : Binary64 :=
  (Binary64.ofNat d.secs).add ((Binary64.ofNat d.nanos).div (Binary64.ofNat 1000000000))

/-- The span in seconds with the fewest digits. -/
def secondsText (d : Duration) : String := Decimal.shortest d.seconds

end Duration

end DeviceBench
