/-
Decimal text of doubles, always positional. A number is written to a set number of places, the exact
value rounded with ties to even; or with the fewest digits that still read back as the same double.
-/
import DeviceBench.Number.Binary64

namespace DeviceBench.Decimal

/-- The digits of a whole number with so many of them after the point, which is left out when there
are none. -/
def placePoint (places digits : Nat) : String :=
  let shown := Nat.toDigits 10 digits
  let shown := List.replicate (places + 1 - shown.length) '0' ++ shown
  let whole := shown.take (shown.length - places)
  let fraction := shown.drop (shown.length - places)
  String.ofList (if fraction.isEmpty then whole else whole ++ '.' :: fraction)

/-- A double to a set number of places. -/
def fixed (places : Nat) (x : Binary64) : String :=
  placePoint places (roundHalfEven (x.num * Nat.pow 10 places) x.den)

/-! ## Fewest digits -/

/-- The numbers that round to a double: `low` to `high` over `den`, with the double itself at
`value`; the ends belong to them when the mantissa is even. -/
structure Interval where
  low : Nat
  value : Nat
  high : Nat
  den : Nat
  closed : Bool

/-- The numbers that round to a positive double. Below a power of two the doubles stand closer. -/
def Interval.of (x : Binary64) : Interval :=
  let unit := 1 <<< (x.exponent - 2).toNat
  let below := if x.mantissa = Binary64.hiddenBit ∧ x.exponent ≠ Binary64.leastExponent then 1 else 2
  ⟨(4 * x.mantissa - below) * unit, 4 * x.mantissa * unit, (4 * x.mantissa + 2) * unit,
    1 <<< (2 - x.exponent).toNat, x.mantissa % 2 = 0⟩

/-- The decimal `digits / 10 ^ places` rounds to the double. -/
def Interval.contains (i : Interval) (digits : Nat) (places : Int) : Bool :=
  let point := digits * Nat.pow 10 (-places).toNat * i.den
  let scale := Nat.pow 10 places.toNat
  if i.closed then i.low * scale ≤ point && point ≤ i.high * scale
  else i.low * scale < point && point < i.high * scale

/-- The digits of the decimal with so many places that rounds to the double and is nearest to it;
of two equally near the greater. -/
def Interval.nearest? (i : Interval) (places : Int) : Option Nat :=
  let scaled := i.value * Nat.pow 10 places.toNat
  let unit := i.den * Nat.pow 10 (-places).toNat
  let floor := scaled / unit
  match i.contains floor places, i.contains (floor + 1) places with
  | true, true => some (if 2 * (scaled % unit) < unit then floor else floor + 1)
  | true, false => some floor
  | false, true => some (floor + 1)
  | false, false => none

/-- The decimal with the fewest places, from `places` on. -/
def Interval.search (i : Interval) : Nat → Int → Int × Nat
  | 0, places => (places, 0)
  | fuel + 1, places =>
    match i.nearest? places with
    | some digits => (places, digits)
    | none => i.search fuel (places + 1)

/-- A double with the fewest digits that read back. The exact value has at most 1074 places, so the
search ends there. -/
def shortest (x : Binary64) : String :=
  if x.mantissa = 0 then "0"
  else
    let whole := (Nat.toDigits 10 (x.num / x.den)).length
    let (places, digits) := (Interval.of x).search (whole + 1074) (1 - (whole : Int))
    placePoint places.toNat (digits * Nat.pow 10 (-places).toNat)

end DeviceBench.Decimal
