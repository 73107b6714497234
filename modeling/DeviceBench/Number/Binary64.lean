/-
Doubles without a sign: a mantissa of 53 bits times a power of two. A ratio rounds to the nearest of
them, ties to the even mantissa; sums, products and quotients round the exact result the same way.
-/
namespace DeviceBench

/-- The nearest whole number to a ratio, ties to the even one. -/
def roundHalfEven (num den : Nat) : Nat :=
  let floor := num / den
  let rest := num % den
  if den < 2 * rest ∨ (2 * rest = den ∧ floor % 2 = 1) then floor + 1 else floor

/-- The number `mantissa * 2 ^ exponent`. A mantissa has 53 bits, or fewer at the least exponent. -/
structure Binary64 where
  mantissa : Nat
  exponent : Int
  deriving DecidableEq, Repr

namespace Binary64

/-- The least exponent. -/
def leastExponent : Int := -1074

/-- The greatest bit of a full mantissa, 2 to the power of 52, which is not stored. -/
def hiddenBit : Nat := 4503599627370496

/-- Zero. -/
def zero : Binary64 := ⟨0, leastExponent⟩

/-- The greatest power of two, as its exponent, that a positive ratio reaches. -/
def floorLog2 (num den : Nat) : Int :=
  let guess : Int := (Nat.log2 num : Int) - Nat.log2 den
  if den <<< guess.toNat ≤ num <<< (-guess).toNat then guess else guess - 1

/-- The double nearest to a ratio. Exponents have no upper end here. -/
def ofRatio (num den : Nat) : Binary64 :=
  if num = 0 then zero
  else
    let exponent := max (floorLog2 num den - 52) leastExponent
    let mantissa := roundHalfEven (num <<< (-exponent).toNat) (den <<< exponent.toNat)
    if mantissa = 2 * hiddenBit then ⟨hiddenBit, exponent + 1⟩ else ⟨mantissa, exponent⟩

/-- The double nearest to a whole number. -/
def ofNat (n : Nat) : Binary64 := ofRatio n 1

/-- The numerator of the exact value. -/
def num (x : Binary64) : Nat := x.mantissa <<< x.exponent.toNat

/-- The denominator of the exact value. -/
def den (x : Binary64) : Nat := 1 <<< (-x.exponent).toNat

/-- The rounded sum. -/
def add (x y : Binary64) : Binary64 := ofRatio (x.num * y.den + y.num * x.den) (x.den * y.den)

/-- The rounded product. -/
def mul (x y : Binary64) : Binary64 := ofRatio (x.num * y.num) (x.den * y.den)

/-- The rounded quotient by a positive double. -/
def div (x y : Binary64) : Binary64 := ofRatio (x.num * y.den) (x.den * y.num)

/-- The exponent is one that doubles have. -/
def isFinite (x : Binary64) : Bool := x.exponent ≤ 971

/-- The bits that store the double, without its sign. -/
def bits (x : Binary64) : Nat :=
  if x.mantissa < hiddenBit then x.mantissa
  else (x.exponent + 1075).toNat * hiddenBit + (x.mantissa - hiddenBit)

end Binary64

end DeviceBench
