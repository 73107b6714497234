/-
Reading doubles from text: an optional sign, then digits with an optional point and exponent, or one
of the words for infinity and for what is no number. The exact value is rounded once.
-/
import DeviceBench.Number.Binary64
import DeviceBench.Text.Numeral

namespace DeviceBench

/-- What a text can name: a number with its sign, or something beyond all numbers. -/
inductive Quantity where
  | finite (negative : Bool) (size : Binary64)
  | infinite (negative : Bool)
  | noNumber
  deriving DecidableEq, Repr

namespace Quantity

/-- Why a text names no number. -/
inductive Fault where
  | empty
  | invalid
  deriving DecidableEq, Repr

/-- The words for a fault. -/
def Fault.message : Fault → String
  | .empty => "cannot parse float from empty string"
  | .invalid => "invalid float literal"

/-- The value of decimal digits. -/
def digitsValue (digits : List Char) : Nat :=
  digits.foldl (fun n c => n * 10 + (c.toNat - '0'.toNat)) 0

/-- The double nearest to `mantissa * 10 ^ exponent`, if there is one. Sizes beyond four hundred
digits before or after the point decide alone. -/
def ofDecimal? (mantissa : Nat) (exponent : Int) : Option Binary64 :=
  let size : Int := (Nat.toDigits 10 mantissa).length + exponent
  if mantissa = 0 ∨ size < -400 then some .zero
  else if 400 < size then none
  else
    let x := Binary64.ofRatio (mantissa * Nat.pow 10 exponent.toNat) (Nat.pow 10 (-exponent).toNat)
    if x.num < 1 <<< 1024 then some x else none

/-- The exponent that a text writes after its digits. -/
def exponent? : List Char → Option Int
  | [] => some 0
  | e :: cs =>
    if e = 'e' ∨ e = 'E' then
      let (minus, digits) := match cs with
        | '-' :: cs => (true, cs)
        | '+' :: cs => (false, cs)
        | cs => (false, cs)
      if digits.isEmpty ∨ digits.any (fun c => !c.isDigit) then none
      else
        let n : Int := digitsValue digits
        some (if minus then -n else n)
    else none

/-- The number that a text without a sign writes. -/
def magnitude? (negative : Bool) (cs : List Char) : Option Quantity :=
  let (whole, rest) := cs.span Char.isDigit
  let (fraction, rest) := match rest with
    | '.' :: rest => rest.span Char.isDigit
    | rest => ([], rest)
  if whole.isEmpty ∧ fraction.isEmpty then none
  else
    (exponent? rest).map fun e =>
      match ofDecimal? (digitsValue (whole ++ fraction)) (e - fraction.length) with
      | some x => .finite negative x
      | none => .infinite negative

/-- What a text without a sign names. -/
def unsigned? (negative : Bool) (cs : List Char) : Option Quantity :=
  let word := String.ofList (cs.map Char.toLower)
  if word = "inf" ∨ word = "infinity" then some (.infinite negative)
  else if word = "nan" then some .noNumber
  else magnitude? negative cs

/-- What a text names. -/
def read (text : String) : Except Fault Quantity :=
  let found := match text.toList with
    | '-' :: cs => unsigned? true cs
    | '+' :: cs => unsigned? false cs
    | cs => unsigned? false cs
  match found with
  | some x => .ok x
  | none => .error (if text.isEmpty then .empty else .invalid)

end Quantity

end DeviceBench
