/-
Whole numbers in text. Reading goes from left to right and stops at the first fault: a character
that is no digit, or a value outside the range. One leading plus sign is allowed, and for signed
numbers a minus sign; a sign alone is no number.
-/
namespace DeviceBench.Text

/-- Why a text is no number of the wanted range. -/
inductive NumeralFault where
  | empty
  | invalidDigit
  | tooLarge
  | tooSmall
  deriving DecidableEq, Repr

/-- The words for a fault. -/
def NumeralFault.message : NumeralFault → String
  | .empty => "cannot parse integer from empty string"
  | .invalidDigit => "invalid digit found in string"
  | .tooLarge => "number too large to fit in target type"
  | .tooSmall => "number too small to fit in target type"

/-- The value of a digit in a radix of at most sixteen, letters of either case. -/
def digitValue? (radix : Nat) (c : Char) : Option Nat :=
  let n := c.toNat
  let value? :=
    if 0x30 ≤ n ∧ n ≤ 0x39 then some (n - 0x30)
    else if 0x61 ≤ n ∧ n ≤ 0x66 then some (n - 0x61 + 10)
    else if 0x41 ≤ n ∧ n ≤ 0x46 then some (n - 0x41 + 10)
    else none
  value?.filter (· < radix)

/-- The value of digits read after `value`, which may not exceed `limit`. -/
def readDigits (radix limit : Nat) (excess : NumeralFault) :
    Nat → List Char → Except NumeralFault Nat
  | value, [] => .ok value
  | value, c :: cs =>
    match digitValue? radix c with
    | none => .error .invalidDigit
    | some d =>
      let next := value * radix + d
      if limit < next then .error excess else readDigits radix limit excess next cs

/-- The number up to `limit` that a text writes in a radix. -/
def readUnsigned (radix limit : Nat) : List Char → Except NumeralFault Nat
  | [] => .error .empty
  | ['+'] => .error .invalidDigit
  | '+' :: cs => readDigits radix limit .tooLarge 0 cs
  | cs => readDigits radix limit .tooLarge 0 cs

/-- The number from `-limit - 1` to `limit` that a text writes in decimal digits. -/
def readSigned (limit : Nat) : List Char → Except NumeralFault Int
  | ['-'] => .error .invalidDigit
  | '-' :: cs => (readDigits 10 (limit + 1) .tooSmall 0 cs).map fun n => -(n : Int)
  | cs => (readUnsigned 10 limit cs).map fun n => (n : Int)

/-- The greatest number of 64 bits. -/
def maxWord : Nat := 18446744073709551615

theorem toNat_le_maxWord (n : UInt64) : n.toNat ≤ maxWord := Nat.le_of_lt_succ n.toNat_lt

/-- A number in lower-case hexadecimal digits. -/
def hexText (n : Nat) : String := String.ofList (Nat.toDigits 16 n)

/-- A number in decimal digits, with at least `width` of them. -/
def paddedText (width n : Nat) : String :=
  let digits := Nat.toDigits 10 n
  String.ofList (List.replicate (width - digits.length) '0' ++ digits)

end DeviceBench.Text
