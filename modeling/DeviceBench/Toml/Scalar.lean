/-
Scalars of TOML text other than quoted texts: truth values, whole and real numbers, dates and times.
Nothing is computed from them, so a number is only looked at as far as its kind and the places of
its underscores ask.
-/
import DeviceBench.Time.Date
import DeviceBench.Toml.Text

namespace DeviceBench.Toml

/-! ## Numbers -/

/-- The characters without a sign in front. -/
def dropSign : List Char → List Char
  | '+' :: cs => cs
  | '-' :: cs => cs
  | cs => cs

/-- The character is a digit of the radix. -/
def isDigitOf (radix : Nat) (c : Char) : Bool := (Text.digitValue? radix c).isSome

/-- Every underscore stands between two digits. The flag says that one may stand in front. -/
def joinsDigits (isDigit : Char → Bool) : Bool → List Char → Bool
  | _, [] => true
  | joins, '_' :: cs => joins && cs.head?.any isDigit && joinsDigits isDigit false cs
  | _, c :: cs => joinsDigits isDigit (isDigit c) cs

/-- A whole number in another radix, as what stands after its mark. -/
def isRadixInteger (radix : Nat) (cs : List Char) : Bool :=
  cs.all (fun c => isDigitOf radix c || c = '_') && joinsDigits (isDigitOf 16) false cs

/-- The characters after decimal digits and underscores, of which there is at least one digit. Only
where zeros may lead can the first of several digits be zero. -/
def dropDigits (zerosLead : Bool) (cs : List Char) : Option (List Char) :=
  let (run, rest) := cs.span fun c => c.isDigit || c = '_'
  let count := run.countP Char.isDigit
  if count = 0 ∨ (1 < count ∧ run.head? = some '0' ∧ !zerosLead) then none else some rest

/-- The characters after an exponent, if one stands in front. -/
def dropExponent (cs : List Char) : Option (List Char) :=
  match cs with
  | 'e' :: cs => dropDigits true (dropSign cs)
  | 'E' :: cs => dropDigits true (dropSign cs)
  | cs => some cs

/-- A whole number with a fraction, an exponent or both after it. -/
def isReal (cs : List Char) : Bool :=
  let rest := (dropDigits false cs).bind fun rest =>
    match rest with
    | '.' :: rest => (dropDigits true rest).bind dropExponent
    | rest => dropExponent rest
  rest = some []

/-! ## Dates and times -/

/-- The number that exactly so many digits in front write, and the characters after the last digit
in front. -/
def fixedNumber (width : Nat) (cs : List Char) : Option (Nat × List Char) :=
  let (digits, rest) := cs.span Char.isDigit
  if digits.length = width then
    some (digits.foldl (fun n c => n * 10 + (c.toNat - '0'.toNat)) 0, rest)
  else none

/-- The characters after a mark, if it stands in front. -/
def dropMark (mark : Char) : List Char → Option (List Char)
  | [] => none
  | c :: cs => if c = mark then some cs else none

/-- The characters after a day of the calendar. -/
def dropDate (cs : List Char) : Option (List Char) := do
  let (year, cs) ← fixedNumber 4 cs
  let (month, cs) ← fixedNumber 2 (← dropMark '-' cs)
  let (day, cs) ← fixedNumber 2 (← dropMark '-' cs)
  if month < 1 ∨ 12 < month ∨ day < 1 ∨ daysInMonth year month < day then none
  return cs

/-- The characters after a fraction of a second, if one stands in front. -/
def dropFraction (cs : List Char) : Option (List Char) :=
  match cs with
  | '.' :: d :: cs => if d.isDigit then some (cs.dropWhile Char.isDigit) else none
  | cs => some cs

/-- The characters after a time of day. Seconds may be left out, and may count to sixty. -/
def dropTime (cs : List Char) : Option (List Char) := do
  let (hour, cs) ← fixedNumber 2 cs
  let (minute, cs) ← fixedNumber 2 (← dropMark ':' cs)
  if 23 < hour ∨ 59 < minute then none
  match cs with
  | ':' :: cs =>
    let (second, cs) ← fixedNumber 2 cs
    if 60 < second then none
    dropFraction cs
  | cs => return cs

/-- The characters after an offset, if one stands in front. -/
def dropOffset (cs : List Char) : Option (List Char) :=
  match cs with
  | 'Z' :: cs => some cs
  | 'z' :: cs => some cs
  | sign :: cs =>
    if sign = '+' ∨ sign = '-' then do
      let (hours, cs) ← fixedNumber 2 cs
      let (minutes, cs) ← fixedNumber 2 (← dropMark ':' cs)
      if 23 < hours ∨ 59 < minutes then none
      return cs
    else some (sign :: cs)
  | [] => some []

/-- A date, a time of day, or both with an offset or without one. -/
def isDateTime (cs : List Char) : Bool :=
  let rest :=
    match dropDate cs with
    | none => dropTime cs
    | some (sep :: cs) =>
      if sep = 'T' ∨ sep = 't' ∨ sep = ' ' then (dropTime cs).bind dropOffset else none
    | some [] => some []
  rest = some []

/-! ## Scalars -/

/-- A number, a date or a time in decimal digits. The first character after its leading digits
decides which it is; after an underscore the letters of hexadecimal digits pass for digits. -/
def isDecimal (cs : List Char) : Bool :=
  let size := dropSign cs
  let signed := size.length < cs.length
  let (digits, rest) := size.span Char.isDigit
  if rest.isEmpty then !digits.isEmpty && (digits.length = 1 || digits.head? ≠ some '0')
  else if rest.head? = some '-' ∨ rest.head? = some ':' then isDateTime cs
  else if rest.any fun c => c = '.' || c = 'e' || c = 'E' then
    isReal size && joinsDigits Char.isDigit signed size
  else
    rest.head? = some '_' && digits.head? ≠ some '0' && joinsDigits (isDigitOf 16) signed size

/-- A scalar. -/
def isScalar (cs : List Char) : Bool :=
  match cs with
  | ['t', 'r', 'u', 'e'] => true
  | ['f', 'a', 'l', 's', 'e'] => true
  | '0' :: 'x' :: digits => isRadixInteger 16 digits
  | '0' :: 'o' :: digits => isRadixInteger 8 digits
  | '0' :: 'b' :: digits => isRadixInteger 2 digits
  | cs =>
    match dropSign cs with
    | ['i', 'n', 'f'] => true
    | ['n', 'a', 'n'] => true
    | _ => isDecimal cs

/-- The character may stand in a scalar. -/
def isScalarChar (c : Char) : Bool :=
  !"=,[]\x7b\x7d \t#\r\n".toList.contains c

/-- The characters after a scalar. A date may have one blank before its time. -/
def dropScalar (cs : List Char) : Option (List Char) :=
  let (word, rest) := cs.span isScalarChar
  match rest with
  | ' ' :: d :: more =>
    if dropDate word = some [] ∧ d.isDigit then
      let (time, rest) := (d :: more).span isScalarChar
      if isScalar (word ++ ' ' :: time) then some rest else none
    else if isScalar word then some rest else none
  | _ => if isScalar word then some rest else none

end DeviceBench.Toml
