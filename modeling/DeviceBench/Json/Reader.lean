/-
Reading JSON text. The characters are cut into tokens by one pass of a state machine, and the tokens
are put together by a second one that keeps the open lists and records on a stack.
-/
import DeviceBench.Json.Value
import DeviceBench.Number.Binary64

namespace DeviceBench.Json

/-! ## Numbers -/

/-- The parts of a number literal. -/
structure Literal where
  negative : Bool
  whole : List Char
  fraction : Option (List Char)
  /-- The sign of the exponent, true for minus, and its digits. -/
  exponent : Option (Bool × List Char)

/-- The digits that a text starts with, at least one. -/
def someDigits (cs : List Char) : Option (List Char × List Char) :=
  match cs.span Char.isDigit with
  | ([], _) => none
  | parts => some parts

/-- The parts of a text that is a number literal throughout. -/
def literal? (cs : List Char) : Option Literal := do
  let (negative, cs) := match cs with
    | '-' :: cs => (true, cs)
    | cs => (false, cs)
  let (whole, cs) ← someDigits cs
  if whole.length > 1 ∧ whole.head? = some '0' then none
  let (fraction, cs) ← match cs with
    | '.' :: cs => (someDigits cs).map fun (digits, cs) => (some digits, cs)
    | cs => some (none, cs)
  let (exponent, cs) ← match cs with
    | e :: cs =>
      if e = 'e' ∨ e = 'E' then
        let (minus, cs) := match cs with
          | '-' :: cs => (true, cs)
          | '+' :: cs => (false, cs)
          | cs => (false, cs)
        (someDigits cs).map fun (digits, cs) => (some (minus, digits), cs)
      else none
    | [] => some (none, [])
  if cs.isEmpty then some ⟨negative, whole, fraction, exponent⟩ else none

/-- The number that digits write after `n`, as long as it stays within a limit, and the digits that
are left then. -/
def numberWithin (limit : Nat) : Nat → List Char → Nat × List Char
  | n, [] => (n, [])
  | n, c :: cs =>
    let next := n * 10 + (c.toNat - '0'.toNat)
    if limit < next then (n, c :: cs) else numberWithin limit next cs

/-- The greatest exponent that a literal may write. -/
def maxExponent : Nat := 2147483647

/-- Reading the literal as a double ends below infinity. The leading digits that fit 64 bits are
rounded to a double, which is multiplied by the double nearest to a power of ten, and that product is
rounded again; so a literal just above the greatest double may pass, and one just below it may fail.
Digits of the whole part that no longer fit raise the power, those of the fraction are left out. -/
def Literal.isFinite (l : Literal) : Bool :=
  let (n, skipped) := numberWithin Text.maxWord 0 l.whole
  let fraction := l.fraction.getD []
  let (n, unread) := numberWithin Text.maxWord n fraction
  let (minus, digits) := l.exponent.getD (false, [])
  let (size, excess) := numberWithin maxExponent 0 digits
  let places : Int := (fraction.length - unread.length : Nat)
  let power : Int := skipped.length - places + (if minus then -(size : Int) else size)
  if n = 0 ∨ power ≤ 0 ∨ (minus ∧ !excess.isEmpty) then true
  else
    excess.isEmpty && power ≤ 308 &&
      ((Binary64.ofNat n).mul (Binary64.ofNat (Nat.pow 10 power.toNat))).isFinite

/-- The value of a number literal: an integer when it is written as one, is not minus zero and fits
64 bits, signed or not. -/
def Literal.value (l : Literal) : Json :=
  match l.fraction, l.exponent, numberWithin Text.maxWord 0 l.whole with
  | none, none, (n, []) =>
    if !l.negative then .integer n
    else if 0 < n ∧ n ≤ 9223372036854775808 then .integer (-(n : Int))
    else .real true
  | _, _, _ => .real l.isFinite

/-- The value of a word that stands outside quotes. -/
def wordValue? (word : List Char) : Option Json :=
  if word = ['n', 'u', 'l', 'l'] then some .null
  else if word = ['t', 'r', 'u', 'e'] then some (.bool true)
  else if word = ['f', 'a', 'l', 's', 'e'] then some (.bool false)
  else (literal? word).map Literal.value

/-! ## Tokens -/

/-- A piece of JSON text. -/
inductive Token where
  | openList
  | closeList
  | openRecord
  | closeRecord
  | comma
  | colon
  | word (value : Json)
  /-- A quoted text, none when a surrogate in it is unpaired. -/
  | quoted (text : Option String)

/-- A quoted text under way: its characters, newest first, whether all surrogates so far were
paired, and a first surrogate that waits for its second. -/
structure Quoted where
  read : List Char
  sound : Bool
  high : Option Nat

namespace Quoted

/-- A quoted text at its opening quote. -/
def opened : Quoted := ⟨[], true, none⟩

/-- One more character. -/
def push (q : Quoted) (c : Char) : Quoted := ⟨c :: q.read, q.sound && q.high.isNone, none⟩

/-- One more unit of sixteen bits. -/
def pushUnit (q : Quoted) (unit : Nat) : Quoted :=
  let isHigh := decide (0xD800 ≤ unit ∧ unit < 0xDC00)
  let isLow := decide (0xDC00 ≤ unit ∧ unit < 0xE000)
  match q.high with
  | some high =>
    if isLow then
      ⟨Char.ofNat (0x10000 + (high - 0xD800) * 0x400 + (unit - 0xDC00)) :: q.read, q.sound, none⟩
    else ⟨q.read, false, none⟩
  | none =>
    if isHigh then ⟨q.read, q.sound, some unit⟩
    else if isLow then ⟨q.read, false, none⟩
    else ⟨Char.ofNat unit :: q.read, q.sound, none⟩

/-- The text at its closing quote. -/
def text? (q : Quoted) : Option String :=
  if q.sound && q.high.isNone then some (String.ofList q.read.reverse) else none

end Quoted

/-- Where the cutting of tokens stands. -/
inductive Lexing where
  | between
  /-- In a word, its characters newest first. -/
  | word (read : List Char)
  | quoted (q : Quoted)
  /-- After a backslash. -/
  | escaped (q : Quoted)
  /-- In a code of so many more digits. -/
  | code (left value : Nat) (q : Quoted)

/-- The character that a backslash and a letter stand for. -/
def escapedChar? : Char → Option Char
  | '"' => some '"'
  | '\\' => some '\\'
  | '/' => some '/'
  | 'b' => some '\x08'
  | 'f' => some '\x0c'
  | 'n' => some '\n'
  | 'r' => some '\r'
  | 't' => some '\t'
  | _ => none

/-- The token of a character that is one alone. -/
def mark? : Char → Option Token
  | '[' => some .openList
  | ']' => some .closeList
  | '\x7b' => some .openRecord
  | '\x7d' => some .closeRecord
  | ',' => some .comma
  | ':' => some .colon
  | _ => none

/-- A character between tokens. -/
def lexBetween (tokens : List Token) (c : Char) : Lexing × List Token :=
  if c = ' ' ∨ c = '\t' ∨ c = '\n' ∨ c = '\r' then (.between, tokens)
  else if c = '"' then (.quoted .opened, tokens)
  else
    match mark? c with
    | some token => (.between, token :: tokens)
    | none => (.word [c], tokens)

/-- One character: the state after it and the tokens so far, newest first. -/
def lexStep : Lexing × List Token → Char → Option (Lexing × List Token)
  | (.between, tokens), c => some (lexBetween tokens c)
  | (.word read, tokens), c =>
    if c = ' ' ∨ c = '\t' ∨ c = '\n' ∨ c = '\r' ∨ c = '"' ∨ (mark? c).isSome then
      (wordValue? read.reverse).map fun v => lexBetween (.word v :: tokens) c
    else some (.word (c :: read), tokens)
  | (.quoted q, tokens), c =>
    if c = '"' then some (.between, .quoted q.text? :: tokens)
    else if c = '\\' then some (.escaped q, tokens)
    else if c.toNat < 0x20 then none
    else some (.quoted (q.push c), tokens)
  | (.escaped q, tokens), c =>
    if c = 'u' then some (.code 4 0 q, tokens)
    else (escapedChar? c).map fun c => (.quoted (q.push c), tokens)
  | (.code left value q, tokens), c =>
    (Text.digitValue? 16 c).map fun d =>
      let value := value * 16 + d
      if left ≤ 1 then (.quoted (q.pushUnit value), tokens) else (.code (left - 1) value q, tokens)

/-- The tokens of a text. -/
def tokens? (cs : List Char) : Option (List Token) := do
  match ← cs.foldlM lexStep (.between, []) with
  | (.between, tokens) => some tokens.reverse
  | (.word read, tokens) => (wordValue? read.reverse).map fun v => (.word v :: tokens).reverse
  | _ => none

/-! ## Values -/

/-- A list or record that is still open, newest item first. -/
inductive Frame where
  | list (items : List Json)
  /-- The fields so far, and the name of the one whose value is due. -/
  | record (fields : List (Option String × Json)) (name : Option String)

/-- Where the reading of values stands. -/
inductive Reading where
  /-- A value is due, or the end of an empty list. -/
  | value (mayClose : Bool) (stack : List Frame)
  /-- A name is due, or the end of an empty record. -/
  | name (mayClose : Bool) (fields : List (Option String × Json)) (stack : List Frame)
  | colon (fields : List (Option String × Json)) (name : Option String) (stack : List Frame)
  | afterItem (items : List Json) (stack : List Frame)
  | afterField (fields : List (Option String × Json)) (stack : List Frame)
  | done (value : Json)

/-- A value that is complete goes into what is open around it. -/
def place (v : Json) : List Frame → Reading
  | [] => .done v
  | .list items :: stack => .afterItem (v :: items) stack
  | .record fields name :: stack => .afterField ((name, v) :: fields) stack

/-- One token. -/
def readStep : Reading → Token → Option Reading
  | .value mayClose stack, token =>
    match token, stack with
    | .word v, stack => some (place v stack)
    | .quoted (some s), stack => some (place (.text s) stack)
    | .quoted none, stack => some (place .brokenText stack)
    | .openList, stack => some (.value true (.list [] :: stack))
    | .openRecord, stack => some (.name true [] stack)
    | .closeList, .list [] :: stack => if mayClose then some (place (.list []) stack) else none
    | _, _ => none
  | .name _ fields stack, .quoted name => some (.colon fields name stack)
  | .name true _ stack, .closeRecord => some (place (.record []) stack)
  | .colon fields name stack, .colon => some (.value false (.record fields name :: stack))
  | .afterItem items stack, .comma => some (.value false (.list items :: stack))
  | .afterItem items stack, .closeList => some (place (.list items.reverse) stack)
  | .afterField fields stack, .comma => some (.name false fields stack)
  | .afterField fields stack, .closeRecord => some (place (.record fields.reverse) stack)
  | _, _ => none

/-- The value that a text writes. -/
def parse? (text : String) : Option Json := do
  let tokens ← tokens? text.toList
  match ← tokens.foldlM readStep (.value false []) with
  | .done v => some v
  | _ => none

end DeviceBench.Json
