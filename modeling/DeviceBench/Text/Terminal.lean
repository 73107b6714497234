/-
Text as a terminal shows it. Escape sequences and control characters leave nothing to be seen;
tab, line feed, form feed and carriage return are kept.
-/
namespace DeviceBench.Text

/-- Where a terminal stands in a text: between sequences, or in one of some kind. -/
inductive Terminal where
  | between
  /-- After an escape character. -/
  | escape
  /-- After an escape character and a mark, up to the letter that ends them. -/
  | designation
  /-- In a control sequence, up to the letter that ends it. -/
  | control
  /-- In a control string with parameters: before them, in them, and after a mark that follows. -/
  | parameterStart
  | parameters
  | parameterMark
  /-- In a control string, up to an escape character. -/
  | string
  /-- In a command to the terminal's system, up to a bell or an escape character. -/
  | command
  deriving DecidableEq, Repr

namespace Terminal

/-- The state after a character that an escape character stands before. -/
def afterEscape (c : Char) : Terminal :=
  if c = '[' then .control
  else if c = ']' then .command
  else if c = 'P' then .parameterStart
  else if c = 'X' ∨ c = '^' ∨ c = '_' then .string
  else if ' ' ≤ c ∧ c ≤ '/' then .designation
  else if '0' ≤ c ∧ c ≤ '~' then .between
  else .escape

/-- The string terminator of eight bits. A control string ends at it even where it is a byte of a
longer character. -/
def stringEnd : UInt8 := 0x9C

/-- The state after a character that is not shown. Cancel and substitute end every sequence, and an
escape character starts a new one in any. -/
def after (t : Terminal) (c : Char) : Terminal :=
  if c = '\x18' ∨ c = '\x1a' then .between
  else if c = '\x1b' then .escape
  else
    match t with
    | between => .between
    | escape => afterEscape c
    | designation => if '0' ≤ c ∧ c ≤ '~' then .between else .designation
    | control => if '@' ≤ c ∧ c ≤ '~' then .between else .control
    | parameterStart =>
      if '@' ≤ c ∧ c ≤ '~' then .string
      else if '0' ≤ c ∧ c ≤ '?' then .parameters
      else if ' ' ≤ c ∧ c ≤ '/' then .parameterMark
      else .parameterStart
    | parameters =>
      if '<' ≤ c ∧ c ≤ '~' then .string
      else if ' ' ≤ c ∧ c ≤ '/' then .parameterMark
      else .parameters
    | parameterMark => if '0' ≤ c ∧ c ≤ '~' then .string else .parameterMark
    | string => if (String.utf8EncodeChar c).contains stringEnd then .between else .string
    | command => if c = '\x07' then .between else .command

/-- The character is shown. The controls that move within a text break off a short sequence. -/
def shows (t : Terminal) (c : Char) : Bool :=
  let isMove := c = '\t' || c = '\n' || c = '\x0c' || c = '\r'
  match t with
  | between => isMove || (' ' ≤ c && c ≠ '\x7f')
  | escape | designation | control => isMove
  | parameterStart | parameters | parameterMark | string | command => false

/-- The characters that are shown from a state on. -/
def shown : Terminal → List Char → List Char
  | _, [] => []
  | t, c :: cs => if t.shows c then c :: shown .between cs else shown (t.after c) cs

end Terminal

/-- What a terminal shows of a text. -/
def visible (text : String) : String := String.ofList (Terminal.shown .between text.toList)

end DeviceBench.Text
