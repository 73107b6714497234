/-
Values of JSON text and their compact written form. Fields keep their order; a text escapes only
quotes, backslashes and controls.
-/
import DeviceBench.Text.Numeral

namespace DeviceBench

/-- A value of JSON text. A real number keeps only whether a double can hold it, and a text with an
unpaired surrogate keeps nothing: no value of this library is made of either. -/
inductive Json where
  | null
  | bool (b : Bool)
  | integer (n : Int)
  | real (finite : Bool)
  | text (s : String)
  | brokenText
  | list (items : List Json)
  /-- The fields in order; a name with an unpaired surrogate is none. -/
  | record (fields : List (Option String × Json))
  deriving Repr, Inhabited

namespace Json

/-- The fields of a record whose names are texts. -/
def fields (named : List (String × Json)) : Json :=
  .record (named.map fun (name, value) => (some name, value))

/-- A list of texts. -/
def texts (items : List String) : Json := .list (items.map .text)

/-! ## Writing -/

/-- How a text writes one character. -/
def escapeChar (c : Char) : List Char :=
  match c with
  | '"' => ['\\', '"']
  | '\\' => ['\\', '\\']
  | '\x08' => ['\\', 'b']
  | '\t' => ['\\', 't']
  | '\n' => ['\\', 'n']
  | '\x0c' => ['\\', 'f']
  | '\r' => ['\\', 'r']
  | _ =>
    if c.toNat < 0x20 then ['\\', 'u', '0', '0', (c.toNat / 16).digitChar, (c.toNat % 16).digitChar]
    else [c]

/-- A text between quotes. -/
def writeText (s : String) : List Char := '"' :: s.toList.flatMap escapeChar ++ ['"']

mutual

/-- A value in compact form. -/
def write : Json → List Char
  | .null => ['n', 'u', 'l', 'l']
  | .bool true => ['t', 'r', 'u', 'e']
  | .bool false => ['f', 'a', 'l', 's', 'e']
  | .integer n => (toString n).toList
  | .real _ => ['0', '.', '0']
  | .text s => writeText s
  | .brokenText => writeText ""
  | .list items => '[' :: writeItems items
  | .record fields => '\x7b' :: writeFields fields

/-- The items of a list and the bracket that closes it. -/
def writeItems : List Json → List Char
  | [] => [']']
  | [v] => write v ++ [']']
  | v :: vs => write v ++ ',' :: writeItems vs

/-- The fields of a record and the brace that closes it. -/
def writeFields : List (Option String × Json) → List Char
  | [] => ['\x7d']
  | [(name, v)] => writeText (name.getD "") ++ ':' :: write v ++ ['\x7d']
  | (name, v) :: fs => writeText (name.getD "") ++ ':' :: write v ++ ',' :: writeFields fs

end

/-- The compact text of a value. -/
def toText (v : Json) : String := String.ofList v.write

/-! ## Shape -/

mutual

/-- How deep lists and records are nested in a value. -/
def depth : Json → Nat
  | .list items => depthOfItems items + 1
  | .record fields => depthOfFields fields + 1
  | _ => 0

/-- The greatest depth among items. -/
def depthOfItems : List Json → Nat
  | [] => 0
  | v :: vs => max (depth v) (depthOfItems vs)

/-- The greatest depth among fields. -/
def depthOfFields : List (Option String × Json) → Nat
  | [] => 0
  | (_, v) :: fs => max (depth v) (depthOfFields fs)

end

mutual

/-- Every text in the value is one, and a double can hold every real number in it. -/
def isPlain : Json → Bool
  | .real finite => finite
  | .brokenText => false
  | .list items => itemsArePlain items
  | .record fields => fieldsArePlain fields
  | _ => true

/-- All items are plain. -/
def itemsArePlain : List Json → Bool
  | [] => true
  | v :: vs => isPlain v && itemsArePlain vs

/-- All fields are plain, and so are their names. -/
def fieldsArePlain : List (Option String × Json) → Bool
  | [] => true
  | (name, v) :: fs => name.isSome && isPlain v && fieldsArePlain fs

end

end Json

end DeviceBench
