/-
Blank characters. A character is blank when it has the Unicode property White_Space; command lines
quote arguments by it, pattern listings cut words by it and civil times skip it.
-/
namespace DeviceBench.Text

/-- The characters with the Unicode property White_Space. -/
def isBlank (c : Char) : Bool :=
  let n := c.toNat
  (0x9 ≤ n && n ≤ 0xD) || n == 0x20 || n == 0x85 || n == 0xA0 || n == 0x1680 ||
    (0x2000 ≤ n && n ≤ 0x200A) || n == 0x2028 || n == 0x2029 || n == 0x202F || n == 0x205F ||
    n == 0x3000

/-- What is left of a text after its leading blanks. -/
def dropBlank (cs : List Char) : List Char := cs.dropWhile isBlank

/-- The first run of characters that are not blank, if there is one. -/
def firstWord? (cs : List Char) : Option (List Char) :=
  match dropBlank cs with
  | [] => none
  | rest => some (rest.takeWhile fun c => !isBlank c)

end DeviceBench.Text
