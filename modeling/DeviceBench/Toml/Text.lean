/-
The parts of TOML text: blanks, comments and line ends, quoted texts of four kinds, and keys. Every
reader takes what it reads off the front of the characters, or refuses them.
-/
import DeviceBench.Text.Numeral

namespace DeviceBench.Toml

/-- What a reader has read, and the characters after it. -/
abbrev Taken (α : Type) := Option (α × List Char)

/-! ## Blanks and line ends -/

/-- The characters without blanks and tabs in front. -/
def dropSpaces (cs : List Char) : List Char := cs.dropWhile fun c => c = ' ' || c = '\t'

/-- The character may stand in a comment or on a line of a quoted text. -/
def isPrintable (c : Char) : Bool := c = '\t' || (0x20 ≤ c.toNat && c.toNat ≠ 0x7F)

/-- The characters from the end of a comment on, if one stands in front. -/
def dropComment (cs : List Char) : Option (List Char) :=
  match cs with
  | '#' :: cs =>
    let rest := cs.dropWhile isPrintable
    match rest with
    | [] => some []
    | '\n' :: _ => some rest
    | '\r' :: '\n' :: _ => some rest
    | _ => none
  | cs => some cs

/-- The characters after the end of a line, at which only blanks and a comment may stand. -/
def dropLineEnd (cs : List Char) : Option (List Char) :=
  match dropComment (dropSpaces cs) with
  | some [] => some []
  | some ('\n' :: cs) => some cs
  | some ('\r' :: '\n' :: cs) => some cs
  | _ => none

/-- The characters without blanks, comments and line ends in front, so many of them at most. -/
def dropLines : Nat → List Char → Option (List Char)
  | 0, cs => some cs
  | fuel + 1, cs =>
    match dropComment (dropSpaces cs) with
    | some ('\n' :: cs) => dropLines fuel cs
    | some ('\r' :: '\n' :: cs) => dropLines fuel cs
    | rest => rest

/-! ## Quoted texts -/

/-- The character with a code of hexadecimal digits. -/
def codePoint? (digits : List Char) : Option Char := do
  let n ← digits.foldlM (fun n c => (Text.digitValue? 16 c).map (n * 16 + ·)) 0
  if n < 0xD800 ∨ (0xE000 ≤ n ∧ n ≤ 0x10FFFF) then some (Char.ofNat n) else none

/-- The character that a backslash and a letter stand for. -/
def escaped? : Char → Option Char
  | 'b' => some '\x08'
  | 't' => some '\t'
  | 'n' => some '\n'
  | 'e' => some '\x1b'
  | 'f' => some '\x0c'
  | 'r' => some '\r'
  | '"' => some '"'
  | '\\' => some '\\'
  | _ => none

/-- The rest of a text between double quotes on one line. -/
def basicText : List Char → List Char → Taken (List Char)
  | '"' :: cs, read => some (read.reverse, cs)
  | '\\' :: 'x' :: a :: b :: cs, read =>
    (codePoint? [a, b]).bind fun x => basicText cs (x :: read)
  | '\\' :: 'u' :: a :: b :: c :: d :: cs, read =>
    (codePoint? [a, b, c, d]).bind fun x => basicText cs (x :: read)
  | '\\' :: 'U' :: a :: b :: c :: d :: e :: f :: g :: h :: cs, read =>
    (codePoint? [a, b, c, d, e, f, g, h]).bind fun x => basicText cs (x :: read)
  | '\\' :: c :: cs, read => (escaped? c).bind fun x => basicText cs (x :: read)
  | c :: cs, read => if isPrintable c then basicText cs (c :: read) else none
  | [], _ => none

/-- The rest of a text between single quotes on one line. -/
def literalText : List Char → List Char → Taken (List Char)
  | '\'' :: cs, read => some (read.reverse, cs)
  | c :: cs, read => if isPrintable c then literalText cs (c :: read) else none
  | [], _ => none

/-- Only blanks stand between here and the end of the line. -/
def endsLine (cs : List Char) : Bool :=
  match dropSpaces cs with
  | '\n' :: _ => true
  | '\r' :: '\n' :: _ => true
  | _ => false

/-- The rest of a text between three double quotes. Up to two quotes more belong to it. A backslash
at the end of a line leaves out all blanks and line ends up to the next character. -/
def longBasicText : Bool → List Char → List Char → Taken (List Char)
  | true, ' ' :: cs, read => longBasicText true cs read
  | true, '\t' :: cs, read => longBasicText true cs read
  | true, '\n' :: cs, read => longBasicText true cs read
  | true, '\r' :: '\n' :: cs, read => longBasicText true cs read
  | _, '"' :: '"' :: '"' :: '"' :: '"' :: cs, read => some (('"' :: '"' :: read).reverse, cs)
  | _, '"' :: '"' :: '"' :: '"' :: cs, read => some (('"' :: read).reverse, cs)
  | _, '"' :: '"' :: '"' :: cs, read => some (read.reverse, cs)
  | _, '\\' :: 'x' :: a :: b :: cs, read =>
    (codePoint? [a, b]).bind fun x => longBasicText false cs (x :: read)
  | _, '\\' :: 'u' :: a :: b :: c :: d :: cs, read =>
    (codePoint? [a, b, c, d]).bind fun x => longBasicText false cs (x :: read)
  | _, '\\' :: 'U' :: a :: b :: c :: d :: e :: f :: g :: h :: cs, read =>
    (codePoint? [a, b, c, d, e, f, g, h]).bind fun x => longBasicText false cs (x :: read)
  | _, '\\' :: c :: cs, read =>
    if endsLine (c :: cs) then longBasicText true (c :: cs) read
    else (escaped? c).bind fun x => longBasicText false cs (x :: read)
  | _, '\r' :: '\n' :: cs, read => longBasicText false cs ('\n' :: '\r' :: read)
  | _, c :: cs, read =>
    if c = '\n' ∨ isPrintable c then longBasicText false cs (c :: read) else none
  | _, [], _ => none

/-- The rest of a text between three single quotes. Up to two quotes more belong to it. -/
def longLiteralText : List Char → List Char → Taken (List Char)
  | '\'' :: '\'' :: '\'' :: '\'' :: '\'' :: cs, read => some (('\'' :: '\'' :: read).reverse, cs)
  | '\'' :: '\'' :: '\'' :: '\'' :: cs, read => some (('\'' :: read).reverse, cs)
  | '\'' :: '\'' :: '\'' :: cs, read => some (read.reverse, cs)
  | '\r' :: '\n' :: cs, read => longLiteralText cs ('\n' :: '\r' :: read)
  | c :: cs, read => if c = '\n' ∨ isPrintable c then longLiteralText cs (c :: read) else none
  | [], _ => none

/-- The characters without a line end in front. -/
def dropFirstLineEnd : List Char → List Char
  | '\n' :: cs => cs
  | '\r' :: '\n' :: cs => cs
  | cs => cs

/-- A quoted text of any kind; none if there is no quote in front. -/
def quotedText? (cs : List Char) : Option (Taken (List Char)) :=
  match cs with
  | '"' :: '"' :: '"' :: cs => some (longBasicText false (dropFirstLineEnd cs) [])
  | '"' :: cs => some (basicText cs [])
  | '\'' :: '\'' :: '\'' :: cs => some (longLiteralText (dropFirstLineEnd cs) [])
  | '\'' :: cs => some (literalText cs [])
  | _ => none

/-! ## Keys -/

/-- The character may stand in a key without quotes. -/
def isBareKeyChar (c : Char) : Bool := c.isAlphanum || c = '_' || c = '-'

/-- One key: bare, or a quoted text on one line. -/
def key (cs : List Char) : Taken String :=
  match cs with
  | '"' :: cs => (basicText cs []).map fun (k, rest) => (String.ofList k, rest)
  | '\'' :: cs => (literalText cs []).map fun (k, rest) => (String.ofList k, rest)
  | cs =>
    match cs.span isBareKeyChar with
    | ([], _) => none
    | (k, rest) => some (String.ofList k, rest)

/-- Keys with points between them, blanks allowed around each; at most so many. -/
def keyPath : Nat → List Char → Option (List String × List Char)
  | 0, _ => none
  | fuel + 1, cs => do
    let (k, rest) ← key (dropSpaces cs)
    match dropSpaces rest with
    | '.' :: rest => (keyPath fuel rest).map fun (ks, rest) => (k :: ks, rest)
    | rest => some ([k], rest)

/-- How many keys a path may have, and how many brackets of values may be open at once. -/
def maxDepth : Nat := 80

/-- A path of keys that is not too long, as the keys before the last and the last one. -/
def splitPath (ks : List String) : Option (List String × String) :=
  if maxDepth < ks.length then none else ks.getLast?.map fun last => (ks.dropLast, last)

end DeviceBench.Toml
