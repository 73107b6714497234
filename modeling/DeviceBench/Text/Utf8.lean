/-
UTF-8. Reading is one state machine over the bytes that cuts them into pieces: a character, or a
maximal ill-formed part. The lossy reading writes U+FFFD for each ill-formed part; the strict
reading refuses them and can tell how many bytes stand before the first.
-/
namespace DeviceBench

/-- A sequence of bytes. -/
abbrev Bytes := List UInt8

namespace Text

/-- Where the reader stands: between characters, or inside one with `owed` bytes to come, the next
of them from `low` to `high`, and `code` read so far. -/
inductive Utf8State where
  | start
  | inside (owed : Nat) (low high : UInt8) (code : Nat)
  deriving DecidableEq, Repr

/-- One piece of the bytes: a character, or nothing for an ill-formed part. -/
abbrev Piece := Option Char

/-- What a byte means between characters. -/
def utf8First (b : UInt8) : List Piece × Utf8State :=
  let n := b.toNat
  if n < 0x80 then ([some (Char.ofNat n)], .start)
  else if 0xC2 ≤ n ∧ n ≤ 0xDF then ([], .inside 1 0x80 0xBF (n - 0xC0))
  else if n = 0xE0 then ([], .inside 2 0xA0 0xBF 0)
  else if n = 0xED then ([], .inside 2 0x80 0x9F 0xD)
  else if 0xE1 ≤ n ∧ n ≤ 0xEF then ([], .inside 2 0x80 0xBF (n - 0xE0))
  else if n = 0xF0 then ([], .inside 3 0x90 0xBF 0)
  else if n = 0xF4 then ([], .inside 3 0x80 0x8F 4)
  else if 0xF1 ≤ n ∧ n ≤ 0xF3 then ([], .inside 3 0x80 0xBF (n - 0xF0))
  else ([none], .start)

/-- One byte: the pieces it completes and the state after it. A byte that cannot continue a
character ends an ill-formed part and is read again as a first byte. -/
def utf8Step : Utf8State → UInt8 → List Piece × Utf8State
  | .start, b => utf8First b
  | .inside owed low high code, b =>
    if low ≤ b ∧ b ≤ high then
      let code := code * 64 + (b.toNat - 0x80)
      if owed = 1 then ([some (Char.ofNat code)], .start)
      else ([], .inside (owed - 1) 0x80 0xBF code)
    else
      let (pieces, state) := utf8First b
      (none :: pieces, state)

/-- The pieces of the bytes from a state on, put in front of what was read, newest first. -/
def utf8PiecesOnto : Utf8State → Bytes → List Piece → List Piece
  | .start, [], read => read
  | .inside .., [], read => none :: read
  | state, b :: bs, read =>
    let (pieces, next) := utf8Step state b
    utf8PiecesOnto next bs (pieces.reverseAux read)

/-- The pieces of a byte sequence, in order. -/
def utf8Pieces (bytes : Bytes) : List Piece := (utf8PiecesOnto .start bytes []).reverse

/-- The character written for an ill-formed part. -/
def replacementChar : Char := '\uFFFD'

/-- The characters of the bytes, each ill-formed part read as U+FFFD. -/
def decodeLossy (bytes : Bytes) : List Char := (utf8Pieces bytes).map (·.getD replacementChar)

/-- The text of bytes that are well-formed UTF-8 throughout. -/
def decode? (bytes : Bytes) : Option String :=
  let pieces := utf8Pieces bytes
  if pieces.all Option.isSome then some (String.ofList (pieces.filterMap id)) else none

/-- How many bytes stand before the first ill-formed part. -/
def wellFormedBytes (bytes : Bytes) : Nat :=
  ((utf8Pieces bytes).takeWhile Option.isSome).foldl (fun n p => n + (p.map Char.utf8Size).getD 0) 0

/-- The bytes of a text. -/
def encode (text : String) : Bytes := text.toList.flatMap String.utf8EncodeChar

end Text

end DeviceBench
