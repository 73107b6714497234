/-
Rows of a capture. Fields are separated by single spaces; a field that starts with a quote may hold
spaces and line ends up to the closing quote, with a doubled quote for a quote. Line feeds and
carriage returns end a row, and empty lines are no rows.
-/
import DeviceBench.Failure
import DeviceBench.Text.Utf8

namespace DeviceBench

/-- The fields of a row, and where the row starts: the bytes before it and the number of its first
line. Empty lines before a row count as its start. -/
structure Row where
  fields : List Bytes
  start : Nat
  line : Nat
  deriving DecidableEq, Repr

namespace Row

/-- Where the reading of rows stands. -/
inductive Place where
  /-- Between rows. -/
  | between
  /-- At the start of a field. -/
  | fieldStart
  /-- In a field outside quotes. -/
  | plain
  | quoted
  /-- After a quote inside quotes, which closes them unless a second one follows. -/
  | closing
  deriving DecidableEq, Repr

/-- The state of reading: the row under way with its fields, newest first, the field under way, its
bytes newest first, what has been read, and the rows that are complete, newest first. -/
structure Reader where
  place : Place
  field : Bytes
  fields : List Bytes
  start : Nat
  line : Nat
  bytes : Nat
  lines : Nat
  rows : List Row

/-- A field separator. -/
def space : UInt8 := 0x20

/-- The quote around fields. -/
def quote : UInt8 := 0x22

/-- The byte ends a row. -/
def endsRow (b : UInt8) : Bool := b = 0x0A || b = 0x0D

namespace Reader

/-- The field under way is complete. -/
def endField (r : Reader) : Reader :=
  { r with place := .fieldStart, field := [], fields := r.field.reverse :: r.fields }

/-- The row under way is complete, and the next one starts here. -/
def endRow (r : Reader) : Reader :=
  let r := r.endField
  { r with
    place := .between, fields := [], start := r.bytes, line := r.lines,
    rows := ⟨r.fields.reverse, r.start, r.line⟩ :: r.rows }

/-- A byte that belongs to the field under way. -/
def keep (r : Reader) (place : Place) (b : UInt8) : Reader :=
  { r with place, field := b :: r.field }

/-- A byte outside quotes: it separates fields, ends the row or belongs to the field. -/
def stepPlain (r : Reader) (b : UInt8) : Reader :=
  if b = space then r.endField
  else if endsRow b then r.endRow
  else r.keep .plain b

/-- A byte at the start of a field. -/
def stepStart (r : Reader) (b : UInt8) : Reader :=
  if b = quote then { r with place := .quoted } else r.stepPlain b

/-- One byte. -/
def step (r : Reader) (b : UInt8) : Reader :=
  let r := { r with bytes := r.bytes + 1, lines := if b = 0x0A then r.lines + 1 else r.lines }
  match r.place with
  | .between => if endsRow b then r else r.stepStart b
  | .fieldStart => r.stepStart b
  | .plain => r.stepPlain b
  | .quoted => if b = quote then { r with place := .closing } else r.keep .quoted b
  | .closing => if b = quote then r.keep .quoted b else r.stepPlain b

/-- All rows; the end of the bytes ends the row under way. -/
def finish (r : Reader) : List Row :=
  (if r.place = .between then r.rows else r.endRow.rows).reverse

end Reader

/-- The bytes without a byte order mark at their start. -/
def dropMark : Bytes → Bytes
  | 0xEF :: 0xBB :: 0xBF :: bs => bs
  | bs => bs

/-- The rows of a capture. A byte order mark at the start belongs to no field, but counts among the
bytes before later rows. -/
def ofBytes (bytes : Bytes) : List Row :=
  let content := dropMark bytes
  (content.foldl Reader.step
    ⟨.between, [], [], 0, 1, bytes.length - content.length, 1, []⟩).finish

/-! ## Text -/

/-- The fields as texts, counted from `field`; the first one that is none is a fault of row `row`. -/
def textsFrom (row : Nat) (r : Row) : Nat → List Bytes → Except RowFault (List String)
  | _, [] => .ok []
  | field, bytes :: rest =>
    match Text.decode? bytes with
    | none => .error (.badText ⟨row, r.line, field, r.start, Text.wellFormedBytes bytes⟩)
    | some text => (textsFrom row r (field + 1) rest).map (text :: ·)

/-- The fields of the row with this number, counted from zero, as texts. -/
def texts (r : Row) (row : Nat) : Except RowFault (List String) := r.textsFrom row 0 r.fields

end Row

end DeviceBench
