/-
Reading TOML documents: lines that define keys, under headers that name tables.
-/
import DeviceBench.Toml.Scalar
import DeviceBench.Toml.Value

namespace DeviceBench.Toml

/-! ## Values -/

mutual

/-- A value, with room for so many brackets to open at once. -/
def value : Nat → Nat → List Char → Option (Toml × List Char)
  | 0, _, _ => none
  | fuel + 1, room, cs =>
    match quotedText? cs with
    | some taken => taken.map fun (s, rest) => (.text (String.ofList s), rest)
    | none =>
      match room, cs with
      | 0, '[' :: _ => none
      | 0, '\x7b' :: _ => none
      | room + 1, '[' :: cs => items fuel room [] cs
      | room + 1, '\x7b' :: cs => fields fuel room [] cs
      | _, _ => (dropScalar cs).map fun rest => (.scalar, rest)

/-- The rest of a list, with the items read so far, newest first. Lines may end between items, and a
comma may stand after the last. -/
def items : Nat → Nat → List Toml → List Char → Option (Toml × List Char)
  | 0, _, _, _ => none
  | fuel + 1, room, read, cs => do
    match ← dropLines cs.length cs with
    | ']' :: rest => some (.array read.reverse, rest)
    | cs =>
      let (v, rest) ← value fuel room cs
      match ← dropLines rest.length rest with
      | ',' :: rest => items fuel room (v :: read) rest
      | ']' :: rest => some (.array (v :: read).reverse, rest)
      | _ => none

/-- The rest of a table in braces, with the keys read so far. Lines may end anywhere but inside a
path of keys, and a comma may stand after the last value. -/
def fields : Nat → Nat → Entries → List Char → Option (Toml × List Char)
  | 0, _, _, _ => none
  | fuel + 1, room, read, cs => do
    match ← dropLines cs.length cs with
    | '\x7d' :: rest => some (.table .inline read, rest)
    | cs =>
      let (path, rest) ← keyPath cs.length cs
      let (path, last) ← splitPath path
      let rest ← dropMark '=' (← dropLines rest.length rest)
      let (v, rest) ← value fuel room (← dropLines rest.length rest)
      let read ← alter true
        (fun _ entries =>
          if (entries.lookup last).isSome then none else some (put entries last v))
        path .inline read
      match ← dropLines rest.length rest with
      | ',' :: rest => fields fuel room read rest
      | '\x7d' :: rest => some (.table .inline read, rest)
      | _ => none

end

/-! ## Documents -/

/-- A document under way: its tables, and the table that the last header named. -/
structure Document where
  root : Entries
  header : List String

/-- A header in so many brackets, at the brackets that close it. -/
def closeHeader (brackets : Nat) (cs : List Char) : Option (List Char) :=
  match brackets, dropSpaces cs with
  | 1, ']' :: rest => dropLineEnd rest
  | 2, ']' :: ']' :: rest => dropLineEnd rest
  | _, _ => none

/-- One line that is neither blank nor a comment alone. -/
def line (d : Document) (cs : List Char) : Option (Document × List Char) :=
  match cs with
  | '[' :: '[' :: cs => do
    let (path, rest) ← keyPath cs.length cs
    let (before, last) ← splitPath path
    let root ← pushTable d.root before last
    (closeHeader 2 rest).map fun rest => (⟨root, path⟩, rest)
  | '[' :: cs => do
    let (path, rest) ← keyPath cs.length cs
    let (before, last) ← splitPath path
    let root ← openTable d.root before last
    (closeHeader 1 rest).map fun rest => (⟨root, path⟩, rest)
  | cs => do
    let (path, rest) ← keyPath cs.length cs
    let (before, last) ← splitPath path
    match dropSpaces rest with
    | '=' :: rest =>
      let rest := dropSpaces rest
      let (v, rest) ← value (rest.length + 1) maxDepth rest
      let root ← defineIn d.root d.header before last v
      (dropLineEnd rest).map fun rest => (⟨root, d.header⟩, rest)
    | _ => none

/-- The lines of a document, so many at most. -/
def lines : Nat → Document → List Char → Option Document
  | 0, _, _ => none
  | fuel + 1, d, cs => do
    match ← dropLines cs.length cs with
    | [] => some d
    | cs =>
      let (d, rest) ← line d (dropSpaces cs)
      lines fuel d rest

/-- The keys and tables of a document; a byte order mark in front is skipped. -/
def parse? (text : String) : Option Entries :=
  let cs := match text.toList with
    | '\uFEFF' :: cs => cs
    | cs => cs
  (lines (cs.length + 1) ⟨[], []⟩ cs).map (·.root)

end DeviceBench.Toml
