/-
Values of TOML documents and how definitions build tables. A table knows how it came about, since
that decides whether later headers and dotted keys may add to it.
-/
namespace DeviceBench

/-- How a table came about. -/
inductive TableOrigin where
  /-- Written in braces: nothing can be added. -/
  | inline
  /-- Named by a header. -/
  | header
  /-- On the way to a table that a header names. -/
  | implied
  /-- On the way along a dotted key. -/
  | dotted
  deriving DecidableEq, Repr

/-- A value of a TOML document. Numbers, truth values and dates are valid scalars of which nothing
more is kept. -/
inductive Toml where
  | text (s : String)
  | scalar
  | array (items : List Toml)
  | table (origin : TableOrigin) (entries : List (String × Toml))
  /-- The tables that headers in double brackets make, the newest first. -/
  | tables (items : List (List (String × Toml)))
  deriving Repr, Inhabited

namespace Toml

/-- The keys of a table with their values, in the order of definition. -/
abbrev Entries := List (String × Toml)

/-- Puts a value at a key: in place of the one that is there, or at the end. -/
def put (entries : Entries) (key : String) (v : Toml) : Entries :=
  match entries with
  | [] => [(key, v)]
  | (k, old) :: rest => if k = key then (k, v) :: rest else (k, old) :: put rest key v

/-- Changes the table that a path of keys leads to from a table; missing tables on the way are made.
A path leads into the newest table of an array of tables. Along a dotted key no table may be passed
that a header names, and nothing leads into a table in braces. -/
def alter (dotted : Bool) (change : TableOrigin → Entries → Option Entries) :
    List String → TableOrigin → Entries → Option Entries
  | [], origin, entries => change origin entries
  | key :: path, _, entries =>
    match entries.lookup key with
    | none =>
      let origin : TableOrigin := if dotted then .dotted else .implied
      (alter dotted change path origin []).map fun sub => put entries key (.table origin sub)
    | some (.table origin sub) =>
      if origin = .inline ∨ (dotted ∧ origin = .header) then none
      else (alter dotted change path origin sub).map fun sub => put entries key (.table origin sub)
    | some (.tables (sub :: older)) =>
      (alter dotted change path .header sub).map fun sub => put entries key (.tables (sub :: older))
    | some _ => none

/-- A header in single brackets: the table that it names is new, or so far was only implied. -/
def openTable (root : Entries) (path : List String) (key : String) : Option Entries :=
  alter false
    (fun _ entries =>
      match entries.lookup key with
      | none => some (put entries key (.table .header []))
      | some (.table .implied sub) => some (put entries key (.table .header sub))
      | some _ => none)
    path .header root

/-- A header in double brackets: one more table in the array that it names. -/
def pushTable (root : Entries) (path : List String) (key : String) : Option Entries :=
  alter false
    (fun _ entries =>
      match entries.lookup key with
      | none => some (put entries key (.tables [[]]))
      | some (.tables items) => some (put entries key (.tables ([] :: items)))
      | some _ => none)
    path .header root

/-- A key in a table: it has to be new, and a dotted key may only add to tables of dotted keys. -/
def define (entries : Entries) (path : List String) (key : String) (v : Toml) : Option Entries :=
  alter true
    (fun origin entries =>
      if (!path.isEmpty && origin != .dotted) || (entries.lookup key).isSome then none
      else some (put entries key v))
    path .header entries

/-- A key in the table that the last header named. -/
def defineIn (root : Entries) (header path : List String) (key : String) (v : Toml) :
    Option Entries :=
  alter false (fun _ entries => define entries path key v) header .header root

end Toml

end DeviceBench
