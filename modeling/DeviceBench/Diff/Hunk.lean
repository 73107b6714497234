/-
Hunks and the unified text of a difference. Between kept items a script becomes one change: items
taken out of the old list and items put in from the new one. Each change is a hunk of its own, since
no kept line is shown around it.
-/
import DeviceBench.Diff.Slide

namespace DeviceBench.Diff

/-- Items that both lists keep, or a change: so many old items are replaced by so many new ones. -/
inductive Segment where
  | kept (old new len : Nat)
  | change (old oldLen new newLen : Nat)
  deriving DecidableEq, Repr

/-- Adds an edit to the segments, newest first. Kept items join kept items, and deletions and
insertions between kept items join into one change; each side of a change starts where its first
edit stands. -/
def joinEdit (segments : List Segment) (e : Edit) : List Segment :=
  match e.kind, segments with
  | .equal, .kept old new len :: rest => .kept old new (len + e.len) :: rest
  | .equal, rest => .kept e.old e.new e.len :: rest
  | .delete, .change _ 0 new newLen :: rest => .change e.old e.len new newLen :: rest
  | .delete, .change old oldLen new newLen :: rest =>
    .change old (oldLen + e.len) new newLen :: rest
  | .delete, rest => .change e.old e.len e.new 0 :: rest
  | .insert, .change old oldLen _ 0 :: rest => .change old oldLen e.new e.len :: rest
  | .insert, .change old oldLen new newLen :: rest =>
    .change old oldLen new (newLen + e.len) :: rest
  | .insert, rest => .change e.old 0 e.new e.len :: rest

/-- The segments of a script. -/
def segments (edits : List Edit) : List Segment := (edits.foldl joinEdit []).reverse

/-- One change with the ranges that its header announces. -/
structure Hunk where
  oldStart : Nat
  oldStop : Nat
  newStart : Nat
  newStop : Nat
  removed : List String
  added : List String
  deriving DecidableEq, Repr

/-- The hunks of segments that stand after kept items which end at `start`. A hunk reaches from the
kept items before it to those after it, and where there are none its change bounds it. -/
def hunksFrom (old new : List String) : Option (Nat × Nat) → List Segment → List Hunk
  | _, [] => []
  | _, .kept i j len :: rest => hunksFrom old new (some (i + len, j + len)) rest
  | start, .change i n j m :: rest =>
    let (oldStart, newStart) := start.getD (i, j)
    let (oldStop, newStop) := match rest with
      | .kept i' j' _ :: _ => (i', j')
      | _ => (i + n, j + m)
    ⟨oldStart, oldStop, newStart, newStop, slice old i n, slice new j m⟩ ::
      hunksFrom old new none rest

/-- The hunks between two lists of lines. -/
def hunks (old new : List String) : List Hunk :=
  hunksFrom old new none (segments (tidy old new (script old new)))

/-! ## Text -/

/-- A range as a header shows it: the first line counted from one and the length, which a single
line leaves out; an empty range names the line before it. -/
def rangeText (start stop : Nat) : String :=
  let len := stop - start
  if len = 1 then toString (start + 1)
  else if len = 0 then s!"{start},0"
  else s!"{start + 1},{len}"

/-- The lines of a hunk: its header, what it removes and what it adds. -/
def Hunk.lines (h : Hunk) : List String :=
  ("@@ -" ++ rangeText h.oldStart h.oldStop ++ " +" ++ rangeText h.newStart h.newStop ++ " @@") ::
    h.removed.map ("-" ++ ·) ++ h.added.map ("+" ++ ·)

/-- Lines as text, each followed by a line feed. -/
def terminated (lines : List String) : String := String.join (lines.map (· ++ "\n"))

/-- The unified difference of two lists of lines without context, if they differ. -/
def unified (current expected : List String) (currentLabel expectedLabel : String) :
    Option String :=
  if current = expected then none
  else
    some <| terminated <|
      ["--- " ++ currentLabel, "+++ " ++ expectedLabel] ++
        (hunks current expected).flatMap Hunk.lines

end DeviceBench.Diff
