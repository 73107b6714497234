/-
Edit scripts between two lists. A script is found by divide and conquer: common ends are kept, and
what is left is cut where a forward and a backward search for the fewest edits meet. The cut is used
only when it makes both parts smaller, so the search needs no trust to end.
-/
namespace DeviceBench.Diff

/-- What an edit does. -/
inductive EditKind where
  | equal
  | delete
  | insert
  deriving DecidableEq, Repr

/-- One edit: where it stands in the old and in the new list, and how many items it covers. -/
structure Edit where
  kind : EditKind
  old : Nat
  new : Nat
  len : Nat
  deriving DecidableEq, Repr

/-- How many items two lists have in common at their start. -/
def commonPrefix {α : Type} [DecidableEq α] : List α → List α → Nat
  | a :: as, b :: bs => if a = b then commonPrefix as bs + 1 else 0
  | _, _ => 0

/-- How many items two lists have in common at their end. -/
def commonSuffix {α : Type} [DecidableEq α] (as bs : List α) : Nat :=
  commonPrefix as.reverse bs.reverse

/-! ## Where two searches meet -/

/-- How far the search by `step` edits gets along diagonal `step - 2 * i` before it keeps equal
items, given how far the search by one edit less got on its diagonals. -/
def entry (reached : Array Nat) (step i : Nat) : Nat :=
  let above := reached[i - 1]?.getD 0
  let here := reached[i]?.getD 0
  if i = step then above
  else if i = 0 then here + 1
  else if here < above then above else here + 1

/-- How many items of two arrays agree from two positions on, at most `fuel` of them. -/
def agreeing {α : Type} [DecidableEq α] (old new : Array α) : Nat → Nat → Nat → Nat
  | fuel + 1, x, y =>
    if x < old.size ∧ old[x]? = new[y]? then agreeing old new fuel (x + 1) (y + 1) + 1 else 0
  | 0, _, _ => 0

/-- One direction of a step: the diagonals from `i` on, until one meets the other direction. The
answer is the points where that diagonal was entered and left, or how far each diagonal got. -/
def advance {α : Type} [DecidableEq α] (old new : Array α) (step : Nat) (reached : Array Nat)
    (meets : Nat → Nat → Bool) : Nat → Nat → Array Nat → ((Nat × Nat) × (Nat × Nat)) ⊕ Array Nat
  | 0, _, got => .inr got
  | left + 1, i, got =>
    let x := entry reached step i
    let y := x + 2 * i - step
    let run := agreeing old new (min (old.size - x) (new.size - y)) x y
    if meets i (x + run) then .inl ((x, y), (x + run, y + run))
    else advance old new step reached meets left (i + 1) (got.push (x + run))

/-- The point where the searches from both ends meet. `steps` bounds the edits of each. -/
def meetingPoint {α : Type} [DecidableEq α] (old new oldBack newBack : Array α) :
    Nat → Nat → Array Nat → Array Nat → Option (Nat × Nat)
  | 0, _, _, _ => none
  | steps + 1, step, forward, backward =>
    let delta : Int := (old.size : Int) - new.size
    let odd := (old.size + new.size) % 2 = 1
    let facing (other : Array Nat) (slack : Nat) (i x : Nat) : Bool :=
      let diagonal : Int := (step : Int) - 2 * i
      decide (Int.natAbs (diagonal - delta) + slack ≤ step) &&
        decide (old.size ≤ x + other[((step - slack : Int) + diagonal - delta).toNat / 2]?.getD 0)
    match advance old new step forward (fun i x => odd && facing backward 1 i x)
        (step + 1) 0 (Array.emptyWithCapacity (step + 1)) with
    | .inl (entered, _) => some entered
    | .inr forward =>
      match advance oldBack newBack step backward (fun i x => !odd && facing forward 0 i x)
          (step + 1) 0 (Array.emptyWithCapacity (step + 1)) with
      | .inl (_, (x, y)) =>
        if x ≤ old.size ∧ y ≤ new.size then some (old.size - x, new.size - y) else none
      | .inr backward => meetingPoint old new oldBack newBack steps (step + 1) forward backward

/-- Where to cut two lists that share neither their first nor their last item. -/
def cut? {α : Type} [DecidableEq α] (old new : List α) : Option (Nat × Nat) :=
  meetingPoint old.toArray new.toArray old.reverse.toArray new.reverse.toArray
    ((old.length + new.length + 1) / 2 + 1) 0 #[] #[]

/-! ## Divide and conquer -/

/-- An edit of `len` items, or none. -/
def editOf (kind : EditKind) (old new len : Nat) : List Edit :=
  if len = 0 then [] else [⟨kind, old, new, len⟩]

/-- Everything old is deleted, then everything new inserted. -/
def replaceAllEdits (i j n m : Nat) : List Edit :=
  editOf .delete i j n ++ editOf .insert i j m

/-- The script from `old`, which starts at position `i`, to `new`, which starts at `j`. -/
def scriptFrom {α : Type} [DecidableEq α] (i j : Nat) (old new : List α) : List Edit :=
  let kept := commonPrefix old new
  let old' := old.drop kept
  let new' := new.drop kept
  let ended := commonSuffix old' new'
  let n := old'.length - ended
  let m := new'.length - ended
  let inner :=
    if n = 0 ∨ m = 0 then replaceAllEdits (i + kept) (j + kept) n m
    else
      match cut? (old'.take n) (new'.take m) with
      | none => replaceAllEdits (i + kept) (j + kept) n m
      | some (x, y) =>
        if _smaller : 0 < x + y ∧ x + y < n + m ∧ x ≤ n ∧ y ≤ m then
          scriptFrom (i + kept) (j + kept) (old'.take x) (new'.take y) ++
            scriptFrom (i + kept + x) (j + kept + y) ((old'.take n).drop x) ((new'.take m).drop y)
        else replaceAllEdits (i + kept) (j + kept) n m
  editOf .equal i j kept ++ inner ++ editOf .equal (i + kept + n) (j + kept + m) ended
  termination_by old.length + new.length
  decreasing_by
    all_goals simp only [List.length_take, List.length_drop, old', new', n, m] at *
    all_goals omega

/-- A script from one list to another. -/
def script {α : Type} [DecidableEq α] (old new : List α) : List Edit := scriptFrom 0 0 old new

end DeviceBench.Diff
