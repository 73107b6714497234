/-
Tidying an edit script. Each edit of one kind is moved as far up as it goes and then as far down as
it goes: it changes places with edits of the other kind, joins edits of its own kind, and an
insertion slides over kept items as long as they are the items it inserts. A script under repair is
held as a cursor: the edits before, newest first, the edit that moves, and the edits after.
-/
import DeviceBench.Diff.Script

namespace DeviceBench.Diff

/-- Items `start` to `start + len` of a list. -/
def slice {α : Type} (items : List α) (start len : Nat) : List α := (items.drop start).take len

/-- An edit that moves, with the edits on both sides. -/
structure Cursor where
  before : List Edit
  moving : Edit
  after : List Edit

/-- How much work a list of edits can still cause. -/
def room : List Edit → Nat
  | [] => 0
  | e :: es => e.len + 1 + room es

@[simp] theorem room_nil : room [] = 0 := rfl

@[simp] theorem room_cons (e : Edit) (es : List Edit) : room (e :: es) = e.len + 1 + room es := rfl

/-- Puts a kept edit of no items away. -/
def pushKept (e : Edit) (edits : List Edit) : List Edit := if e.len = 0 then edits else e :: edits

theorem room_pushKept_lt {e : Edit} {edits : List Edit} {len : Nat} (h : e.len < len) :
    room (pushKept e edits) < len + 1 + room edits := by
  unfold pushKept
  split <;> simp
  omega

/-- Kept items that a sliding insertion leaves behind it: the kept edit there grows, or a new one
starts. -/
def growLeft (s old new : Nat) : List Edit → List Edit
  | e :: es =>
    if e.kind = .equal then ⟨.equal, e.old - s, e.new - s, e.len + s⟩ :: es
    else ⟨.equal, old, new, s⟩ :: e :: es
  | [] => [⟨.equal, old, new, s⟩]

/-- The same on the other side. -/
def growRight (s old new : Nat) : List Edit → List Edit
  | e :: es =>
    if e.kind = .equal then ⟨.equal, e.old, e.new, e.len + s⟩ :: es
    else ⟨.equal, old, new, s⟩ :: e :: es
  | [] => [⟨.equal, old, new, s⟩]

/-- How many of the kept items before it an insertion can slide over. -/
def slidesUp {α : Type} [DecidableEq α] (old new : List α) (q t : Edit) : Nat :=
  if t.kind = .insert then commonSuffix (slice old q.old q.len) (slice new t.new t.len) else 0

/-- How many of the kept items after it an insertion can slide over. -/
def slidesDown {α : Type} [DecidableEq α] (old new : List α) (q t : Edit) : Nat :=
  if t.kind = .insert then commonPrefix (slice old q.old q.len) (slice new t.new t.len) else 0

/-- Moves the edit `t` towards the start as far as it goes. -/
def slideUp {α : Type} [DecidableEq α] (old new : List α) :
    List Edit → Edit → List Edit → Cursor
  | [], t, after => ⟨[], t, after⟩
  | q :: before, t, after =>
    if q.kind = .equal then
      let s := slidesUp old new q t
      if 0 < s ∧ s ≤ q.len then
        slideUp old new (pushKept ⟨.equal, q.old, q.new, q.len - s⟩ before)
          ⟨t.kind, t.old - s, t.new - s, t.len⟩
          (growLeft s (q.old + q.len - s) (t.new + t.len - s) after)
      else if q.len = 0 then slideUp old new before t after
      else ⟨q :: before, t, after⟩
    else if q.kind = t.kind then
      slideUp old new before ⟨q.kind, q.old, q.new, q.len + t.len⟩ after
    else slideUp old new before t (q :: after)
  termination_by before => room before
  decreasing_by
    · rw [room_cons]; exact room_pushKept_lt (by simp only [s] at *; omega)
    all_goals rw [room_cons]; omega

/-- Moves the edit `t` towards the end as far as it goes. -/
def slideDown {α : Type} [DecidableEq α] (old new : List α) :
    List Edit → Edit → List Edit → Cursor
  | before, t, [] => ⟨before, t, []⟩
  | before, t, q :: after =>
    if q.kind = .equal then
      let s := slidesDown old new q t
      if 0 < s ∧ s ≤ q.len then
        slideDown old new (growRight s q.old t.new before)
          ⟨t.kind, t.old + s, t.new + s, t.len⟩
          (pushKept ⟨.equal, q.old + s, q.new + s, q.len - s⟩ after)
      else if q.len = 0 then slideDown old new before t after
      else ⟨before, t, q :: after⟩
    else if q.kind = t.kind then
      slideDown old new before ⟨t.kind, t.old, t.new, t.len + q.len⟩ after
    else slideDown old new (q :: before) t after
  termination_by _ _ after => room after
  decreasing_by
    · rw [room_cons]; exact room_pushKept_lt (by simp only [s] at *; omega)
    all_goals rw [room_cons]; omega

/-- Moves the next edits of a kind, `count` at most, in the order in which they stand. -/
def slideEach {α : Type} [DecidableEq α] (old new : List α) (kind : EditKind) :
    Nat → List Edit → List Edit → List Edit
  | 0, before, after => before.reverse ++ after
  | count + 1, before, after =>
    let (passed, rest) := after.span fun e => e.kind != kind
    match rest with
    | [] => before.reverse ++ after
    | moving :: after =>
      let up := slideUp old new (passed.reverse ++ before) moving after
      let down := slideDown old new up.before up.moving up.after
      slideEach old new kind count (down.moving :: down.before) down.after

/-- Moves every edit of a kind. Moving one makes no new edit of its kind, so as many moves as there
are such edits reach the end. -/
def slideKind {α : Type} [DecidableEq α] (old new : List α) (kind : EditKind) (edits : List Edit) :
    List Edit :=
  slideEach old new kind (edits.countP fun e => e.kind == kind) [] edits

/-- A script with its deletions and then its insertions moved into place. -/
def tidy {α : Type} [DecidableEq α] (old new : List α) (edits : List Edit) : List Edit :=
  slideKind old new .insert (slideKind old new .delete edits)

end DeviceBench.Diff
