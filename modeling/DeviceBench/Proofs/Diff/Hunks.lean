/-
Hunks. Each hunk of a difference covers exactly what its change replaces: the announced lengths are
those of the lines that it shows, the old lines stand at the announced place, and between two hunks
both lists agree.
-/
import DeviceBench.Proofs.Diff.Segments

namespace DeviceBench.Diff

/-- A hunk that replaces `n` old lines from `i` on by `m` new ones from `j` on. A header with no new
lines may name another place than `j`. -/
structure Hunk.At (old new : List String) (h : Hunk) (i j n m : Nat) : Prop where
  start : h.oldStart = i
  newStart : 0 < m → h.newStart = j
  oldLen : h.oldStop - h.oldStart = n
  newLen : h.newStop - h.newStart = m
  removed : h.removed = slice old i n
  added : h.added = slice new j m

/-- Hunks that lead from one list of lines to another from two positions on. Between hunks there are
lines that both keep; only before the first hunk there may be none. -/
inductive Patches (old new : List String) : Nat → Nat → List Hunk → Prop
  | done {p q : Nat} : old.drop p = new.drop q → Patches old new p q []
  | hunk {p q k n m : Nat} {h : Hunk} {hs : List Hunk} : 0 < k ∨ p + q = 0 → 0 < n + m →
      slice old p k = slice new q k → h.At old new (p + k) (q + k) n m →
      p + k + n ≤ old.length → q + k + m ≤ new.length →
      Patches old new (p + k + n) (q + k + m) hs → Patches old new p q (h :: hs)

section Hunks

variable {old new : List String} {i j : Nat} {segs : List Segment}

/-- What stands before segments: `k` kept lines that end where the next hunk starts, or none, at the
start of the lists or behind a hunk. -/
def Before (start : Option (Nat × Nat)) (i j k : Nat) (segs : List Segment) : Prop :=
  match start with
  | some place => place = (i, j) ∧ 0 < k
  | none => k = 0 ∧ ((∀ s ∈ segs.head?, ¬ s.IsChange) ∨
      i = 0 ∧ j = 0 ∧ ∀ a b m, segs.head? = some (.change a 0 b m) → a = 0)

/-- Where a hunk starts that stands at `i` and `j`. -/
theorem Before.start_eq {start : Option (Nat × Nat)} {k a n b m : Nat}
    (h : Before start i j k (.change a n b m :: segs)) :
    start.getD (a, b) = (i, j) ∧ 0 < k ∨
      start.getD (a, b) = (a, b) ∧ k = 0 ∧ i = 0 ∧ j = 0 ∧ (n = 0 → a = 0) := by
  cases start with
  | some place =>
    obtain ⟨rfl, hk⟩ := h
    exact .inl ⟨rfl, hk⟩
  | none =>
    obtain ⟨hk, hsep | ⟨hi, hj, hfirst⟩⟩ := h
    · exact absurd trivial (hsep _ rfl)
    · refine .inr ⟨rfl, hk, hi, hj, ?_⟩
      rintro rfl
      exact hfirst a b m rfl

/-- Where a hunk stops: before the kept lines after it, or else where its change does. -/
def stopOf (change : Nat × Nat) : List Segment → Nat × Nat
  | .kept i j _ :: _ => (i, j)
  | _ => change

theorem hunksFrom_change (start : Option (Nat × Nat)) (a n b m : Nat) (segs : List Segment) :
    hunksFrom old new start (.change a n b m :: segs) =
      ⟨(start.getD (a, b)).1, (stopOf (a + n, b + m) segs).1, (start.getD (a, b)).2,
        (stopOf (a + n, b + m) segs).2, slice old a n, slice new b m⟩ ::
        hunksFrom old new none segs := by
  cases segs with
  | nil => rfl
  | cons s segs => cases s <;> rfl

theorem Lies.stop_eq {i j : Nat} (h : Lies old new i j segs)
    (hsep : ∀ s ∈ segs.head?, ¬ s.IsChange) (change : Nat × Nat) :
    stopOf change segs = (i, j) ∨
      stopOf change segs = change ∧ i = old.length ∧ j = new.length := by
  cases h with
  | done => exact .inr ⟨rfl, rfl, rfl⟩
  | kept => exact .inl rfl
  | change => exact absurd trivial (hsep _ rfl)

/-- A side on which a change covers nothing may name any place, but its slice is empty. -/
theorem slice_eq_of_pos {items : List String} {a i n : Nat} (h : 0 < n → a = i) :
    slice items a n = slice items i n := by
  rcases Nat.eq_zero_or_pos n with rfl | hn
  · rw [slice_zero, slice_zero]
  · rw [h hn]

theorem ChangeAt.hunk_at {start : Option (Nat × Nat)} {k a n b m : Nat}
    (h : ChangeAt old new i j a n b m) (hsep : ∀ s ∈ segs.head?, ¬ s.IsChange)
    (hrest : Lies old new (i + n) (j + m) segs)
    (hbefore : Before start i j k (.change a n b m :: segs)) :
    Hunk.At old new ⟨(start.getD (a, b)).1, (stopOf (a + n, b + m) segs).1,
      (start.getD (a, b)).2, (stopOf (a + n, b + m) segs).2, slice old a n, slice new b m⟩
      i j n m := by
  have hle := hrest.le
  have hold := h.old_eq
  have hnew := h.new_eq
  have holdLe := h.old_le
  have hnewLe := h.new_le
  have hstart := hbefore.start_eq
  have hstop := hrest.stop_eq hsep (a + n, b + m)
  generalize start.getD (a, b) = first at hstart ⊢
  generalize stopOf (a + n, b + m) segs = stop at hstop ⊢
  -- a side that covers nothing may start or stop too late, but then its length is cut to zero
  have hranges : first.1 = i ∧ (0 < m → first.2 = j) ∧ stop.1 - first.1 = n ∧
      stop.2 - first.2 = m := by
    rcases hstart with ⟨rfl, -⟩ | ⟨rfl, -, hi, hj, hzero⟩
    all_goals
      rcases hstop with rfl | ⟨rfl, hendOld, hendNew⟩
      all_goals
        dsimp only
        omega
  obtain ⟨hstartOld, hstartNew, hlenOld, hlenNew⟩ := hranges
  exact ⟨hstartOld, hstartNew, hlenOld, hlenNew, slice_eq_of_pos hold, slice_eq_of_pos hnew⟩

theorem hunksFrom_patches (h : Lies old new i j segs) {start : Option (Nat × Nat)} {p q k : Nat}
    (hi : i = p + k) (hj : j = q + k) (hkept : slice old p k = slice new q k)
    (hbefore : Before start i j k segs) : Patches old new p q (hunksFrom old new start segs) := by
  induction h generalizing start p q k with
  | done =>
    refine .done ?_
    -- the kept lines reach to the ends of both lists
    rw [slice, List.take_of_length_le (by rw [List.length_drop]; omega), slice,
      List.take_of_length_le (by rw [List.length_drop]; omega)] at hkept
    exact hkept
  | @kept segs i j n hn hslice h ih =>
    subst hi hj
    refine ih (Nat.add_assoc p k n) (Nat.add_assoc q k n) ?_ ⟨rfl, Nat.add_pos_right k hn⟩
    rw [slice_add, slice_add, hkept, hslice]
  | @change segs i j a n b m hchange hsep h ih =>
    have hat := hchange.hunk_at hsep h hbefore
    have hfirst : 0 < k ∨ p + q = 0 := by
      rcases hbefore.start_eq with ⟨-, hk⟩ | ⟨-, -, hi0, hj0, -⟩
      · exact .inl hk
      · exact .inr (by omega)
    have hrest : Patches old new (i + n) (j + m) (hunksFrom old new none segs) :=
      ih (k := 0) rfl rfl rfl ⟨rfl, .inl hsep⟩
    rw [hunksFrom_change]
    subst hi hj
    exact .hunk hfirst hchange.covers hkept hat h.le.1 h.le.2 hrest

/-- The hunks between two lists of lines lead from one to the other. -/
theorem hunks_patches (old new : List String) : Patches old new 0 0 (hunks old new) := by
  obtain ⟨hlies, hfirst⟩ := (tidy_script_sound old new).segments
  exact hunksFrom_patches hlies rfl rfl rfl ⟨rfl, .inr ⟨rfl, rfl, hfirst⟩⟩

end Hunks

end DeviceBench.Diff
