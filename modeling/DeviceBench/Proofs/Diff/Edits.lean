/-
Edits that fit. While a script is tidied its edits change places, and deletions and insertions keep
a position in the other list that no longer is where they stand. What stays true is that each edit
stands right in the list it changes, that kept items are equal, and that the other position leaves
room for the items kept after it. Every change that tidying makes to neighbouring edits keeps this.
-/
import DeviceBench.Proofs.Diff.Script

namespace DeviceBench.Diff

/-- How many items edits keep. -/
def keptLen : List Edit → Nat
  | [] => 0
  | e :: es => (if e.kind = .equal then e.len else 0) + keptLen es

@[simp] theorem keptLen_nil : keptLen [] = 0 := rfl

@[simp] theorem keptLen_keep (i j n : Nat) (es : List Edit) :
    keptLen (⟨.equal, i, j, n⟩ :: es) = n + keptLen es := rfl

@[simp] theorem keptLen_delete (i j n : Nat) (es : List Edit) :
    keptLen (⟨.delete, i, j, n⟩ :: es) = keptLen es := Nat.zero_add _

@[simp] theorem keptLen_insert (i j n : Nat) (es : List Edit) :
    keptLen (⟨.insert, i, j, n⟩ :: es) = keptLen es := Nat.zero_add _

/-- Edits that walk two lists from two positions to their ends. A deletion names some new position
and an insertion some old one, with room for the items that are kept after it. -/
inductive Fits {α : Type} (old new : List α) : Nat → Nat → List Edit → Prop
  | done : Fits old new old.length new.length []
  | keep {i j n : Nat} {es : List Edit} : 0 < n → slice old i n = slice new j n →
      Fits old new (i + n) (j + n) es → Fits old new i j (⟨.equal, i, j, n⟩ :: es)
  | delete {i j n v : Nat} {es : List Edit} : 0 < n → v + keptLen es ≤ new.length →
      Fits old new (i + n) j es → Fits old new i j (⟨.delete, i, v, n⟩ :: es)
  | insert {i j n u : Nat} {es : List Edit} : 0 < n → u + keptLen es ≤ old.length →
      Fits old new i (j + n) es → Fits old new i j (⟨.insert, u, j, n⟩ :: es)

section Fitting

variable {α : Type} {old new : List α} {i j n : Nat} {es : List Edit}

theorem fits_keep {a b : Nat} : Fits old new i j (⟨.equal, a, b, n⟩ :: es) ↔
    a = i ∧ b = j ∧ 0 < n ∧ slice old i n = slice new j n ∧ Fits old new (i + n) (j + n) es := by
  constructor
  · intro h
    cases h with
    | keep hn hslice h => exact ⟨rfl, rfl, hn, hslice, h⟩
  · rintro ⟨rfl, rfl, hn, hslice, h⟩
    exact .keep hn hslice h

theorem fits_delete {a b : Nat} : Fits old new i j (⟨.delete, a, b, n⟩ :: es) ↔
    a = i ∧ 0 < n ∧ b + keptLen es ≤ new.length ∧ Fits old new (i + n) j es := by
  constructor
  · intro h
    cases h with
    | delete hn hb h => exact ⟨rfl, hn, hb, h⟩
  · rintro ⟨rfl, hn, hb, h⟩
    exact .delete hn hb h

theorem fits_insert {a b : Nat} : Fits old new i j (⟨.insert, a, b, n⟩ :: es) ↔
    b = j ∧ 0 < n ∧ a + keptLen es ≤ old.length ∧ Fits old new i (j + n) es := by
  constructor
  · intro h
    cases h with
    | insert hn ha h => exact ⟨rfl, hn, ha, h⟩
  · rintro ⟨rfl, hn, ha, h⟩
    exact .insert hn ha h

/-- The walk stays within both lists, with room for what it still keeps. -/
theorem Fits.le (h : Fits old new i j es) :
    i + keptLen es ≤ old.length ∧ j + keptLen es ≤ new.length := by
  induction h with
  | done => simp
  | keep _ _ _ ih =>
    simp only [keptLen_keep]
    omega
  | delete _ _ _ ih =>
    simp only [keptLen_delete]
    omega
  | insert _ _ _ ih =>
    simp only [keptLen_insert]
    omega

theorem Fits.suffix (es : List Edit) {fs : List Edit} {i j : Nat}
    (h : Fits old new i j (es ++ fs)) : ∃ i' j', Fits old new i' j' fs := by
  induction es generalizing i j with
  | nil => exact ⟨i, j, h⟩
  | cons e es ih =>
    cases h with
    | keep _ _ h => exact ih h
    | delete _ _ h => exact ih h
    | insert _ _ h => exact ih h

/-- Every edit that fits covers some items. -/
theorem Fits.len_ne_zero (es : List Edit) {e : Edit} {fs : List Edit} {i j : Nat}
    (h : Fits old new i j (es ++ e :: fs)) : e.len ≠ 0 := by
  obtain ⟨i', j', h⟩ := h.suffix es
  cases h with
  | keep hn => exact Nat.ne_of_gt hn
  | delete hn => exact Nat.ne_of_gt hn
  | insert hn => exact Nat.ne_of_gt hn

theorem Fresh.fits (h : Fresh old new i j es) : Fits old new i j es := by
  induction h with
  | done => exact .done
  | keep hn hslice _ ih => exact .keep hn hslice ih
  | delete hn _ ih => exact .delete hn ih.le.2 ih
  | insert hn hu _ ih =>
    have hle := ih.le.1
    exact .insert hn (by omega) ih

theorem Fits.pushKept (hslice : slice old i n = slice new j n)
    (h : Fits old new (i + n) (j + n) es) :
    Fits old new i j (pushKept ⟨.equal, i, j, n⟩ es) := by
  unfold Diff.pushKept
  split
  · rename_i hn
    cases hn
    exact h
  · rename_i hn
    exact .keep (Nat.pos_of_ne_zero hn) hslice h

theorem Fits.growLeft (hn : 0 < n) (hslice : slice old i n = slice new j n)
    (h : Fits old new (i + n) (j + n) es) : Fits old new i j (growLeft n i j es) := by
  rcases es with _ | ⟨⟨_ | _ | _, a, b, m⟩, es⟩
  · exact .keep hn hslice h
  · -- the kept items below grow upwards, so they are the second part
    obtain ⟨rfl, rfl, hm, hslice', h⟩ := fits_keep.1 h
    simp only [Diff.growLeft, if_true, Nat.add_sub_cancel]
    apply Fits.keep (by omega)
    · rw [Nat.add_comm m n, slice_add, slice_add, hslice, hslice']
    · rwa [Nat.add_comm m n, ← Nat.add_assoc, ← Nat.add_assoc]
  · exact .keep hn hslice h
  · exact .keep hn hslice h

end Fitting

theorem keptLen_pushKept (i j n : Nat) (es : List Edit) :
    keptLen (pushKept ⟨.equal, i, j, n⟩ es) = n + keptLen es := by
  unfold pushKept
  split
  · rename_i hn
    cases hn
    exact (Nat.zero_add _).symm
  · rfl

theorem keptLen_growLeft (s i j : Nat) (es : List Edit) :
    keptLen (growLeft s i j es) = s + keptLen es := by
  unfold growLeft
  split
  · rename_i e es
    split
    · rename_i hkind
      simp only [keptLen, hkind, if_true]
      omega
    · rfl
  · rfl

/-! ## Moves -/

/-- One list of edits may stand for another: it fits wherever the other does and keeps as much. -/
structure Refits {α : Type} (old new : List α) (es fs : List Edit) : Prop where
  fits : ∀ {i j}, Fits old new i j es → Fits old new i j fs
  kept : keptLen fs = keptLen es

section Moves

variable {α : Type} {old new : List α}

theorem Refits.refl (es : List Edit) : Refits old new es es := ⟨id, rfl⟩

theorem Refits.cons {es fs : List Edit} (e : Edit) (h : Refits old new es fs) :
    Refits old new (e :: es) (e :: fs) := by
  constructor
  · intro i j hfits
    cases hfits with
    | keep hn hslice hfits => exact .keep hn hslice (h.fits hfits)
    | delete hn hv hfits => exact .delete hn (h.kept ▸ hv) (h.fits hfits)
    | insert hn hu hfits => exact .insert hn (h.kept ▸ hu) (h.fits hfits)
  · simp only [keptLen, h.kept]

/-- What happens among neighbours may happen below any edits. -/
theorem Refits.append (before : List Edit) {es fs : List Edit} (h : Refits old new es fs) :
    Refits old new (before ++ es) (before ++ fs) := by
  induction before with
  | nil => exact h
  | cons e before ih => exact ih.cons e

/-- A deletion and an insertion change places. -/
theorem Refits.swap {q t : Edit} (es : List Edit) (hq : q.kind ≠ .equal) (ht : t.kind ≠ .equal)
    (hqt : q.kind ≠ t.kind) : Refits old new (q :: t :: es) (t :: q :: es) := by
  obtain ⟨kind, a, b, n⟩ := q
  obtain ⟨kind', a', b', m⟩ := t
  constructor
  · intro i j h
    cases kind with
    | equal => exact absurd rfl hq
    | delete =>
      cases kind' with
      | equal => exact absurd rfl ht
      | delete => exact absurd rfl hqt
      | insert =>
        obtain ⟨rfl, hn, hb, h⟩ := fits_delete.1 h
        obtain ⟨rfl, hm, ha, h⟩ := fits_insert.1 h
        exact .insert hm (by simpa using ha) (.delete hn (by simpa using hb) h)
    | insert =>
      cases kind' with
      | equal => exact absurd rfl ht
      | insert => exact absurd rfl hqt
      | delete =>
        obtain ⟨rfl, hn, ha, h⟩ := fits_insert.1 h
        obtain ⟨rfl, hm, hb, h⟩ := fits_delete.1 h
        exact .delete hm (by simpa using hb) (.insert hn (by simpa using ha) h)
  · simp only [keptLen]
    omega

/-- Neighbours of one kind become one edit, which stands where the first of them stood. -/
theorem Refits.join {q t : Edit} (es : List Edit) (hqt : q.kind = t.kind) :
    Refits old new (q :: t :: es) (⟨q.kind, q.old, q.new, q.len + t.len⟩ :: es) := by
  obtain ⟨kind, a, b, n⟩ := q
  obtain ⟨kind', a', b', m⟩ := t
  cases hqt
  constructor
  · intro i j h
    cases kind with
    | equal =>
      obtain ⟨rfl, rfl, hn, hslice, h⟩ := fits_keep.1 h
      obtain ⟨rfl, rfl, hm, hslice', h⟩ := fits_keep.1 h
      refine fits_keep.2 ⟨rfl, rfl, Nat.add_pos_left hn m, ?_, ?_⟩
      · rw [slice_add, slice_add, hslice, hslice']
      · rwa [← Nat.add_assoc, ← Nat.add_assoc]
    | delete =>
      obtain ⟨rfl, hn, hb, h⟩ := fits_delete.1 h
      obtain ⟨rfl, hm, hb', h⟩ := fits_delete.1 h
      refine fits_delete.2 ⟨rfl, Nat.add_pos_left hn m, by simpa using hb, ?_⟩
      rwa [← Nat.add_assoc]
    | insert =>
      obtain ⟨rfl, hn, ha, h⟩ := fits_insert.1 h
      obtain ⟨rfl, hm, ha', h⟩ := fits_insert.1 h
      refine fits_insert.2 ⟨rfl, Nat.add_pos_left hn m, by simpa using ha, ?_⟩
      rwa [← Nat.add_assoc]
  · simp only [keptLen]
    split <;> omega

/-- A kept edit of no items can be left out, since none fits. -/
theorem Refits.drop {q : Edit} (es : List Edit) (hq : q.kind = .equal) (hlen : q.len = 0) :
    Refits old new (q :: es) es := by
  obtain ⟨kind, a, b, n⟩ := q
  cases hq
  cases hlen
  constructor
  · intro i j h
    exact absurd (fits_keep.1 h).2.2.1 (Nat.lt_irrefl 0)
  · simp

end Moves

/-! ## Sliding -/

section Sliding

variable {α : Type} [DecidableEq α] {old new : List α} {q t : Edit}

/-- Only insertions slide. -/
theorem insert_of_slidesUp (h : 0 < slidesUp old new q t) : t.kind = .insert := by
  unfold slidesUp at h
  split at h
  · assumption
  · cases h

theorem insert_of_slidesDown (h : 0 < slidesDown old new q t) : t.kind = .insert := by
  unfold slidesDown at h
  split at h
  · assumption
  · cases h

/-- An insertion slides up: the kept items that it passes are kept behind it. -/
theorem Refits.slideUp (es : List Edit) (hq : q.kind = .equal) {s : Nat}
    (hs : s = slidesUp old new q t) (hpos : 0 < s) (hle : s ≤ q.len) :
    Refits old new (q :: t :: es)
      (pushKept ⟨.equal, q.old, q.new, q.len - s⟩ (⟨t.kind, t.old - s, t.new - s, t.len⟩ ::
        growLeft s (q.old + q.len - s) (t.new + t.len - s) es)) := by
  have ht : t.kind = .insert := insert_of_slidesUp (hs ▸ hpos)
  rw [slidesUp, if_pos ht] at hs
  obtain ⟨kind, a, b, n⟩ := q
  obtain ⟨kind', u, v, m⟩ := t
  cases hq
  cases ht
  dsimp only at hs hle ⊢
  constructor
  · intro i j h
    have hroom := h.le.1
    obtain ⟨rfl, rfl, hn, hslice, h⟩ := fits_keep.1 h
    obtain ⟨rfl, hm, hu, h⟩ := fits_insert.1 h
    obtain ⟨hold, hnew⟩ := h.le
    simp only [keptLen_keep, keptLen_insert] at hroom
    -- what is passed are the last items kept above, and they end the insertion too
    have hsm := (commonSuffix_le (slice old a n) (slice new (b + n) m)).2
    have hpassed := slice_commonSuffix (slice_prefix_drop old a n) (slice_prefix_drop new (b + n) m)
    rw [length_slice (by omega), ← hs] at hsm
    rw [length_slice (by omega), length_slice (by omega), ← hs,
      show b + n + (m - s) = b + (n - s) + m by omega] at hpassed
    apply Fits.pushKept
    · rw [show n = (n - s) + s by omega, slice_add, slice_add] at hslice
      exact (List.append_inj hslice
        ((length_slice (by omega)).trans (length_slice (by omega)).symm)).1
    · refine fits_insert.2 ⟨by omega, hm, ?_, ?_⟩
      · rw [keptLen_growLeft]
        omega
      · rw [show a + n - s = a + (n - s) by omega, show b + n + m - s = b + (n - s) + m by omega]
        apply Fits.growLeft hpos hpassed
        rwa [show a + (n - s) + s = a + n by omega,
          show b + (n - s) + m + s = b + n + m by omega]
  · rw [keptLen_pushKept, keptLen_insert, keptLen_growLeft, keptLen_keep, keptLen_insert]
    omega

/-- An insertion slides down: the kept items that it passes are kept before it. -/
theorem Refits.slideDown (es : List Edit) (hq : q.kind = .equal) {s : Nat}
    (hs : s = slidesDown old new q t) (hpos : 0 < s) (hle : s ≤ q.len) :
    Refits old new (t :: q :: es)
      (⟨.equal, q.old, t.new, s⟩ :: ⟨t.kind, t.old + s, t.new + s, t.len⟩ ::
        pushKept ⟨.equal, q.old + s, q.new + s, q.len - s⟩ es) := by
  have ht : t.kind = .insert := insert_of_slidesDown (hs ▸ hpos)
  rw [slidesDown, if_pos ht] at hs
  obtain ⟨kind, a, b, n⟩ := q
  obtain ⟨kind', u, v, m⟩ := t
  cases hq
  cases ht
  dsimp only at hs hle ⊢
  constructor
  · intro i j h
    obtain ⟨rfl, hm, hu, h⟩ := fits_insert.1 h
    obtain ⟨rfl, rfl, hn, hslice, h⟩ := fits_keep.1 h
    obtain ⟨hold, hnew⟩ := h.le
    simp only [keptLen_keep] at hu
    -- what is passed are the first items kept below, and they start the insertion too
    have hpassed := slice_commonPrefix (slice_prefix_drop old a n) (slice_prefix_drop new v m)
    rw [← hs] at hpassed
    refine .keep hpos hpassed (fits_insert.2 ⟨rfl, hm, ?_, ?_⟩)
    · rw [keptLen_pushKept]
      omega
    · rw [show v + s + m = v + m + s by omega]
      apply Fits.pushKept
      · rw [show n = s + (n - s) by omega, slice_add, slice_add] at hslice
        exact (List.append_inj hslice
          ((length_slice (by omega)).trans (length_slice (by omega)).symm)).2
      · rwa [show a + s + (n - s) = a + n by omega, show v + m + s + (n - s) = v + m + n by omega]
  · rw [keptLen_insert, keptLen_keep, keptLen_keep, keptLen_insert, keptLen_pushKept]
    omega

end Sliding

end DeviceBench.Diff
