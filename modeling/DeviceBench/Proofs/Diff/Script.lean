/-
Edit scripts lead from the old list to the new one. A script is exact when it walks both lists to
their ends, each edit stands where the walk has come to, and kept items are equal in both. The
script that divide and conquer finds is exact wherever it cuts.
-/
import DeviceBench.Diff.Slide
import Mathlib.Data.List.Infix

namespace DeviceBench.Diff

/-! ## Slices -/

section Slices

variable {α : Type} {items part : List α} {i n m : Nat}

theorem length_slice (h : i + n ≤ items.length) : (slice items i n).length = n := by
  simp only [slice, List.length_take, List.length_drop]
  omega

theorem slice_add (items : List α) (i n m : Nat) :
    slice items i (n + m) = slice items i n ++ slice items (i + n) m := by
  simp only [slice, List.take_add, List.drop_drop]

theorem slice_zero (items : List α) (i : Nat) : slice items i 0 = [] := List.take_zero

/-- A slice of the part of a list that starts at a position is one of the list. -/
theorem slice_eq_take (h : part <+: items.drop i) (hn : n ≤ part.length) :
    slice items i n = part.take n := by
  obtain ⟨rest, h⟩ := h
  rw [slice, ← h, List.take_append_of_le_length hn]

theorem slice_prefix_drop (items : List α) (i n : Nat) : slice items i n <+: items.drop i :=
  List.take_prefix n _

theorem drop_prefix_drop (h : part <+: items.drop i) (n : Nat) :
    part.drop n <+: items.drop (i + n) := by
  rw [← List.drop_drop]
  exact h.drop n

theorem take_prefix_drop (h : part <+: items.drop i) (n : Nat) :
    part.take n <+: items.drop i := (List.take_prefix n part).trans h

end Slices

/-! ## Common ends -/

section CommonEnds

variable {α : Type} [DecidableEq α]

theorem commonPrefix_le (as bs : List α) :
    commonPrefix as bs ≤ as.length ∧ commonPrefix as bs ≤ bs.length := by
  fun_induction commonPrefix as bs with
  | case1 as b bs ih => simpa using ih
  | case2 => simp
  | case3 => simp

theorem take_commonPrefix (as bs : List α) :
    as.take (commonPrefix as bs) = bs.take (commonPrefix as bs) := by
  fun_induction commonPrefix as bs with
  | case1 as b bs ih => rw [List.take_succ_cons, List.take_succ_cons, ih]
  | case2 => rfl
  | case3 => rfl

theorem commonSuffix_le (as bs : List α) :
    commonSuffix as bs ≤ as.length ∧ commonSuffix as bs ≤ bs.length := by
  simpa [commonSuffix] using commonPrefix_le as.reverse bs.reverse

theorem drop_commonSuffix (as bs : List α) :
    as.drop (as.length - commonSuffix as bs) = bs.drop (bs.length - commonSuffix as bs) := by
  have h := take_commonPrefix as.reverse bs.reverse
  rw [List.take_reverse, List.take_reverse] at h
  exact List.reverse_inj.1 h

section Parts

variable {old new as bs : List α} {i j : Nat}

theorem slice_commonPrefix (has : as <+: old.drop i) (hbs : bs <+: new.drop j) :
    slice old i (commonPrefix as bs) = slice new j (commonPrefix as bs) := by
  obtain ⟨hle, hle'⟩ := commonPrefix_le as bs
  rw [slice_eq_take has hle, slice_eq_take hbs hle', take_commonPrefix]

theorem slice_commonSuffix (has : as <+: old.drop i) (hbs : bs <+: new.drop j) :
    slice old (i + (as.length - commonSuffix as bs)) (commonSuffix as bs) =
      slice new (j + (bs.length - commonSuffix as bs)) (commonSuffix as bs) := by
  obtain ⟨hle, hle'⟩ := commonSuffix_le as bs
  rw [slice_eq_take (drop_prefix_drop has _) (by rw [List.length_drop]; omega),
    slice_eq_take (drop_prefix_drop hbs _) (by rw [List.length_drop]; omega), drop_commonSuffix]

end Parts

end CommonEnds

/-! ## Scripts as they are found -/

/-- A script that walks two lists from two positions to their ends. Each edit stands where the walk
has come to; only an insertion may still name the old position from before deletions. -/
inductive Fresh {α : Type} (old new : List α) : Nat → Nat → List Edit → Prop
  | done : Fresh old new old.length new.length []
  | keep {i j n : Nat} {es : List Edit} : 0 < n → slice old i n = slice new j n →
      Fresh old new (i + n) (j + n) es → Fresh old new i j (⟨.equal, i, j, n⟩ :: es)
  | delete {i j n : Nat} {es : List Edit} : 0 < n →
      Fresh old new (i + n) j es → Fresh old new i j (⟨.delete, i, j, n⟩ :: es)
  | insert {i j n u : Nat} {es : List Edit} : 0 < n → u ≤ i →
      Fresh old new i (j + n) es → Fresh old new i j (⟨.insert, u, j, n⟩ :: es)

/-- An edit of no items is none. -/
theorem editOf_append {P : List Edit → Prop} {kind : EditKind} {i j n : Nat} {es : List Edit}
    (hzero : n = 0 → P es) (hpos : 0 < n → P (⟨kind, i, j, n⟩ :: es)) :
    P (editOf kind i j n ++ es) := by
  unfold editOf
  split
  · exact hzero ‹_›
  · exact hpos (Nat.pos_of_ne_zero ‹_›)

namespace Fresh

variable {α : Type} {old new : List α} {i j n m u : Nat} {es : List Edit}

theorem editOf_keep (hslice : slice old i n = slice new j n)
    (h : Fresh old new (i + n) (j + n) es) : Fresh old new i j (editOf .equal i j n ++ es) := by
  apply editOf_append
  · rintro rfl
    exact h
  · intro hn
    exact .keep hn hslice h

theorem editOf_delete (h : Fresh old new (i + n) j es) :
    Fresh old new i j (editOf .delete i j n ++ es) := by
  apply editOf_append
  · rintro rfl
    exact h
  · intro hn
    exact .delete hn h

theorem editOf_insert (hu : u ≤ i) (h : Fresh old new i (j + n) es) :
    Fresh old new i j (editOf .insert u j n ++ es) := by
  apply editOf_append
  · rintro rfl
    exact h
  · intro hn
    exact .insert hn hu h

theorem replaceAllEdits (h : Fresh old new (i + n) (j + m) es) :
    Fresh old new i j (replaceAllEdits i j n m ++ es) := by
  rw [Diff.replaceAllEdits, List.append_assoc]
  exact editOf_delete (editOf_insert (Nat.le_add_right i n) h)

end Fresh

/-- Whatever is left to walk after two parts, a script between them walks up to there. -/
theorem scriptFrom_fresh {α : Type} [DecidableEq α] {old new : List α} (i j : Nat)
    (as bs : List α) (es : List Edit) (has : as <+: old.drop i) (hbs : bs <+: new.drop j)
    (h : Fresh old new (i + as.length) (j + bs.length) es) :
    Fresh old new i j (scriptFrom i j as bs ++ es) := by
  fun_induction scriptFrom i j as bs generalizing es with
  | case1 i j as bs kept as' bs' ended n m inner ihLeft ihRight =>
    obtain ⟨hkeptA, hkeptB⟩ := commonPrefix_le as bs
    obtain ⟨hendedA, hendedB⟩ := commonSuffix_le as' bs'
    have hlenA : as'.length = as.length - kept := List.length_drop
    have hlenB : bs'.length = bs.length - kept := List.length_drop
    have has' : as' <+: old.drop (i + kept) := drop_prefix_drop has kept
    have hbs' : bs' <+: new.drop (j + kept) := drop_prefix_drop hbs kept
    have hstart : slice old i kept = slice new j kept := slice_commonPrefix has hbs
    have hend : slice old (i + kept + n) ended = slice new (j + kept + m) ended :=
      slice_commonSuffix has' hbs'
    -- wherever the middle is cut, its two parts walk on to where the kept end starts
    have hinner (es : List Edit) (h : Fresh old new (i + kept + n) (j + kept + m) es) :
        Fresh old new (i + kept) (j + kept) (inner ++ es) := by
      unfold inner
      split
      · exact .replaceAllEdits h
      split
      · exact .replaceAllEdits h
      · rename_i x y _
        split
        · rename_i hsmaller
          have hx := hsmaller.2.2.1
          have hy := hsmaller.2.2.2
          rw [List.append_assoc]
          apply ihLeft x y hsmaller _ (take_prefix_drop has' x) (take_prefix_drop hbs' y)
          rw [List.length_take, List.length_take, Nat.min_eq_left (by omega),
            Nat.min_eq_left (by omega)]
          apply ihRight x y hsmaller _ (drop_prefix_drop (take_prefix_drop has' n) x)
            (drop_prefix_drop (take_prefix_drop hbs' m) y)
          rw [List.length_drop, List.length_drop, List.length_take, List.length_take,
            Nat.min_eq_left (by omega), Nat.min_eq_left (by omega),
            show i + kept + x + (n - x) = i + kept + n by omega,
            show j + kept + y + (m - y) = j + kept + m by omega]
          exact h
        · exact .replaceAllEdits h
    rw [List.append_assoc, List.append_assoc]
    apply Fresh.editOf_keep hstart
    apply hinner
    apply Fresh.editOf_keep hend
    rw [show i + kept + n + ended = i + as.length by omega,
      show j + kept + m + ended = j + bs.length by omega]
    exact h

/-- The script between two lists walks both of them to their ends. -/
theorem script_fresh {α : Type} [DecidableEq α] (old new : List α) :
    Fresh old new 0 0 (script old new) := by
  have h : Fresh old new (0 + old.length) (0 + new.length) [] := by
    simpa using Fresh.done
  simpa [script] using scriptFrom_fresh 0 0 old new [] (List.prefix_refl old)
    (List.prefix_refl new) h

end DeviceBench.Diff
