/-
Tidying keeps a script sound: it fits both lists and is anchored at its start. An edit that moves up
keeps this step by step, except that an insertion which has passed all that was kept before it may be
loose: nothing but insertions at the start stand above it, and it can slide down at once. The way
down, which always follows, ends that.
-/
import DeviceBench.Proofs.Diff.Anchor

namespace DeviceBench.Diff

/-- A script that leads from one list to another and says where it begins. -/
structure Sound {α : Type} (old new : List α) (es : List Edit) : Prop where
  fits : Fits old new 0 0 es
  anchored : Anchored es

/-- The script under a cursor. -/
def Cursor.edits (c : Cursor) : List Edit := c.before.reverse ++ c.moving :: c.after

/-- The moving edit can stand where its old position is wrong, and is about to leave. -/
structure Cursor.Loose {α : Type} [DecidableEq α] (old new : List α) (c : Cursor) : Prop where
  origin : ∀ e ∈ c.before, e.kind ≠ .equal ∧ e.old = 0
  slides : ∃ q after, c.after = q :: after ∧ q.kind = .equal ∧ 0 < slidesDown old new q c.moving

/-- A cursor between two steps. -/
structure Cursor.Held {α : Type} [DecidableEq α] (old new : List α) (c : Cursor) : Prop where
  moves : c.moving.kind ≠ .equal
  fits : Fits old new 0 0 c.edits
  anchored : Anchored c.edits ∨ c.Loose old new

/-! ## Neighbours of a cursor -/

theorem commonPrefix_pos {α : Type} [DecidableEq α] {as bs : List α} {a : α}
    (has : as.head? = some a) (hbs : bs.head? = some a) : 0 < commonPrefix as bs := by
  obtain ⟨as, rfl⟩ := List.head?_eq_some_iff.1 has
  obtain ⟨bs, rfl⟩ := List.head?_eq_some_iff.1 hbs
  rw [commonPrefix, if_pos rfl]
  exact Nat.succ_pos _

theorem head?_slice {α : Type} (items : List α) (i : Nat) {n : Nat} (hn : 0 < n) :
    (slice items i n).head? = items[i]? := by
  rw [slice, List.head?_take, if_neg (Nat.ne_of_gt hn), List.head?_drop]

theorem reverse_pushKept (e : Edit) (before es : List Edit) :
    (pushKept e before).reverse ++ es = before.reverse ++ pushKept e es := by
  unfold pushKept
  split
  · rfl
  · simp

theorem growLeft_head (s i j : Nat) (es : List Edit) :
    ∃ g rest, growLeft s i j es = g :: rest ∧ g.kind = .equal := by
  unfold growLeft
  split
  · split
    · exact ⟨_, _, rfl, rfl⟩
    · exact ⟨_, _, rfl, rfl⟩
  · exact ⟨_, _, rfl, rfl⟩

theorem growRight_eq (s i j : Nat) (before : List Edit) :
    growRight s i j before = ⟨.equal, i, j, s⟩ :: before ∨
      ∃ e es, before = e :: es ∧ e.kind = .equal ∧
        growRight s i j before = ⟨e.kind, e.old, e.new, e.len + s⟩ :: es := by
  cases before with
  | nil => exact .inl rfl
  | cons e es =>
    by_cases hkind : e.kind = .equal
    · refine .inr ⟨e, es, rfl, hkind, ?_⟩
      rw [growRight, if_pos hkind, hkind]
    · refine .inl ?_
      rw [growRight, if_neg hkind]

/-- Kept items join those above them. -/
theorem growRight_refits {α : Type} (old new : List α) (s i j : Nat) (before es : List Edit) :
    Refits old new (before.reverse ++ ⟨.equal, i, j, s⟩ :: es)
      ((growRight s i j before).reverse ++ es) := by
  rcases growRight_eq s i j before with h | ⟨e, above, rfl, hkind, h⟩
  · rw [h, List.reverse_cons, List.append_assoc]
    exact .refl _
  · rw [h, List.reverse_cons, List.reverse_cons, List.append_assoc, List.append_assoc]
    exact (Refits.join es hkind).append above.reverse

theorem growRight_regrounds (s i j : Nat) (before es : List Edit) :
    Regrounds (before.reverse ++ ⟨.equal, i, j, s⟩ :: es)
      ((growRight s i j before).reverse ++ es) := by
  rcases growRight_eq s i j before with h | ⟨e, above, rfl, hkind, h⟩
  · rw [h, List.reverse_cons, List.append_assoc]
    exact ⟨id, id⟩
  · rw [h, List.reverse_cons, List.reverse_cons, List.append_assoc, List.append_assoc]
    exact (Regrounds.join es hkind).append above.reverse

theorem anchored_of_origin {before es : List Edit}
    (hbefore : ∀ e ∈ before, e.kind ≠ .equal ∧ e.old = 0)
    (hes : ∀ e ∈ firstRun es, e.old = 0) : Anchored (before.reverse ++ es) := by
  right
  rw [firstRun_append fun e he => (hbefore e (List.mem_reverse.1 he)).1]
  intro e he
  rcases List.mem_append.1 he with he | he
  · exact (hbefore e (List.mem_reverse.1 he)).2
  · exact hes e he

section Steps

variable {α : Type} [DecidableEq α] {old new : List α} {q t : Edit} {before after after' : List Edit}

theorem edits_cons_before (q t : Edit) (before after : List Edit) :
    Cursor.edits ⟨q :: before, t, after⟩ = before.reverse ++ q :: t :: after := by
  simp [Cursor.edits]

theorem Cursor.Loose.insert (h : Cursor.Loose old new ⟨before, t, after⟩) : t.kind = .insert := by
  obtain ⟨q, rest, -, -, hslides⟩ := h.slides
  exact insert_of_slidesDown hslides

theorem Cursor.Loose.keep_after (h : Cursor.Loose old new ⟨before, t, q :: after⟩) :
    q.kind = .equal := by
  obtain ⟨q', rest, hafter, hkind, -⟩ := h.slides
  cases hafter
  exact hkind

theorem Cursor.Loose.firstRun_after (h : Cursor.Loose old new ⟨before, t, after⟩) :
    firstRun after = [] := by
  obtain ⟨q, rest, rfl, hkind, -⟩ := h.slides
  exact firstRun_keep hkind

/-! ## Up -/

theorem Cursor.Held.swap_up (h : Cursor.Held old new ⟨q :: before, t, after⟩)
    (hq : q.kind ≠ .equal) (hqt : q.kind ≠ t.kind) :
    Cursor.Held old new ⟨before, t, q :: after⟩ := by
  obtain ⟨hmoves, hfits, hanchored⟩ := h
  rw [edits_cons_before] at hfits hanchored
  refine ⟨hmoves, ?_, .inl ?_⟩
  · exact ((Refits.swap after hq hmoves hqt).append before.reverse).fits hfits
  · rcases hanchored with hanchored | hloose
    · exact ((Regrounds.swap after hq hmoves).append before.reverse).anchored hanchored
    · -- only insertions are loose, so what is passed is a deletion
      have hdelete : q.kind = .delete := by
        have ht := hloose.insert
        cases hkind : q.kind with
        | equal => exact absurd hkind hq
        | delete => rfl
        | insert => exact absurd (hkind.trans ht.symm) hqt
      have hrun : ∀ e ∈ before.reverse, e.kind ≠ .equal := fun e he =>
        (hloose.origin e (List.mem_cons_of_mem q (List.mem_reverse.1 he))).1
      refine .inl ⟨q, ?_, hdelete⟩
      rw [Cursor.edits, firstRun_append hrun, firstRun_cons hmoves, firstRun_cons hq]
      simp

theorem Cursor.Held.join_up (h : Cursor.Held old new ⟨q :: before, t, after⟩)
    (hqt : q.kind = t.kind) :
    Cursor.Held old new ⟨before, ⟨q.kind, q.old, q.new, q.len + t.len⟩, after⟩ := by
  obtain ⟨hmoves, hfits, hanchored⟩ := h
  rw [edits_cons_before] at hfits hanchored
  refine ⟨hqt ▸ hmoves, ?_, .inl ?_⟩
  · exact ((Refits.join after hqt).append before.reverse).fits hfits
  · rcases hanchored with hanchored | hloose
    · exact ((Regrounds.join after hqt).append before.reverse).anchored hanchored
    · obtain ⟨hkind, hold⟩ := hloose.origin q List.mem_cons_self
      refine anchored_of_origin (fun e he => hloose.origin e (List.mem_cons_of_mem q he)) ?_
      dsimp only
      rw [firstRun_cons (show (Edit.mk q.kind q.old q.new (q.len + t.len)).kind ≠ .equal from hkind),
        hloose.firstRun_after]
      simpa using hold

/-- An insertion that has slid over all kept items above it can slide back over them. -/
theorem slidesDown_of_slid {i j : Nat} {g : Edit} {rest : List Edit} (hq : q.kind = .equal)
    (ht : t.kind = .insert) (hfits : Fits old new i j (q :: after')) (hg : g.kind = .equal)
    (hslid : Fits old new i j (t :: g :: rest)) : 0 < slidesDown old new g t := by
  obtain ⟨kind, a, b, n⟩ := q
  obtain ⟨kind', u, v, m⟩ := t
  obtain ⟨kind'', a', b', n'⟩ := g
  cases hq
  cases ht
  cases hg
  obtain ⟨rfl, rfl, hn, hslice, h⟩ := fits_keep.1 hfits
  obtain ⟨rfl, hm, -, h'⟩ := fits_insert.1 hslid
  obtain ⟨rfl, -, hn', -, -⟩ := fits_keep.1 h'
  obtain ⟨hold, hnew⟩ := h.le
  rw [slidesDown, if_pos rfl]
  have hlt : a' < old.length := by omega
  refine commonPrefix_pos (a := old[a']) ?_ ?_
  · rw [head?_slice old a' hn', List.getElem?_eq_getElem]
  · rw [head?_slice new v hm, ← head?_slice new v hn, ← hslice, head?_slice old a' hn,
      List.getElem?_eq_getElem]

theorem Cursor.Loose.of_slid {i j s a b : Nat} (horigin : ∀ e ∈ before, e.kind ≠ .equal ∧ e.old = 0)
    (hq : q.kind = .equal) (ht : t.kind = .insert) (hfits : Fits old new i j (q :: after'))
    (hslid : Fits old new i j (t :: growLeft s a b after)) :
    Cursor.Loose old new ⟨before, t, growLeft s a b after⟩ := by
  obtain ⟨g, rest, hgrown, hg⟩ := growLeft_head s a b after
  rw [hgrown] at hslid ⊢
  exact ⟨horigin, g, rest, rfl, hg, slidesDown_of_slid hq ht hfits hg hslid⟩

theorem Cursor.Held.slide_up (h : Cursor.Held old new ⟨q :: before, t, after⟩)
    (hq : q.kind = .equal) {s : Nat} (hs : s = slidesUp old new q t) (hpos : 0 < s)
    (hle : s ≤ q.len) :
    Cursor.Held old new ⟨pushKept ⟨.equal, q.old, q.new, q.len - s⟩ before,
      ⟨t.kind, t.old - s, t.new - s, t.len⟩,
      growLeft s (q.old + q.len - s) (t.new + t.len - s) after⟩ := by
  obtain ⟨hmoves, hfits, hanchored⟩ := h
  rw [edits_cons_before] at hfits hanchored
  have ht : t.kind = .insert := insert_of_slidesUp (hs ▸ hpos)
  have hrefits : Refits old new (q :: t :: after) _ := Refits.slideUp after hq hs hpos hle
  refine ⟨hmoves, ?_, ?_⟩
  · rw [Cursor.edits, reverse_pushKept]
    exact (hrefits.append before.reverse).fits hfits
  have hanchored : Anchored (before.reverse ++ q :: t :: after) :=
    hanchored.resolve_right fun hloose => (hloose.origin q List.mem_cons_self).1 hq
  rcases hanchored.above_keep hq with hfree | horigin
  · left
    rw [Cursor.edits, reverse_pushKept]
    exact hfree _
  replace horigin : ∀ e ∈ before, e.kind ≠ .equal ∧ e.old = 0 := fun e he =>
    horigin e (List.mem_reverse.2 he)
  by_cases hrest : q.len - s = 0
  · -- all that was kept above is passed, so the way back down is open
    right
    obtain ⟨i, j, hfits⟩ := hfits.suffix before.reverse
    have hslid := hrefits.fits hfits
    rw [pushKept, if_pos hrest] at hslid ⊢
    exact .of_slid horigin hq ht hfits hslid
  · left
    rw [Cursor.edits, reverse_pushKept, pushKept, if_neg hrest]
    exact anchored_of_origin horigin fun e he => absurd he (not_mem_firstRun_keep rfl e)

/-- The way up. -/
theorem slideUp_held (h : Cursor.Held old new ⟨before, t, after⟩) :
    (slideUp old new before t after).Held old new := by
  fun_induction slideUp old new before t after with
  | case1 t after => exact h
  | case2 q before t after hq s hslides ih => exact ih (h.slide_up hq rfl hslides.1 hslides.2)
  | case3 q before t after hq s hstuck hlen ih =>
    have hfits := h.fits
    rw [edits_cons_before] at hfits
    exact absurd hlen (hfits.len_ne_zero before.reverse)
  | case4 q before t after hq s hstuck hlen => exact h
  | case5 q before t after hq hqt ih => exact ih (h.join_up hqt)
  | case6 q before t after hq hqt ih => exact ih (h.swap_up hq hqt)

/-! ## Down -/

theorem Cursor.Held.swap_down (h : Cursor.Held old new ⟨before, t, q :: after⟩)
    (hq : q.kind ≠ .equal) (hqt : q.kind ≠ t.kind) :
    Cursor.Held old new ⟨q :: before, t, after⟩ := by
  obtain ⟨hmoves, hfits, hanchored⟩ := h
  refine ⟨hmoves, ?_, .inl ?_⟩
  · rw [edits_cons_before]
    exact ((Refits.swap after hmoves hq hqt.symm).append before.reverse).fits hfits
  · rcases hanchored with hanchored | hloose
    · rw [edits_cons_before]
      exact ((Regrounds.swap after hmoves hq).append before.reverse).anchored hanchored
    · exact absurd hloose.keep_after hq

theorem Cursor.Held.join_down (h : Cursor.Held old new ⟨before, t, q :: after⟩)
    (hqt : q.kind = t.kind) :
    Cursor.Held old new ⟨before, ⟨t.kind, t.old, t.new, t.len + q.len⟩, after⟩ := by
  obtain ⟨hmoves, hfits, hanchored⟩ := h
  refine ⟨hmoves, ?_, .inl ?_⟩
  · exact ((Refits.join after hqt.symm).append before.reverse).fits hfits
  · rcases hanchored with hanchored | hloose
    · exact ((Regrounds.join after hqt.symm).append before.reverse).anchored hanchored
    · exact absurd (hqt.symm.trans hloose.keep_after) hmoves

theorem Cursor.Held.slide_down (h : Cursor.Held old new ⟨before, t, q :: after⟩)
    (hq : q.kind = .equal) {s : Nat} (hs : s = slidesDown old new q t) (hpos : 0 < s)
    (hle : s ≤ q.len) :
    Cursor.Held old new ⟨growRight s q.old t.new before,
      ⟨t.kind, t.old + s, t.new + s, t.len⟩,
      pushKept ⟨.equal, q.old + s, q.new + s, q.len - s⟩ after⟩ := by
  obtain ⟨hmoves, hfits, hanchored⟩ := h
  have ht : t.kind = .insert := insert_of_slidesDown (hs ▸ hpos)
  refine ⟨hmoves, ?_, .inl ?_⟩
  · have hslid := ((Refits.slideDown after hq hs hpos hle).append before.reverse).fits hfits
    exact (growRight_refits old new s q.old t.new before _).fits hslid
  · refine (growRight_regrounds s q.old t.new before _).anchored ?_
    rcases hanchored with hanchored | hloose
    · refine ((Regrounds.keep _ rfl ?_).append before.reverse).anchored hanchored
      dsimp only
      rw [firstRun_cons hmoves, firstRun_keep hq]
      simp [ht]
    · exact anchored_of_origin hloose.origin fun e he =>
        absurd he (not_mem_firstRun_keep rfl e)

/-- Where a cursor stops on its way down, nothing is loose. -/
theorem Cursor.Held.sound (h : Cursor.Held old new ⟨before, t, after⟩)
    (hstop : ∀ q rest, after = q :: rest → slidesDown old new q t = 0) :
    Sound old new (Cursor.edits ⟨before, t, after⟩) := by
  refine ⟨h.fits, h.anchored.resolve_right fun hloose => ?_⟩
  obtain ⟨q, rest, hafter, -, hslides⟩ := hloose.slides
  exact Nat.ne_of_gt hslides (hstop q rest hafter)

theorem slidesDown_le (q t : Edit) : slidesDown old new q t ≤ q.len := by
  unfold slidesDown
  split
  · exact (commonPrefix_le _ _).1.trans (List.length_take_le _ _)
  · exact Nat.zero_le _

/-- The way down. -/
theorem slideDown_sound (h : Cursor.Held old new ⟨before, t, after⟩) :
    Sound old new (slideDown old new before t after).edits := by
  fun_induction slideDown old new before t after with
  | case1 before t => exact h.sound fun q rest hnil => by cases hnil
  | case2 before t q after hq s hslides ih => exact ih (h.slide_down hq rfl hslides.1 hslides.2)
  | case3 before t q after hq s hstuck hlen ih =>
    have hfits : Fits old new 0 0 ((before.reverse ++ [t]) ++ q :: after) := by
      simpa [Cursor.edits] using h.fits
    exact absurd hlen (hfits.len_ne_zero _)
  | case4 before t q after hq s hstuck hlen =>
    refine h.sound ?_
    rintro q' rest ⟨⟩
    exact Nat.eq_zero_of_not_pos fun hpos => hstuck ⟨hpos, slidesDown_le q t⟩
  | case5 before t q after hq hqt ih => exact ih (h.join_down hqt)
  | case6 before t q after hq hqt ih => exact ih (h.swap_down hq hqt)

end Steps

/-! ## All edits -/

section Tidying

variable {α : Type} [DecidableEq α] {old new : List α} {kind : EditKind}

theorem slideEach_sound (hkind : kind ≠ .equal) (count : Nat) {before after : List Edit}
    (h : Sound old new (before.reverse ++ after)) :
    Sound old new (slideEach old new kind count before after) := by
  induction count generalizing before after with
  | zero => exact h
  | succ count ih =>
    rw [slideEach, List.span_eq_takeWhile_dropWhile]
    have hafter := List.takeWhile_append_dropWhile (p := fun e => e.kind != kind) (l := after)
    dsimp only
    generalize hpassed : after.takeWhile (fun e => e.kind != kind) = passed at hafter ⊢
    generalize hrest : after.dropWhile (fun e => e.kind != kind) = rest at hafter ⊢
    -- the edits passed over join those above, newest first
    cases rest with
    | nil => exact h
    | cons moving rest =>
      have hmoving : moving.kind = kind := by
        have hhead := List.head?_dropWhile_not (fun e : Edit => e.kind != kind) after
        simpa [hrest] using hhead
      have hheld : Cursor.Held old new ⟨passed.reverse ++ before, moving, rest⟩ := by
        refine ⟨hmoving ▸ hkind, ?_, .inl ?_⟩
        · simpa [Cursor.edits, ← hafter] using h.fits
        · simpa [Cursor.edits, ← hafter] using h.anchored
      apply ih
      simpa [Cursor.edits] using slideDown_sound (slideUp_held hheld)

theorem slideKind_sound (hkind : kind ≠ .equal) {es : List Edit} (h : Sound old new es) :
    Sound old new (slideKind old new kind es) := slideEach_sound hkind _ h

/-- A tidied script leads from the old list to the new one and says where it begins. -/
theorem tidy_script_sound (old new : List α) : Sound old new (tidy old new (script old new)) := by
  have hfresh := script_fresh old new
  have h : Sound old new (script old new) := ⟨hfresh.fits, hfresh.anchored⟩
  exact slideKind_sound (by decide) (slideKind_sound (by decide) h)

end Tidying

end DeviceBench.Diff
