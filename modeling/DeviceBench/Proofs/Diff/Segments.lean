/-
Segments. The segments of a sound script walk both lists to their ends, with kept items between any
two changes, and a change at the start of the script that takes nothing out names the start.
-/
import DeviceBench.Diff.Hunk
import DeviceBench.Proofs.Diff.Tidy

namespace DeviceBench.Diff

/-! ## Segments newest first -/

/-- A change at two positions. On a side where it covers nothing it may name another position. -/
structure ChangeAt {α : Type} (old new : List α) (i j a n b m : Nat) : Prop where
  covers : 0 < n + m
  old_eq : 0 < n → a = i
  new_eq : 0 < m → b = j
  old_le : a ≤ old.length
  new_le : b ≤ new.length

/-- Whether a segment is a change. -/
def Segment.IsChange : Segment → Prop
  | .kept .. => False
  | .change .. => True

/-- The segments, newest first, walk both lists from their starts to two positions. -/
inductive Reaches {α : Type} (old new : List α) : List Segment → Nat → Nat → Prop
  | start : Reaches old new [] 0 0
  | kept {segs : List Segment} {i j n : Nat} : Reaches old new segs i j → 0 < n →
      slice old i n = slice new j n → Reaches old new (.kept i j n :: segs) (i + n) (j + n)
  | change {segs : List Segment} {i j a n b m : Nat} : Reaches old new segs i j →
      ChangeAt old new i j a n b m → (∀ s ∈ segs.head?, ¬ s.IsChange) →
      Reaches old new (.change a n b m :: segs) (i + n) (j + m)

section Joining

variable {α : Type} {old new : List α} {segs : List Segment} {i j u v n : Nat} {es : List Edit}

theorem Reaches.join_keep (h : Reaches old new segs i j) (hn : 0 < n)
    (hslice : slice old i n = slice new j n) :
    Reaches old new (joinEdit segs ⟨.equal, i, j, n⟩) (i + n) (j + n) := by
  cases h with
  | start => exact .kept .start hn hslice
  | @kept segs i j m h hm hslice' =>
    simp only [joinEdit]
    rw [Nat.add_assoc, Nat.add_assoc]
    refine .kept h (Nat.add_pos_left hm n) ?_
    rw [slice_add, slice_add, hslice, hslice']
  | change h hchange hsep => exact .kept (.change h hchange hsep) hn hslice

theorem Reaches.join_delete (h : Reaches old new segs i j) (hn : 0 < n)
    (hold : i ≤ old.length) (hv : v ≤ new.length) :
    Reaches old new (joinEdit segs ⟨.delete, i, v, n⟩) (i + n) j := by
  have hlone : ChangeAt old new i j i n v 0 :=
    ⟨Nat.add_pos_left hn 0, fun _ => rfl, fun h0 => absurd h0 (Nat.lt_irrefl 0), hold, hv⟩
  cases h with
  | start => exact .change .start hlone (by simp)
  | kept h hm hslice => exact .change (.kept h hm hslice) hlone (by simp [Segment.IsChange])
  | @change segs i j a k b m h hchange hsep =>
    obtain ⟨hsome, ha, hb, hale, hble⟩ := hchange
    -- the side of a change that is still empty starts with this edit
    cases k with
    | zero => exact .change h ⟨Nat.add_pos_left hn m, fun _ => rfl, hb, hold, hble⟩ hsep
    | succ k =>
      simp only [joinEdit]
      rw [Nat.add_assoc i]
      exact .change h ⟨by omega, fun _ => ha (Nat.succ_pos k), hb, hale, hble⟩ hsep

theorem Reaches.join_insert (h : Reaches old new segs i j) (hn : 0 < n)
    (hu : u ≤ old.length) (hnew : j ≤ new.length) :
    Reaches old new (joinEdit segs ⟨.insert, u, j, n⟩) i (j + n) := by
  have hlone : ChangeAt old new i j u 0 j n :=
    ⟨Nat.add_pos_right 0 hn, fun h0 => absurd h0 (Nat.lt_irrefl 0), fun _ => rfl, hu, hnew⟩
  cases h with
  | start => exact .change .start hlone (by simp)
  | kept h hm hslice => exact .change (.kept h hm hslice) hlone (by simp [Segment.IsChange])
  | @change segs i j a k b m h hchange hsep =>
    obtain ⟨hsome, ha, hb, hale, hble⟩ := hchange
    cases m with
    | zero => exact .change h ⟨Nat.add_pos_right k hn, ha, fun _ => rfl, hale, hnew⟩ hsep
    | succ m =>
      simp only [joinEdit]
      rw [Nat.add_assoc j]
      exact .change h ⟨by omega, ha, fun _ => hb (Nat.succ_pos m), hale, hble⟩ hsep

/-- One more edit is joined. -/
theorem Reaches.join {e : Edit} (h : Reaches old new segs i j) (hfits : Fits old new i j (e :: es)) :
    ∃ i' j', Reaches old new (joinEdit segs e) i' j' ∧ Fits old new i' j' es := by
  obtain ⟨hold, hnew⟩ := hfits.le
  cases hfits with
  | keep hn hslice hfits => exact ⟨_, _, h.join_keep hn hslice, hfits⟩
  | delete hn hv hfits => exact ⟨_, _, h.join_delete hn (by omega) (by omega), hfits⟩
  | insert hn hu hfits => exact ⟨_, _, h.join_insert hn (by omega) (by omega), hfits⟩

theorem Reaches.foldl_join (h : Reaches old new segs i j) (hfits : Fits old new i j es) :
    Reaches old new (es.foldl joinEdit segs) old.length new.length := by
  induction es generalizing segs i j with
  | nil =>
    cases hfits
    exact h
  | cons e es ih =>
    obtain ⟨i', j', h, hfits⟩ := h.join hfits
    exact ih h hfits

end Joining

/-! ## The first segment -/

/-- The first segment stands at the start, or edits to come will see to it. -/
structure Rooted (segs : List Segment) (es : List Edit) : Prop where
  none : segs = [] → Anchored es
  first : ∀ a b m, segs.getLast? = some (.change a 0 b m) →
    a = 0 ∨ segs.length = 1 ∧ ∃ e ∈ firstRun es, e.kind = .delete

theorem joinEdit_ne_nil (segs : List Segment) (e : Edit) : joinEdit segs e ≠ [] := by
  unfold joinEdit
  split <;> simp

/-- Only the newest segment changes. -/
theorem joinEdit_cons (s : Segment) (segs : List Segment) (e : Edit) :
    ∃ top, joinEdit (s :: segs) e = top ++ segs := by
  obtain ⟨kind, i, j, n⟩ := e
  cases s with
  | kept =>
    cases kind with
    | equal => exact ⟨[_], rfl⟩
    | delete => exact ⟨[_, _], rfl⟩
    | insert => exact ⟨[_, _], rfl⟩
  | change a k b m =>
    cases kind with
    | equal => exact ⟨[_, _], rfl⟩
    | delete => cases k <;> exact ⟨[_], rfl⟩
    | insert => cases m <;> exact ⟨[_], rfl⟩

theorem Rooted.join_none {e : Edit} {es : List Edit} (h : Rooted [] (e :: es))
    (hlen : e.len ≠ 0) : Rooted (joinEdit [] e) es := by
  refine ⟨fun hnil => absurd hnil (joinEdit_ne_nil [] e), ?_⟩
  intro a b m hlast
  obtain ⟨kind, i, j, n⟩ := e
  cases kind with
  | equal => simp [joinEdit] at hlast
  | delete =>
    obtain ⟨-, rfl, -⟩ : i = a ∧ n = 0 ∧ _ := by simpa [joinEdit] using hlast
    exact absurd rfl hlen
  | insert =>
    obtain ⟨rfl, -⟩ : i = a ∧ _ := by simpa [joinEdit] using hlast
    have hanchored := h.none rfl
    rw [Anchored, firstRun_cons (show EditKind.insert ≠ .equal by decide)] at hanchored
    rcases hanchored with hdelete | horigin
    · right
      simpa [joinEdit] using hdelete
    · exact .inl (horigin _ List.mem_cons_self)

theorem Rooted.join_one {s : Segment} {e : Edit} {es : List Edit} (h : Rooted [s] (e :: es))
    (hlen : e.len ≠ 0) : Rooted (joinEdit [s] e) es := by
  refine ⟨fun hnil => absurd hnil (joinEdit_ne_nil [s] e), ?_⟩
  intro a b m hlast
  obtain ⟨kind, i, j, n⟩ := e
  replace hlen : n ≠ 0 := hlen
  cases s with
  | kept => cases kind <;> simp [joinEdit] at hlast
  | change a' k b' m' =>
    cases kind with
    | equal =>
      -- the run is over, so no deletion can come
      rcases h.first a b m (by simpa [joinEdit] using hlast) with ha | ⟨-, e, he, -⟩
      · exact .inl ha
      · exact absurd he (not_mem_firstRun_keep rfl e)
    | delete =>
      cases k with
      | zero =>
        simp [joinEdit] at hlast
        omega
      | succ k => simp [joinEdit] at hlast
    | insert =>
      obtain ⟨rfl, rfl⟩ : a' = a ∧ k = 0 := by cases m' <;> simp_all [joinEdit]
      rcases h.first a' b' m' rfl with ha | ⟨-, hdelete⟩
      · exact .inl ha
      · right
        rw [firstRun_cons (show EditKind.insert ≠ .equal by decide)] at hdelete
        cases m' <;> simpa [joinEdit] using hdelete

/-- With two segments the first is done with. -/
theorem Rooted.join_more {s s' : Segment} {segs : List Segment} {e : Edit} {es : List Edit}
    (h : Rooted (s :: s' :: segs) (e :: es)) : Rooted (joinEdit (s :: s' :: segs) e) es := by
  refine ⟨fun hnil => absurd hnil (joinEdit_ne_nil _ e), ?_⟩
  intro a b m hlast
  obtain ⟨top, hjoin⟩ := joinEdit_cons s (s' :: segs) e
  rw [hjoin, List.getLast?_append_of_ne_nil _ (List.cons_ne_nil s' segs)] at hlast
  rcases h.first a b m (by rw [List.getLast?_cons_cons]; exact hlast) with ha | ⟨hone, -⟩
  · exact .inl ha
  · cases hone

theorem Rooted.join {segs : List Segment} {e : Edit} {es : List Edit}
    (h : Rooted segs (e :: es)) (hlen : e.len ≠ 0) : Rooted (joinEdit segs e) es := by
  rcases segs with _ | ⟨s, _ | ⟨s', segs⟩⟩
  · exact h.join_none hlen
  · exact h.join_one hlen
  · exact h.join_more

theorem Rooted.foldl_join {α : Type} {old new : List α} {segs : List Segment} {es : List Edit}
    {i j : Nat} (h : Rooted segs es) (hfits : Fits old new i j es) :
    Rooted (es.foldl joinEdit segs) [] := by
  induction es generalizing segs i j with
  | nil => exact h
  | cons e es ih =>
    obtain ⟨i', j', hfits'⟩ := hfits.suffix [e]
    exact ih (h.join (hfits.len_ne_zero [])) hfits'

/-! ## Segments in order -/

/-- Segments walk both lists from two positions to their ends. -/
inductive Lies {α : Type} (old new : List α) : Nat → Nat → List Segment → Prop
  | done : Lies old new old.length new.length []
  | kept {segs : List Segment} {i j n : Nat} : 0 < n → slice old i n = slice new j n →
      Lies old new (i + n) (j + n) segs → Lies old new i j (.kept i j n :: segs)
  | change {segs : List Segment} {i j a n b m : Nat} : ChangeAt old new i j a n b m →
      (∀ s ∈ segs.head?, ¬ s.IsChange) → Lies old new (i + n) (j + m) segs →
      Lies old new i j (.change a n b m :: segs)

section Order

variable {α : Type} {old new : List α} {i j : Nat}

theorem Lies.le {segs : List Segment} (h : Lies old new i j segs) :
    i ≤ old.length ∧ j ≤ new.length := by
  induction h with
  | done => exact ⟨Nat.le_refl _, Nat.le_refl _⟩
  | kept _ _ _ ih => omega
  | change _ _ _ ih => omega

theorem Reaches.lies {segs rest : List Segment} (h : Reaches old new segs i j)
    (hsep : ∀ s ∈ segs.head?, s.IsChange → ∀ t ∈ rest.head?, ¬ t.IsChange)
    (hrest : Lies old new i j rest) : Lies old new 0 0 (segs.reverse ++ rest) := by
  induction h generalizing rest with
  | start => exact hrest
  | kept h hn hslice ih =>
    rw [List.reverse_cons, List.append_assoc]
    refine ih ?_ (.kept hn hslice hrest)
    rintro s hs hchange t ⟨⟩
    exact id
  | change h hchange hsep' ih =>
    rw [List.reverse_cons, List.append_assoc]
    refine ih ?_ (.change hchange (hsep _ rfl trivial) hrest)
    intro s hs hs'
    exact absurd hs' (hsep' s hs)

/-- The segments of a sound script walk both lists, and the first of them stands at the start. -/
theorem Sound.segments {es : List Edit} (h : Sound old new es) :
    Lies old new 0 0 (segments es) ∧
      ∀ a b m, (Diff.segments es).head? = some (.change a 0 b m) → a = 0 := by
  constructor
  · have hreaches := Reaches.foldl_join (.start : Reaches old new [] 0 0) h.fits
    have hdone : Lies old new old.length new.length [] := .done
    simpa [Diff.segments] using hreaches.lies (by simp) hdone
  · intro a b m hhead
    have hrooted : Rooted [] es := ⟨fun _ => h.anchored, by simp⟩
    rw [Diff.segments, List.head?_reverse] at hhead
    rcases (hrooted.foldl_join h.fits).first a b m hhead with ha | ⟨-, e, he, -⟩
    · exact ha
    · cases he

end Order

end DeviceBench.Diff
