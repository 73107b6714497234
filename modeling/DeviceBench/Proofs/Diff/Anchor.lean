/-
Where a script begins. An insertion alone before the first kept item has only its own old position
to say that it stands at the start, and that position may be out of date. It is right in the script
as found, and the moves of tidying keep it right, except that an insertion which slides over all that
was kept before it can leave it wrong for a moment.
-/
import DeviceBench.Proofs.Diff.Edits

namespace DeviceBench.Diff

/-- The edits before the first kept items. -/
def firstRun (es : List Edit) : List Edit := es.takeWhile fun e => e.kind != .equal

section FirstRun

variable {q : Edit} {es fs : List Edit}

theorem firstRun_keep (h : q.kind = .equal) : firstRun (q :: es) = [] := by
  simp [firstRun, h]

theorem not_mem_firstRun_keep (h : q.kind = .equal) (e : Edit) : e ∉ firstRun (q :: es) := by
  rw [firstRun_keep h]
  exact List.not_mem_nil

theorem firstRun_cons (h : q.kind ≠ .equal) : firstRun (q :: es) = q :: firstRun es := by
  simp [firstRun, h]

theorem firstRun_append (h : ∀ e ∈ es, e.kind ≠ .equal) :
    firstRun (es ++ fs) = es ++ firstRun fs := by
  induction es with
  | nil => rfl
  | cons e es ih =>
    rw [List.cons_append, firstRun_cons (h e List.mem_cons_self),
      ih fun e he => h e (List.mem_cons_of_mem _ he), List.cons_append]

theorem firstRun_append_of_keep (h : ∃ e ∈ es, e.kind = .equal) :
    firstRun (es ++ fs) = firstRun es := by
  induction es with
  | nil =>
    obtain ⟨e, he, -⟩ := h
    cases he
  | cons e es ih =>
    by_cases hkind : e.kind = .equal
    · rw [List.cons_append, firstRun_keep hkind, firstRun_keep hkind]
    · rw [List.cons_append, firstRun_cons hkind, firstRun_cons hkind, ih]
      obtain ⟨e', he', hkind'⟩ := h
      rcases List.mem_cons.1 he' with rfl | he'
      · exact absurd hkind' hkind
      · exact ⟨e', he', hkind'⟩

end FirstRun

/-- A deletion before the first kept items says where the old list changes there, and without one
every insertion has to. -/
def Anchored (es : List Edit) : Prop :=
  (∃ e ∈ firstRun es, e.kind = .delete) ∨ ∀ e ∈ firstRun es, e.old = 0

theorem anchored_keep {q : Edit} (es : List Edit) (h : q.kind = .equal) : Anchored (q :: es) := by
  right
  intro e he
  exact absurd he (not_mem_firstRun_keep h e)

theorem Fresh.anchored {α : Type} {old new : List α} {j : Nat} {es : List Edit}
    (h : Fresh old new 0 j es) : Anchored es := by
  generalize hi : 0 = i at h
  induction h with
  | done =>
    right
    intro e he
    cases he
  | keep => exact anchored_keep _ rfl
  | delete => exact .inl ⟨_, List.mem_cons_self, rfl⟩
  | @insert i j n u es hn hu h ih =>
    subst hi
    rw [Anchored, firstRun_cons (show EditKind.insert ≠ .equal by decide)]
    rcases ih rfl with ⟨e, he, hkind⟩ | horigin
    · exact .inl ⟨e, List.mem_cons_of_mem _ he, hkind⟩
    · right
      intro e he
      rcases List.mem_cons.1 he with rfl | he
      · exact Nat.le_zero.1 hu
      · exact horigin e he

/-- Edits that may stand for others where these hold a script at its start. -/
structure Regrounds (es fs : List Edit) : Prop where
  deletes : (∃ e ∈ firstRun es, e.kind = .delete) → ∃ e ∈ firstRun fs, e.kind = .delete
  origin : (∀ e ∈ firstRun es, e.old = 0) → ∀ e ∈ firstRun fs, e.old = 0

theorem Regrounds.anchored {es fs : List Edit} (h : Regrounds es fs) (hes : Anchored es) :
    Anchored fs := hes.imp h.deletes h.origin

/-- Kept items may come to stand before insertions. -/
theorem Regrounds.keep {q : Edit} {es : List Edit} (fs : List Edit) (hq : q.kind = .equal)
    (hes : ∀ e ∈ firstRun es, e.kind ≠ .delete) : Regrounds es (q :: fs) := by
  constructor
  · rintro ⟨e, he, hkind⟩
    exact absurd hkind (hes e he)
  · intro _ e he
    exact absurd he (not_mem_firstRun_keep hq e)

/-- Nothing matters below kept items. -/
theorem Regrounds.keeps {q q' : Edit} (es fs : List Edit) (hq : q.kind = .equal)
    (hq' : q'.kind = .equal) : Regrounds (q :: es) (q' :: fs) := by
  refine .keep fs hq' ?_
  intro e he
  exact absurd he (not_mem_firstRun_keep hq e)

theorem Regrounds.cons {es fs : List Edit} (e : Edit) (h : Regrounds es fs) :
    Regrounds (e :: es) (e :: fs) := by
  by_cases hkind : e.kind = .equal
  · exact .keeps es fs hkind hkind
  · constructor
    · rw [firstRun_cons hkind, firstRun_cons hkind]
      simp only [List.exists_mem_cons_iff]
      exact Or.imp_right h.deletes
    · rw [firstRun_cons hkind, firstRun_cons hkind]
      simp only [List.forall_mem_cons]
      exact And.imp_right h.origin

theorem Regrounds.append (before : List Edit) {es fs : List Edit} (h : Regrounds es fs) :
    Regrounds (before ++ es) (before ++ fs) := by
  induction before with
  | nil => exact h
  | cons e before ih => exact ih.cons e

section Moves

variable {q t : Edit}

theorem Regrounds.swap (es : List Edit) (hq : q.kind ≠ .equal) (ht : t.kind ≠ .equal) :
    Regrounds (q :: t :: es) (t :: q :: es) := by
  constructor
  · rw [firstRun_cons hq, firstRun_cons ht, firstRun_cons ht, firstRun_cons hq]
    simp only [List.exists_mem_cons_iff]
    exact or_left_comm.1
  · rw [firstRun_cons hq, firstRun_cons ht, firstRun_cons ht, firstRun_cons hq]
    simp only [List.forall_mem_cons]
    exact and_left_comm.1

theorem Regrounds.join (es : List Edit) (hqt : q.kind = t.kind) :
    Regrounds (q :: t :: es) (⟨q.kind, q.old, q.new, q.len + t.len⟩ :: es) := by
  by_cases hq : q.kind = .equal
  · exact .keeps _ es hq hq
  · generalize hu : Edit.mk q.kind q.old q.new (q.len + t.len) = u
    have hkind : u.kind = q.kind := hu ▸ rfl
    have hold : u.old = q.old := hu ▸ rfl
    have ht := hqt ▸ hq
    have hu := hkind ▸ hq
    constructor
    · rw [firstRun_cons hq, firstRun_cons ht, firstRun_cons hu]
      simp only [List.exists_mem_cons_iff, hkind, ← hqt]
      tauto
    · rw [firstRun_cons hq, firstRun_cons ht, firstRun_cons hu]
      simp only [List.forall_mem_cons, hold]
      tauto

/-- What stands below kept items may change freely, unless only insertions at the start stand
above them. -/
theorem Anchored.above_keep {before es : List Edit} (hq : q.kind = .equal)
    (h : Anchored (before ++ q :: es)) :
    (∀ fs, Anchored (before ++ fs)) ∨ ∀ e ∈ before, e.kind ≠ .equal ∧ e.old = 0 := by
  by_cases hkept : ∃ e ∈ before, e.kind = .equal
  · left
    intro fs
    rw [Anchored, firstRun_append_of_keep hkept] at h ⊢
    exact h
  · -- the first run is all of `before`, so the edits below it do not count
    have hrun : ∀ e ∈ before, e.kind ≠ .equal := fun e he hkind => hkept ⟨e, he, hkind⟩
    rw [Anchored, firstRun_append hrun, firstRun_keep hq, List.append_nil] at h
    rcases h with ⟨e, he, hkind⟩ | horigin
    · left
      intro fs
      rw [Anchored, firstRun_append hrun]
      exact .inl ⟨e, List.mem_append_left _ he, hkind⟩
    · right
      intro e he
      exact ⟨hrun e he, horigin e he⟩

end Moves

end DeviceBench.Diff
