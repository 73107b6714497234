/-
Lists cut at separators. One element more at the end goes to the last piece or begins a new one, and where
every element is written as a list of its own, cutting what is written is writing what is cut.
-/
import Mathlib.Tactic.Common

namespace DeviceBench

/-- What is no separator goes to the end of the last part. -/
theorem splitOnP_concat {α : Type} {p : α → Bool} {x : α} (hx : p x = false) (xs : List α) :
    ∃ earlier last, xs.splitOnP p = earlier ++ [last] ∧
      (xs ++ [x]).splitOnP p = earlier ++ [last ++ [x]] := by
  induction xs with
  | nil => exact ⟨[], [], rfl, by simp [List.splitOnP_cons_eq_if_modifyHead, hx]⟩
  | cons y ys ih =>
    obtain ⟨earlier, last, hsplit, hsplit'⟩ := ih
    rw [List.cons_append, List.splitOnP_cons_eq_if_modifyHead, List.splitOnP_cons_eq_if_modifyHead,
      hsplit, hsplit']
    by_cases hy : p y
    · exact ⟨[] :: earlier, last, by simp [hy], by simp [hy]⟩
    · cases earlier with
      | nil => exact ⟨[], y :: last, by simp [hy], by simp [hy]⟩
      | cons first earlier => exact ⟨(y :: first) :: earlier, last, by simp [hy], by simp [hy]⟩

section Pieces

variable {α β : Type} [DecidableEq α] [DecidableEq β]

/-- What has no separator in it goes to the front of the first piece. -/
theorem splitOn_append {sep : α} {front : List α} (h : sep ∉ front) (rest : List α) :
    (front ++ rest).splitOn sep = (rest.splitOn sep).modifyHead (front ++ ·) := by
  induction front with
  | nil =>
    obtain ⟨piece, pieces, hrest⟩ := List.exists_cons_of_ne_nil (List.splitOn_ne_nil sep rest)
    simp [hrest]
  | cons x front ih =>
    rw [List.mem_cons, not_or] at h
    rw [List.cons_append, List.splitOn_cons_eq_if_modifyHead, if_neg (by simpa using Ne.symm h.1), ih h.2,
      List.modifyHead_modifyHead]
    rfl

/-- Pieces that each end with the separator are cut apart again, and nothing comes after the last. -/
theorem splitOn_ended {sep : α} {pieces : List (List α)} (h : ∀ piece ∈ pieces, sep ∉ piece) :
    (pieces.flatMap (· ++ [sep])).splitOn sep = pieces ++ [[]] := by
  induction pieces with
  | nil => simp
  | cons piece pieces ih =>
    obtain ⟨hpiece, hpieces⟩ := List.forall_mem_cons.1 h
    rw [List.flatMap_cons, List.append_assoc, List.singleton_append,
      List.splitOn_append_cons_self_of_not_mem hpiece, ih hpieces]
    rfl

/-- Cutting what is written of a list, where only the separator is written with the separator there. -/
theorem splitOn_flatMap {write : α → List β} {sep : α} {mark : β} (hsep : write sep = [mark])
    (hother : ∀ x, x ≠ sep → mark ∉ write x) (xs : List α) :
    (xs.flatMap write).splitOn mark = (xs.splitOn sep).map (·.flatMap write) := by
  induction xs with
  | nil => simp
  | cons x xs ih =>
    obtain ⟨piece, pieces, hxs⟩ := List.exists_cons_of_ne_nil (List.splitOn_ne_nil sep xs)
    rw [List.flatMap_cons, List.splitOn_cons_eq_if_modifyHead, hxs]
    by_cases hx : x = sep
    · rw [hx, hsep, List.singleton_append, List.splitOn_cons_eq_if_modifyHead, ih, hxs]
      simp
    · rw [splitOn_append (hother x hx), ih, hxs, if_neg (by simpa using hx)]
      simp

end Pieces

end DeviceBench
