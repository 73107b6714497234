/-
Points in civil time in their order: by day, then by second of the day, then by nanosecond, so that a leap
second comes between the second it follows and the next.
-/
import DeviceBench.Time.Moment
import Mathlib.Data.List.Lex
import Mathlib.Order.MinMax

namespace DeviceBench.Moment

theorem key_injective : Function.Injective key := by
  rintro ⟨⟨year, month, day, _, _, _⟩, second, nano, _, _, _⟩
    ⟨⟨year', month', day', _, _, _⟩, second', nano', _, _, _⟩ h
  simp only [key, List.cons.injEq, Int.natCast_inj, and_true] at h
  obtain ⟨rfl, rfl, rfl, rfl, rfl⟩ := h
  rfl

instance : LinearOrder Moment := LinearOrder.lift' key key_injective

theorem lt_iff {a b : Moment} : a < b ↔ a.key < b.key := Iff.rfl

theorem earlier_eq_min (a b : Moment) : a.earlier b = min a b := by
  unfold earlier
  split
  · rename_i h
    exact (min_eq_right (lt_iff.2 h).le).symm
  · rename_i h
    exact (min_eq_left (not_lt.1 (mt lt_iff.1 h))).symm

theorem later_eq_max (a b : Moment) : a.later b = max a b := by
  unfold later
  split
  · rename_i h
    exact (max_eq_right (lt_iff.2 h).le).symm
  · rename_i h
    exact (max_eq_left (not_lt.1 (mt lt_iff.1 h))).symm

end DeviceBench.Moment
