/-
Time that passes from one point to a later one. Days are numbered in the order of the calendar, so a later
point is further on. But a leap second at the end of a day is not counted on the next day, while a fraction
beyond a second is still subtracted, and so the first second of the next day can come out before it.
-/
import DeviceBench.Proofs.Time.Order
import Mathlib.Tactic.Common

namespace DeviceBench

/-! ## Days -/

/-- How many days a year has. -/
def daysInYear (year : Int) : Nat := if isLeapYear year then 366 else 365

theorem isLeapYear_iff {year : Int} :
    isLeapYear year = true ↔ year % 4 = 0 ∧ (year % 100 ≠ 0 ∨ year % 400 = 0) := by
  simp [isLeapYear]

namespace Date

/-- The days before a year. -/
def yearStart (year : Int) : Int :=
  year * 365 + (year - 1) / 4 - (year - 1) / 100 + (year - 1) / 400

theorem number_eq (d : Date) :
    d.number = yearStart d.year + daysBefore d.year d.month + d.day := rfl

theorem yearStart_succ (year : Int) : yearStart (year + 1) = yearStart year + daysInYear year := by
  unfold yearStart daysInYear
  split
  · rename_i h
    have hdivides := isLeapYear_iff.1 h
    omega
  · rename_i h
    have hdivides := mt isLeapYear_iff.2 h
    omega

theorem yearStart_le {year year' : Int} (h : year ≤ year') : yearStart year ≤ yearStart year' := by
  unfold yearStart
  omega

theorem daysBefore_succ (year : Int) {month : Nat} (h : 1 ≤ month) :
    daysBefore year (month + 1) = daysBefore year month + daysInMonth year month := by
  obtain ⟨m, rfl⟩ := Nat.exists_eq_add_of_le' h
  simp only [daysBefore, Nat.add_sub_cancel, List.range_succ, List.foldl_append, List.foldl_cons,
    List.foldl_nil]

theorem daysBefore_le (year : Int) {month month' : Nat} (h : 1 ≤ month) (hle : month ≤ month') :
    daysBefore year month ≤ daysBefore year month' := by
  induction month', hle using Nat.le_induction with
  | base => exact le_rfl
  | succ month' hle ih =>
    rw [daysBefore_succ year (h.trans hle)]
    exact ih.trans (Nat.le_add_right _ _)

theorem daysBefore_end (year : Int) : daysBefore year 13 = daysInYear year := by
  unfold daysInYear
  cases h : isLeapYear year <;> simp [daysBefore, daysInMonth, List.range_succ, h]

/-- What dates are compared by. -/
def key (d : Date) : List Int := [d.year, d.month, d.day]

/-- The days of a year before the end of a month. -/
theorem number_le_month (d : Date) : d.number ≤ yearStart d.year + daysBefore d.year (d.month + 1) := by
  have hday := d.day_mem.2
  rw [number_eq, daysBefore_succ d.year d.month_mem.1]
  omega

theorem number_le_year (d : Date) : d.number ≤ yearStart (d.year + 1) := by
  have hmonth := daysBefore_le d.year (Nat.le_add_left 1 d.month) (Nat.add_le_add_right d.month_mem.2 1)
  have hnumber := d.number_le_month
  rw [daysBefore_end] at hmonth
  rw [yearStart_succ]
  omega

/-- Later days have greater numbers. -/
theorem number_lt {a b : Date} (h : a.key < b.key) : a.number < b.number := by
  have hday := b.day_mem.1
  simp only [key, List.cons_lt_cons_iff, List.not_lt_nil, and_false, or_false, Int.natCast_inj,
    Int.ofNat_lt] at h
  rcases h with hyear | ⟨hyear, hmonth | ⟨hmonth, hday'⟩⟩
  · have hend := a.number_le_year
    have hstart := yearStart_le hyear
    rw [number_eq b]
    omega
  · have hend := a.number_le_month
    have hstart := daysBefore_le a.year (Nat.le_add_left 1 a.month) hmonth
    rw [number_eq b, ← hyear]
    omega
  · rw [number_eq, number_eq, hyear, hmonth]
    omega

end Date

namespace Moment

/-- An earlier point has a lesser day, or on one day a lesser second, or in one second a lesser fraction. -/
theorem fields_lt {a b : Moment} (h : a < b) :
    a.date.number < b.date.number ∨
      a.date.number = b.date.number ∧ (a.second < b.second ∨ a.second = b.second ∧ a.nano < b.nano) := by
  rw [lt_iff] at h
  simp only [key, List.cons_lt_cons_iff, List.not_lt_nil, and_false, or_false, Int.natCast_inj,
    Int.ofNat_lt] at h
  by_cases hdate : a.date.key < b.date.key
  · exact .inl (Date.number_lt hdate)
  · simp only [Date.key, List.cons_lt_cons_iff, List.not_lt_nil, and_false, or_false, Int.natCast_inj,
      Int.ofNat_lt, not_or, not_and] at hdate
    obtain ⟨hyear, hrest⟩ := h.resolve_left hdate.1
    obtain ⟨hmonth, hrest⟩ := hrest.resolve_left (hdate.2 hyear).1
    obtain ⟨hday, hrest⟩ := hrest.resolve_left ((hdate.2 hyear).2 hmonth)
    refine .inr ⟨?_, hrest⟩
    rw [Date.number_eq, Date.number_eq, hyear, hmonth, hday]

/-- The later point is in the first second of a day and the earlier one in the leap second before it, and
subtracting their fractions takes back the one second that is counted between them. -/
structure Overtaken (first last : Moment) : Prop where
  date : last.date.number = first.date.number + 1
  second : last.second = 0
  leapSecond : first.second = 86399
  nano : 1000000000 + last.nano ≤ first.nano

theorem Overtaken.nanosSince_eq {first last : Moment} (h : first.Overtaken last) :
    last.nanosSince first = 1000000000 + last.nano - first.nano := by
  have hleap := last.leap
  have hsecond := h.second
  have hnano : ¬ 1000000000 ≤ last.nano := by omega
  simp only [nanosSince, if_neg hnano, h.date, h.second, h.leapSecond]
  omega

theorem nanosSince_pos {first last : Moment} (h : first < last) (hovertaken : ¬ first.Overtaken last) :
    0 < last.nanosSince first := by
  have hfirst := first.second_lt
  have hlast := last.second_lt
  have hleap := last.leap
  have hnano := first.nano_lt
  have hfields := fields_lt h
  simp only [nanosSince]
  split
  · -- a leap second that the earlier point is in has passed
    split <;> omega
  split
  · rename_i hbefore
    split
    · -- the later point is in a leap second, so it is far into its day
      omega
    · by_cases hnext : last.date.number = first.date.number + 1 ∧ last.second = 0 ∧ first.second = 86399
      · have hmore := mt (Overtaken.mk hnext.1 hnext.2.1 hnext.2.2) hovertaken
        omega
      · omega
  · omega

/-- Between an earlier and a later point time passes, unless the later one is overtaken. -/
theorem nanosSince_pos_iff {first last : Moment} (h : first < last) :
    0 < last.nanosSince first ↔ ¬ first.Overtaken last := by
  refine ⟨fun hpos hovertaken => ?_, nanosSince_pos h⟩
  have hmore := hovertaken.nano
  rw [hovertaken.nanosSince_eq] at hpos
  omega

theorem nanosSince_self (t : Moment) : t.nanosSince t = 0 := by
  simp [nanosSince]

theorem lt_nanosSince {first last : Moment} (h : first ≤ last) : -1000000000 < last.nanosSince first := by
  rcases h.eq_or_lt with rfl | hlt
  · rw [nanosSince_self]
    decide
  by_cases hovertaken : first.Overtaken last
  · have hnano := first.nano_lt
    rw [hovertaken.nanosSince_eq]
    omega
  · have hpos := nanosSince_pos hlt hovertaken
    omega

/-- Between whole microseconds there are whole microseconds. -/
theorem exists_micros {a b : Moment} (ha : a.nano % 1000 = 0) (hb : b.nano % 1000 = 0) :
    ∃ micros, a.nanosSince b = 1000 * micros := by
  refine ⟨a.nanosSince b / 1000, ?_⟩
  simp only [nanosSince]
  omega

end Moment

end DeviceBench
