/-
What a frequency table says of the rows that were counted. Counting one more row keeps the account of those
before it, and in which order two rows are counted makes no difference.
-/
import DeviceBench.Frequency.Table
import DeviceBench.Proofs.Time.Order
import Mathlib.Algebra.GroupWithZero.Nat
import Mathlib.Data.List.Induction
import Mathlib.Data.String.Basic
import Mathlib.Order.Bounds.Basic

namespace DeviceBench.FrequencyTable

/-! ## Counting a value -/

theorem tally_of_lt {value v : String} (h : value < v) (n : Nat) (counts : List (String × Nat)) :
    tally value ((v, n) :: counts) = (value, 1) :: (v, n) :: counts := by
  rw [tally, if_pos h]

theorem tally_self (value : String) (n : Nat) (counts : List (String × Nat)) :
    tally value ((value, n) :: counts) = (value, n + 1) :: counts := by
  rw [tally, if_neg (lt_irrefl value), if_pos rfl]

theorem tally_of_gt {value v : String} (h : v < value) (n : Nat) (counts : List (String × Nat)) :
    tally value ((v, n) :: counts) = (v, n) :: tally value counts := by
  rw [tally, if_neg h.not_gt, if_neg h.ne']

theorem tally_comm_of_lt {a b : String} (h : a < b) (counts : List (String × Nat)) :
    tally a (tally b counts) = tally b (tally a counts) := by
  induction counts with
  | nil =>
    show tally a [(b, 1)] = tally b [(a, 1)]
    rw [tally_of_lt h, tally_of_gt h]
    rfl
  | cons c counts ih =>
    obtain ⟨v, n⟩ := c
    -- by where the greater value belongs, and where it comes later, the smaller one
    rcases lt_trichotomy b v with hb | rfl | hb
    · rw [tally_of_lt hb, tally_of_lt h, tally_of_lt (h.trans hb), tally_of_gt h, tally_of_lt hb]
    · rw [tally_self, tally_of_lt h, tally_of_lt h, tally_of_gt h, tally_self]
    · rw [tally_of_gt hb]
      rcases lt_trichotomy a v with ha | rfl | ha
      · rw [tally_of_lt ha, tally_of_lt ha, tally_of_gt h, tally_of_gt hb]
      · rw [tally_self, tally_self, tally_of_gt h]
      · rw [tally_of_gt ha, tally_of_gt ha, tally_of_gt hb, ih]

theorem tally_comm (a b : String) (counts : List (String × Nat)) :
    tally a (tally b counts) = tally b (tally a counts) := by
  rcases lt_trichotomy a b with h | rfl | h
  · exact tally_comm_of_lt h counts
  · rfl
  · exact (tally_comm_of_lt h counts).symm

theorem mem_keys_tally {value w : String} {counts : List (String × Nat)} :
    w ∈ (tally value counts).map (·.1) ↔ w = value ∨ w ∈ counts.map (·.1) := by
  induction counts with
  | nil => simp [tally]
  | cons c counts ih =>
    obtain ⟨v, n⟩ := c
    rcases lt_trichotomy value v with h | rfl | h
    · rw [tally_of_lt h]
      simp
    · rw [tally_self]
      simp
    · rw [tally_of_gt h, List.map_cons, List.mem_cons, ih, List.map_cons, List.mem_cons]
      exact or_left_comm

theorem ascending_tally {counts : List (String × Nat)} (h : (counts.map (·.1)).Pairwise (· < ·))
    (value : String) : ((tally value counts).map (·.1)).Pairwise (· < ·) := by
  induction counts with
  | nil => simp [tally]
  | cons c counts ih =>
    obtain ⟨v, n⟩ := c
    rw [List.map_cons, List.pairwise_cons] at h
    obtain ⟨hfirst, hrest⟩ := h
    rcases lt_trichotomy value v with hlt | rfl | hgt
    · rw [tally_of_lt hlt]
      refine List.pairwise_cons.2 ⟨?_, List.pairwise_cons.2 ⟨hfirst, hrest⟩⟩
      intro w hw
      rcases List.mem_cons.1 hw with rfl | hw
      · exact hlt
      · exact hlt.trans (hfirst w hw)
    · rw [tally_self]
      exact List.pairwise_cons.2 ⟨hfirst, hrest⟩
    · rw [tally_of_gt hgt]
      refine List.pairwise_cons.2 ⟨?_, ih hrest⟩
      intro w hw
      rcases mem_keys_tally.1 hw with rfl | hw
      · exact hgt
      · exact hfirst w hw

theorem getD_lookup_cons (v w : String) (n : Nat) (counts : List (String × Nat)) :
    (((v, n) :: counts).lookup w).getD 0 = if v = w then n else (counts.lookup w).getD 0 := by
  rw [List.lookup_cons]
  by_cases h : v = w
  · simp [h]
  · have hne : (w == v) = false := beq_false_of_ne (Ne.symm h)
    rw [hne, if_neg h]

/-- How often a value was counted; the others keep their counts. -/
theorem lookup_tally {counts : List (String × Nat)} (h : (counts.map (·.1)).Pairwise (· < ·))
    (value w : String) :
    ((tally value counts).lookup w).getD 0 =
      (counts.lookup w).getD 0 + if value = w then 1 else 0 := by
  induction counts with
  | nil =>
    rw [tally, getD_lookup_cons]
    simp
  | cons c counts ih =>
    obtain ⟨v, n⟩ := c
    rw [List.map_cons, List.pairwise_cons] at h
    obtain ⟨hfirst, hrest⟩ := h
    rcases lt_trichotomy value v with hlt | rfl | hgt
    · rw [tally_of_lt hlt, getD_lookup_cons]
      by_cases hw : value = w
      · -- it stands before all others, so it was not there
        have hnone : ((v, n) :: counts).lookup w = none := by
          rw [List.lookup_eq_none_iff]
          rintro ⟨k, m⟩ hk
          have hkey : value < k := by
            rcases List.mem_cons.1 hk with hk | hk
            · cases hk
              exact hlt
            · exact hlt.trans (hfirst k (List.mem_map_of_mem hk))
          simpa [← hw] using hkey.ne
        rw [hnone, if_pos hw, if_pos hw]
        rfl
      · rw [if_neg hw, if_neg hw, Nat.add_zero]
    · rw [tally_self, getD_lookup_cons, getD_lookup_cons]
      by_cases hw : value = w
      · rw [if_pos hw, if_pos hw, if_pos hw]
      · rw [if_neg hw, if_neg hw, if_neg hw, Nat.add_zero]
    · rw [tally_of_gt hgt, getD_lookup_cons, getD_lookup_cons, ih hrest]
      by_cases hw : v = w
      · have hne : ¬ value = w := hw ▸ hgt.ne'
        rw [if_pos hw, if_pos hw, if_neg hne, Nat.add_zero]
      · rw [if_neg hw, if_neg hw]

theorem sum_tally (value : String) (counts : List (String × Nat)) :
    ((tally value counts).map (·.2)).sum = (counts.map (·.2)).sum + 1 := by
  induction counts with
  | nil => rfl
  | cons c counts ih =>
    obtain ⟨v, n⟩ := c
    rcases lt_trichotomy value v with h | rfl | h
    · rw [tally_of_lt h]
      simp only [List.map_cons, List.sum_cons]
      omega
    · rw [tally_self]
      simp only [List.map_cons, List.sum_cons]
      omega
    · rw [tally_of_gt h]
      simp only [List.map_cons, List.sum_cons, ih]
      omega

/-! ## Counting rows -/

/-- The account of a table: what it says of the times and values of the rows counted. -/
structure Tallies (rows : List (Moment × String)) (table : FrequencyTable) : Prop where
  total : table.total = rows.length
  count : ∀ v, table.count v = rows.countP (·.2 = v)
  sum : (table.counts.map (·.2)).sum = table.total
  ascending : (table.counts.map (·.1)).Pairwise (· < ·)
  range_eq_none : table.range = none ↔ rows = []
  first : ∀ range ∈ table.range, IsLeast {t | t ∈ rows.map (·.1)} range.1
  last : ∀ range ∈ table.range, IsGreatest {t | t ∈ rows.map (·.1)} range.2

/-- The table of rows. -/
def ofRows (rows : List (Moment × String)) : FrequencyTable :=
  rows.foldl (fun table row => table.add row.2 row.1) empty

theorem tallies_empty : Tallies [] empty where
  total := rfl
  count v := by simp [FrequencyTable.count, empty]
  sum := by simp [empty]
  ascending := by simp [empty]
  range_eq_none := by simp [empty]
  first := by simp [empty]
  last := by simp [empty]

theorem mem_times_concat {rows : List (Moment × String)} {t : Moment} {v : String} :
    {s | s ∈ (rows ++ [(t, v)]).map (·.1)} = insert t {s | s ∈ rows.map (·.1)} := by
  ext s
  simp [or_comm]

/-- One more row. -/
theorem Tallies.add {rows : List (Moment × String)} {table : FrequencyTable} (h : Tallies rows table)
    (t : Moment) (v : String) : Tallies (rows ++ [(t, v)]) (table.add v t) where
  total := by simp [FrequencyTable.add, h.total]
  count w := by
    have hcount := h.count w
    unfold FrequencyTable.count at hcount ⊢
    simp only [FrequencyTable.add]
    rw [lookup_tally h.ascending, hcount, List.countP_append, List.countP_singleton]
    simp
  sum := by rw [FrequencyTable.add, sum_tally, h.sum]
  ascending := ascending_tally h.ascending v
  range_eq_none := by simp [FrequencyTable.add]
  first := by
    rw [mem_times_concat]
    rintro range hrange
    obtain rfl : widen t table.range = range := by simpa [FrequencyTable.add] using hrange
    cases hbefore : table.range with
    | none =>
      obtain rfl := h.range_eq_none.1 hbefore
      simp [widen]
    | some before =>
      rw [widen, Moment.earlier_eq_min, min_comm]
      exact (h.first before hbefore).insert t
  last := by
    rw [mem_times_concat]
    rintro range hrange
    obtain rfl : widen t table.range = range := by simpa [FrequencyTable.add] using hrange
    cases hbefore : table.range with
    | none =>
      obtain rfl := h.range_eq_none.1 hbefore
      simp [widen]
    | some before =>
      rw [widen, Moment.later_eq_max, max_comm]
      exact (h.last before hbefore).insert t

/-- A table of rows accounts for them. -/
theorem tallies_ofRows (rows : List (Moment × String)) : Tallies rows (ofRows rows) := by
  induction rows using List.reverseRecOn with
  | nil => exact tallies_empty
  | append_singleton rows row ih =>
    have hadd : ofRows (rows ++ [row]) = (ofRows rows).add row.2 row.1 := by
      rw [ofRows, List.foldl_append]
      rfl
    rw [hadd]
    exact ih.add row.1 row.2

theorem widen_comm (s t : Moment) (range : Option (Moment × Moment)) :
    widen s (some (widen t range)) = widen t (some (widen s range)) := by
  cases range with
  | none => simp only [widen, Moment.earlier_eq_min, Moment.later_eq_max, min_comm, max_comm]
  | some range =>
    simp only [widen, Moment.earlier_eq_min, Moment.later_eq_max, min_right_comm, max_right_comm]

theorem add_comm (table : FrequencyTable) (row row' : Moment × String) :
    (table.add row.2 row.1).add row'.2 row'.1 = (table.add row'.2 row'.1).add row.2 row.1 := by
  simp only [add, tally_comm row'.2, widen_comm row'.1]

/-- The order of the rows does not matter. -/
theorem ofRows_perm {rows rows' : List (Moment × String)} (h : rows.Perm rows') :
    ofRows rows = ofRows rows' :=
  h.foldl_eq' (fun row _ row' _ table => add_comm table row row') empty

end DeviceBench.FrequencyTable
