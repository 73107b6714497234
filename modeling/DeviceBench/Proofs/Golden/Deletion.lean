/-
Deleting lines by number. A number counts in what the numbers before it have left, so the same number means
another line of the text each time. What is deleted is a set of positions all the same: once some
positions are gone, the number `i` means the `i`-th of the others in ascending order, and when that is
gone too, the positions outside a greater set are left. So everything follows by one number more at the
end.
-/
import DeviceBench.Golden
import Mathlib.Data.List.Induction
import Mathlib.Data.List.InsertIdx
import Mathlib.Data.List.Nodup

namespace DeviceBench.Golden

/-! ## Positions -/

/-- The positions below `n` that are not deleted, in ascending order. -/
def positionsOutside (n : Nat) (deleted : List Nat) : List Nat :=
  (List.range n).filter (· ∉ deleted)

/-- The lines at these positions. -/
def linesAt (lines : List String) (positions : List Nat) : List String :=
  positions.filterMap (lines[·]?)

/-- Each number names one of the lines that are left of `n` when as many are deleted as there are numbers
before it. -/
def InRange (n : Nat) (numbers : List Nat) : Prop :=
  ∀ k (hk : k < numbers.length), numbers[k] < n - k

/-- The positions that numbers delete of `n`, in the order of the numbers: each is the one that its
number counts to among the positions that are not deleted yet. -/
structure Deletes (n : Nat) (numbers positions : List Nat) : Prop where
  length_eq : positions.length = numbers.length
  counts : ∀ k (hk : k < numbers.length),
    (positionsOutside n (positions.take k))[numbers[k]]? = positions[k]?

instance (n : Nat) (numbers : List Nat) : Decidable (InRange n numbers) :=
  inferInstanceAs (Decidable (∀ k (hk : k < numbers.length), numbers[k] < n - k))

instance (n : Nat) (numbers positions : List Nat) : Decidable (Deletes n numbers positions) :=
  decidable_of_iff
    (positions.length = numbers.length ∧ ∀ k (hk : k < numbers.length),
      (positionsOutside n (positions.take k))[numbers[k]]? = positions[k]?)
    ⟨fun h => ⟨h.1, h.2⟩, fun h => ⟨h.length_eq, h.counts⟩⟩

theorem mem_positionsOutside {n p : Nat} {deleted : List Nat} :
    p ∈ positionsOutside n deleted ↔ p < n ∧ p ∉ deleted := by
  simp [positionsOutside]

theorem positionsOutside_nil (n : Nat) : positionsOutside n [] = List.range n := by
  simp [positionsOutside]

/-- Without the position that a number counts to, the positions outside one more are left. -/
theorem eraseIdx_positionsOutside {n i p : Nat} {deleted : List Nat}
    (h : (positionsOutside n deleted)[i]? = some p) :
    (positionsOutside n deleted).eraseIdx i = positionsOutside n (deleted ++ [p]) := by
  have hnodup : (positionsOutside n deleted).Nodup := List.nodup_range.filter _
  obtain ⟨hi, hp⟩ := List.getElem?_eq_some_iff.1 h
  rw [← hnodup.erase_getElem i hi, hp, hnodup.erase_eq_filter, positionsOutside, positionsOutside,
    List.filter_filter]
  refine List.filter_congr fun q _ => ?_
  simp only [List.mem_append, List.mem_singleton, Bool.and_eq_decide, bne_iff_ne, decide_eq_true_eq,
    decide_eq_decide]
  tauto

/-- Below everything that is deleted, a number counts to its own position. -/
theorem getElem?_positionsOutside {n i : Nat} {deleted : List Nat} (hi : i < n)
    (h : ∀ p ∈ deleted, i < p) : (positionsOutside n deleted)[i]? = some i := by
  have hsplit : List.range n = List.range (i + 1) ++ (List.range (n - (i + 1))).map (i + 1 + ·) := by
    rw [← List.range_add]
    congr 1
    omega
  have hkept : (List.range (i + 1)).filter (· ∉ deleted) = List.range (i + 1) := by
    refine List.filter_eq_self.2 fun q hq => decide_eq_true fun hmem => ?_
    have hle : q < i + 1 := List.mem_range.1 hq
    have hlt : i < q := h q hmem
    omega
  rw [positionsOutside, hsplit, List.filter_append, hkept, List.getElem?_append_left (by simp)]
  simp

/-! ## One number more -/

theorem inRange_concat_iff {n i : Nat} {numbers : List Nat} :
    InRange n (numbers ++ [i]) ↔ InRange n numbers ∧ i < n - numbers.length := by
  constructor
  · intro h
    refine ⟨fun k hk => ?_, ?_⟩
    · have hbefore := h k (by simp; omega)
      rwa [List.getElem_append_left hk] at hbefore
    · simpa using h numbers.length (by simp)
  · rintro ⟨h, hi⟩ k hk
    by_cases hlt : k < numbers.length
    · rw [List.getElem_append_left hlt]
      exact h k hlt
    · obtain rfl : k = numbers.length := by
        rw [List.length_append, List.length_singleton] at hk
        omega
      simpa using hi

theorem deletes_nil_iff {n : Nat} {positions : List Nat} : Deletes n [] positions ↔ positions = [] := by
  constructor
  · intro h
    exact List.length_eq_zero_iff.1 h.length_eq
  · rintro rfl
    exact ⟨rfl, by simp⟩

/-- One number more deletes one position more, the one that it counts to. -/
theorem deletes_concat_iff {n i : Nat} {numbers positions : List Nat} :
    Deletes n (numbers ++ [i]) positions ↔ ∃ before p, positions = before ++ [p] ∧
      Deletes n numbers before ∧ (positionsOutside n before)[i]? = some p := by
  constructor
  · intro h
    have hlen : positions.length = numbers.length + 1 := by simpa using h.length_eq
    rcases List.eq_nil_or_concat' positions with rfl | ⟨before, p, rfl⟩
    · simp at hlen
    have hbefore : before.length = numbers.length := by simpa using hlen
    refine ⟨before, p, rfl, ⟨hbefore, fun k hk => ?_⟩, ?_⟩
    · have hcounts := h.counts k (by simp; omega)
      rwa [List.take_append_of_le_length (by omega), List.getElem_append_left hk,
        List.getElem?_append_left (by omega)] at hcounts
    · have hcounts := h.counts before.length (by simp; omega)
      rw [List.take_left' rfl] at hcounts
      simpa [hbefore] using hcounts
  · rintro ⟨before, p, rfl, h, hp⟩
    have hbefore := h.length_eq
    refine ⟨by simp [hbefore], fun k hk => ?_⟩
    by_cases hlt : k < numbers.length
    · rw [List.take_append_of_le_length (by omega), List.getElem_append_left hlt,
        List.getElem?_append_left (by omega)]
      exact h.counts k hlt
    · obtain rfl : k = before.length := by
        rw [List.length_append, List.length_singleton] at hk
        omega
      rw [List.take_left' rfl]
      simpa [hbefore] using hp

/-- Numbers delete no other positions than these. -/
theorem Deletes.unique {n : Nat} {numbers positions others : List Nat}
    (h : Deletes n numbers positions) (hothers : Deletes n numbers others) : others = positions := by
  induction numbers using List.reverseRecOn generalizing positions others with
  | nil => rw [deletes_nil_iff.1 h, deletes_nil_iff.1 hothers]
  | append_singleton numbers i ih =>
    obtain ⟨before, p, rfl, hbefore, hp⟩ := deletes_concat_iff.1 h
    obtain ⟨before', p', rfl, hbefore', hp'⟩ := deletes_concat_iff.1 hothers
    obtain rfl := ih hbefore hbefore'
    rw [hp] at hp'
    rw [Option.some.inj hp']

/-- Numbers in descending order delete themselves. -/
theorem Deletes.eq_of_descending {n : Nat} {numbers positions : List Nat}
    (h : Deletes n numbers positions) (hrange : InRange n numbers) (hdesc : numbers.Pairwise (· > ·)) :
    positions = numbers := by
  induction numbers using List.reverseRecOn generalizing positions with
  | nil => exact deletes_nil_iff.1 h
  | append_singleton numbers i ih =>
    obtain ⟨before, p, rfl, hbefore, hp⟩ := deletes_concat_iff.1 h
    obtain ⟨hfront, hi⟩ := inRange_concat_iff.1 hrange
    obtain ⟨hpairs, -, hlast⟩ := List.pairwise_append.1 hdesc
    obtain rfl := ih hbefore hfront hpairs
    have hbelow : ∀ q ∈ before, i < q := fun q hq => hlast q hq i List.mem_cons_self
    rw [getElem?_positionsOutside (by omega) hbelow] at hp
    rw [Option.some.inj hp]

/-! ## Deleting -/

theorem deleteLines_append (lines : List String) (numbers more : List Nat) :
    deleteLines lines (numbers ++ more) = deleteLines lines numbers >>= (deleteLines · more) := by
  induction numbers generalizing lines with
  | nil => rfl
  | cons i numbers ih =>
    rw [List.cons_append, deleteLines, deleteLines]
    split
    · exact ih _
    · rfl

theorem map_range_getD (lines : List String) :
    (List.range lines.length).map (fun p => lines.getD p "") = lines := by
  refine List.ext_getElem (by simp) fun p h h' => ?_
  rw [List.getElem_map, List.getElem_range, List.getD_eq_getElem?_getD, List.getElem?_eq_getElem h']
  rfl

theorem linesAt_eq_map {lines : List String} {positions : List Nat}
    (h : ∀ p ∈ positions, p < lines.length) :
    linesAt lines positions = positions.map (fun p => lines.getD p "") := by
  rw [linesAt, ← List.filterMap_eq_map]
  refine List.filterMap_congr fun p hp => ?_
  simp [List.getElem?_eq_getElem (h p hp)]

theorem linesAt_range (lines : List String) : linesAt lines (List.range lines.length) = lines := by
  rw [linesAt_eq_map fun p hp => List.mem_range.1 hp, map_range_getD]

section Outside

variable (lines : List String) (deleted : List Nat)

theorem linesAt_outside_eq_map : linesAt lines (positionsOutside lines.length deleted) =
    (positionsOutside lines.length deleted).map (fun p => lines.getD p "") :=
  linesAt_eq_map fun _ hp => (mem_positionsOutside.1 hp).1

theorem length_linesAt_outside : (linesAt lines (positionsOutside lines.length deleted)).length =
    (positionsOutside lines.length deleted).length := by
  rw [linesAt_outside_eq_map, List.length_map]

/-- One number deletes the line at the position that it counts to. -/
theorem deleteLines_singleton {i p : Nat} (h : (positionsOutside lines.length deleted)[i]? = some p) :
    deleteLines (linesAt lines (positionsOutside lines.length deleted)) [i] =
      .ok (linesAt lines (positionsOutside lines.length (deleted ++ [p]))) := by
  obtain ⟨hi, -⟩ := List.getElem?_eq_some_iff.1 h
  rw [deleteLines, length_linesAt_outside, if_pos hi, deleteLines, linesAt_outside_eq_map,
    List.eraseIdx_map, eraseIdx_positionsOutside h, linesAt_outside_eq_map]

end Outside

/-- Numbers that are in range delete the positions that they count to, and as many lines as they are. -/
theorem exists_deletes {lines : List String} {numbers : List Nat} (h : InRange lines.length numbers) :
    ∃ positions, Deletes lines.length numbers positions ∧
      deleteLines lines numbers = .ok (linesAt lines (positionsOutside lines.length positions)) ∧
      (positionsOutside lines.length positions).length + numbers.length = lines.length := by
  induction numbers using List.reverseRecOn with
  | nil =>
    refine ⟨[], deletes_nil_iff.2 rfl, ?_, by simp [positionsOutside_nil]⟩
    rw [positionsOutside_nil, linesAt_range, deleteLines]
  | append_singleton numbers i ih =>
    obtain ⟨hbefore, hi⟩ := inRange_concat_iff.1 h
    obtain ⟨before, hdeletes, hok, hlen⟩ := ih hbefore
    have hlt : i < (positionsOutside lines.length before).length := by omega
    have hp := List.getElem?_eq_getElem hlt
    refine ⟨before ++ [(positionsOutside lines.length before)[i]],
      deletes_concat_iff.2 ⟨before, _, rfl, hdeletes, hp⟩, ?_, ?_⟩
    · rw [deleteLines_append, hok]
      exact deleteLines_singleton lines before hp
    · have herase := List.length_eraseIdx_of_lt hlt
      rw [eraseIdx_positionsOutside hp] at herase
      rw [List.length_append, List.length_singleton]
      omega

/-- Numbers are in range up to the first that is not. -/
theorem exists_first_beyond {n : Nat} {numbers : List Nat} (h : ¬ InRange n numbers) :
    ∃ before i after, numbers = before ++ i :: after ∧ InRange n before ∧ n - before.length ≤ i := by
  induction numbers using List.reverseRecOn with
  | nil => exact absurd (fun k hk => absurd hk (Nat.not_lt_zero k)) h
  | append_singleton numbers i ih =>
    by_cases hnumbers : InRange n numbers
    · have hi : n - numbers.length ≤ i := by
        rw [inRange_concat_iff, not_and] at h
        exact Nat.not_lt.1 (h hnumbers)
      exact ⟨numbers, i, [], rfl, hnumbers, hi⟩
    · obtain ⟨before, j, after, rfl, hbefore, hj⟩ := ih hnumbers
      exact ⟨before, j, after ++ [i], by simp, hbefore, hj⟩

/-- The first number beyond the lines that are left is reported, with their count. -/
theorem deleteLines_beyond {lines : List String} {before after : List Nat} {i : Nat}
    (hbefore : InRange lines.length before) (hi : lines.length - before.length ≤ i) :
    deleteLines lines (before ++ i :: after) = .error (.lineIndex i (lines.length - before.length)) := by
  obtain ⟨positions, -, hok, hlen⟩ := exists_deletes hbefore
  have hleft : (linesAt lines (positionsOutside lines.length positions)).length =
      lines.length - before.length := by
    rw [length_linesAt_outside]
    omega
  rw [deleteLines_append, hok]
  show deleteLines (linesAt lines (positionsOutside lines.length positions)) (i :: after) = _
  rw [deleteLines, if_neg (by omega), hleft]

/-- Deleting by number succeeds exactly if every number is below the count of lines that are left for it.
Then it leaves, in order, the lines outside the positions that the numbers delete, as many fewer as there
are numbers, and numbers in descending order delete themselves. Otherwise it reports the first number that is
not below that count, and the count. -/
theorem deleteLines_account (lines : List String) (numbers : List Nat) :
    ((∃ rest, deleteLines lines numbers = .ok rest) ↔ InRange lines.length numbers) ∧
      (InRange lines.length numbers →
        ∃ positions, (∀ others, Deletes lines.length numbers others ↔ others = positions) ∧
          deleteLines lines numbers = .ok (linesAt lines (positionsOutside lines.length positions)) ∧
          (linesAt lines (positionsOutside lines.length positions)).length + numbers.length =
            lines.length ∧
          (numbers.Pairwise (· > ·) → positions = numbers)) ∧
      (¬ InRange lines.length numbers →
        ∃ before i after, numbers = before ++ i :: after ∧ InRange lines.length before ∧
          lines.length - before.length ≤ i ∧
          deleteLines lines numbers = .error (.lineIndex i (lines.length - before.length))) := by
  have hbeyond (h : ¬ InRange lines.length numbers) :
      ∃ before i after, numbers = before ++ i :: after ∧ InRange lines.length before ∧
        lines.length - before.length ≤ i ∧
        deleteLines lines numbers = .error (.lineIndex i (lines.length - before.length)) := by
    obtain ⟨before, i, after, rfl, hbefore, hi⟩ := exists_first_beyond h
    exact ⟨before, i, after, rfl, hbefore, hi, deleteLines_beyond hbefore hi⟩
  refine ⟨⟨?_, ?_⟩, ?_, hbeyond⟩
  · rintro ⟨rest, hrest⟩
    by_contra h
    obtain ⟨before, i, after, -, -, -, herror⟩ := hbeyond h
    rw [hrest] at herror
    cases herror
  · intro h
    obtain ⟨positions, -, hok, -⟩ := exists_deletes h
    exact ⟨_, hok⟩
  · intro h
    obtain ⟨positions, hdeletes, hok, hlen⟩ := exists_deletes h
    refine ⟨positions, fun others => ⟨hdeletes.unique, ?_⟩, hok, ?_, hdeletes.eq_of_descending h⟩
    · rintro rfl
      exact hdeletes
    · rw [length_linesAt_outside, hlen]

/-- A number that is used twice deletes two lines; in descending order numbers are positions; the
second of three numbers can be beyond the lines that the first has left. -/
theorem deleteLines_account_repeated :
    InRange 4 [0, 0, 1] ∧ Deletes 4 [0, 0, 1] [0, 1, 3] ∧
      deleteLines ["a", "b", "c", "d"] [0, 0, 1] = .ok ["c"] ∧
      InRange 4 [3, 1] ∧ [3, 1].Pairwise (· > ·) ∧
      deleteLines ["a", "b", "c", "d"] [3, 1] = .ok ["a", "c"] ∧
      ¬ InRange 4 [2, 3, 0] ∧
      ∃ before i after, [2, 3, 0] = before ++ i :: after ∧ InRange 4 before ∧ 4 - before.length ≤ i ∧
        deleteLines ["a", "b", "c", "d"] [2, 3, 0] = .error (.lineIndex i (4 - before.length)) := by
  have hrepeated : InRange 4 [0, 0, 1] := by decide
  have hdeletes : Deletes 4 [0, 0, 1] [0, 1, 3] := by decide
  obtain ⟨positions, hunique, hok, -, -⟩ :=
    (deleteLines_account ["a", "b", "c", "d"] [0, 0, 1]).2.1 hrepeated
  obtain rfl := (hunique _).1 hdeletes
  have hrange : InRange 4 [3, 1] := by decide
  have hdesc : [3, 1].Pairwise (· > ·) := by decide
  obtain ⟨positions, -, hok', -, hself⟩ := (deleteLines_account ["a", "b", "c", "d"] [3, 1]).2.1 hrange
  obtain rfl := hself hdesc
  have hbeyond : ¬ InRange 4 [2, 3, 0] := by decide
  exact ⟨hrepeated, hdeletes, hok, hrange, hdesc, hok', hbeyond,
    (deleteLines_account ["a", "b", "c", "d"] [2, 3, 0]).2.2 hbeyond⟩

end DeviceBench.Golden
