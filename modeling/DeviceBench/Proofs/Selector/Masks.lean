/-
What a mask selects. A text names a selector exactly if it writes a number of 64 bits in hexadecimal and
the width is no larger than that; the selector then lists the bits of the number below the width, ascending,
counts them and shows their sum, and what it shows selects the same bits again. All this is computed in
words of 64 bits, where nothing runs over: no word is shifted by all its bits, also at the full width.
-/
import DeviceBench.Proofs.Text.Hexadecimal
import DeviceBench.Selector
import Mathlib.Algebra.BigOperators.Group.List.Basic
import Mathlib.Data.Nat.Bitwise

namespace DeviceBench.Selector

open Text

/-! ## Lists of bits -/

/-- The bits of a number below a width, ascending. -/
def bitsBelow (width n : Nat) : List Nat := (List.range width).filter (n.testBit ·)

theorem mem_bitsBelow {width n i : Nat} : i ∈ bitsBelow width n ↔ i < width ∧ n.testBit i = true := by
  rw [bitsBelow, List.mem_filter, List.mem_range]

theorem pairwise_bitsBelow (width n : Nat) : (bitsBelow width n).Pairwise (· < ·) :=
  List.pairwise_lt_range.filter _

/-- The bits below a width make up what is left of a number there. -/
theorem sum_bitsBelow (width n : Nat) : ((bitsBelow width n).map (2 ^ ·)).sum = n % 2 ^ width := by
  induction width with
  | zero => simp [bitsBelow, Nat.mod_one]
  | succ width ih =>
    have hlast : (([width].filter (n.testBit ·)).map (2 ^ ·)).sum =
        2 ^ width * (n / 2 ^ width % 2) := by
      rw [← Nat.toNat_testBit]
      cases h : n.testBit width <;> simp [h]
    rw [Nat.mod_pow_succ, ← ih, ← hlast, bitsBelow, List.range_succ, List.filter_append,
      List.map_append, List.sum_append]
    rfl

/-- Bits at or above a width are not there once the number is cut to it. -/
theorem bitsBelow_mod {width wide : Nat} (h : width ≤ wide) (n : Nat) :
    bitsBelow wide (n % 2 ^ width) = bitsBelow width n := by
  obtain ⟨more, rfl⟩ := Nat.exists_eq_add_of_le h
  have hlow : (List.range width).filter ((n % 2 ^ width).testBit ·) =
      (List.range width).filter (n.testBit ·) := by
    refine List.filter_congr fun i hi => ?_
    rw [Nat.testBit_mod_two_pow, decide_eq_true (List.mem_range.1 hi), Bool.true_and]
  have hhigh : ((List.range more).map (width + ·)).filter ((n % 2 ^ width).testBit ·) = [] := by
    rw [List.filter_eq_nil_iff]
    intro i hi
    obtain ⟨k, -, rfl⟩ := List.mem_map.1 hi
    simp [Nat.testBit_mod_two_pow]
  rw [bitsBelow, List.range_add, List.filter_append, hlow, hhigh, List.append_nil, bitsBelow]

/-! ## Words -/

theorem toNat_bit {i : Nat} (h : i < 64) : (bit i).toNat = 2 ^ i := by
  have hindex : (UInt64.ofNat i).toNat = i :=
    UInt64.toNat_ofNat_of_lt' (Nat.lt_of_lt_of_le h (by decide))
  have hpow : 2 ^ i < 2 ^ 64 := Nat.pow_lt_pow_right (by decide) h
  rw [bit, UInt64.toNat_shiftLeft, hindex, Nat.mod_eq_of_lt h, UInt64.toNat_one, Nat.shiftLeft_eq,
    Nat.one_mul, Nat.mod_eq_of_lt hpow]

theorem and_bit_bne_zero {i : Nat} (h : i < 64) (word : UInt64) :
    (word &&& bit i != 0) = word.toNat.testBit i := by
  rw [Bool.eq_iff_iff, bne_iff_ne, ne_eq, ← UInt64.toNat_inj, UInt64.toNat_and, toNat_bit h,
    Nat.and_two_pow]
  cases word.toNat.testBit i <;> simp

/-- The mask loses its bits at or above the width, whatever the width. -/
theorem toNat_masked (s : Selector) : s.masked.toNat = s.mask.toNat % 2 ^ s.width := by
  unfold masked
  split
  · rename_i hfull
    have hwidth : s.width = 64 := Nat.le_antisymm s.width_le hfull
    rw [hwidth, Nat.mod_eq_of_lt s.mask.toNat_lt]
  · rename_i hpart
    have hbit := toNat_bit (Nat.not_le.1 hpart)
    have hone : (1 : UInt64) ≤ bit s.width := by
      rw [UInt64.le_iff_toNat_le, hbit]
      exact Nat.one_le_two_pow
    rw [UInt64.toNat_and, UInt64.toNat_sub_of_le _ _ hone, hbit, UInt64.toNat_one,
      Nat.and_two_pow_sub_one_eq_mod]

theorem indices_eq (s : Selector) : s.indices = bitsBelow s.width s.mask.toNat := by
  rw [← bitsBelow_mod (Nat.le_refl _), ← toNat_masked, bitsBelow]
  refine List.filter_congr fun i hi => ?_
  exact and_bit_bne_zero (Nat.lt_of_lt_of_le (List.mem_range.1 hi) s.width_le) s.masked

theorem count_eq (s : Selector) : s.count = s.indices.length := by
  rw [count, List.countP_eq_length_filter, indices_eq, ← bitsBelow_mod s.width_le, ← toNat_masked]
  rfl

/-! ## Texts -/

/-- What a mask is without its mark: one `0x` in front, or else one `0X`, is left out. -/
inductive Unmarked : List Char → List Char → Prop
  | lower (rest : List Char) : Unmarked ('0' :: 'x' :: rest) rest
  | upper (rest : List Char) : Unmarked ('0' :: 'X' :: rest) rest
  | bare {mask : List Char} : ¬['0', 'x'] <+: mask → ¬['0', 'X'] <+: mask → Unmarked mask mask

theorem unmarked_iff {mask rest : List Char} : Unmarked mask rest ↔ digits mask = rest := by
  constructor
  · rintro (⟨⟩ | ⟨⟩ | ⟨hlower, hupper⟩)
    · rfl
    · rfl
    · unfold digits
      split
      · exact absurd (List.prefix_append ['0', 'x'] _) hlower
      · exact absurd (List.prefix_append ['0', 'X'] _) hupper
      · rfl
  · rintro rfl
    unfold digits
    split
    · exact .lower _
    · exact .upper _
    · rename_i hlower hupper
      refine .bare ?_ ?_
      · rintro ⟨cs, rfl⟩
        exact hlower cs rfl
      · rintro ⟨cs, rfl⟩
        exact hupper cs rfl

/-- A text writes a number as a mask: behind the mark, if there is one, stand a plus sign or none and hexadecimal
digits with that value. -/
def Writes (mask : String) (n : Nat) : Prop :=
  ∃ rest, Unmarked mask.toList rest ∧
    (Hexadecimal rest n ∨ ∃ digits, rest = '+' :: digits ∧ Hexadecimal digits n)

theorem readUnsigned_digits_iff {limit : Nat} {mask : String} {n : Nat} :
    readUnsigned 16 limit (digits mask.toList) = .ok n ↔ n ≤ limit ∧ Writes mask n := by
  rw [readUnsigned_eq_ok_iff, Writes]
  simp only [unmarked_iff, exists_eq_left']

theorem Writes.unique {mask : String} {m n : Nat} (hm : Writes mask m) (hn : Writes mask n) :
    m = n := by
  have hm' := readUnsigned_digits_iff.2 ⟨Nat.le_max_left m n, hm⟩
  rw [readUnsigned_digits_iff.2 ⟨Nat.le_max_right m n, hn⟩] at hm'
  cases hm'
  rfl

theorem writes_display (s : Selector) : Writes s.display s.masked.toNat := by
  have htext : s.display.toList = '0' :: 'x' :: Nat.toDigits 16 s.masked.toNat := by
    have hmark : "0x".toList = ['0', 'x'] := rfl
    rw [display, hexText, String.toList_append, hmark, String.toList_ofList]
    rfl
  rw [Writes, htext]
  exact ⟨_, .lower _, .inl (hexadecimal_toDigits _)⟩

theorem ofMask_eq_ok_iff {mask : UInt64} {width : Nat} {s : Selector} :
    ofMask mask width = .ok s ↔ s.mask = mask ∧ s.width = width := by
  unfold ofMask
  split
  · obtain ⟨m, w, hw⟩ := s
    simp only [Except.ok.injEq, mk.injEq, eq_comm]
  · rename_i hwide
    refine iff_of_false nofun ?_
    rintro ⟨-, rfl⟩
    exact hwide s.width_le

/-- A text comes to a selector of a width exactly if it writes the mask of the selector. -/
theorem parse_eq_ok_iff {mask : String} {width : Nat} {s : Selector} :
    parse mask width = .ok s ↔ Writes mask s.mask.toNat ∧ s.width = width := by
  have hword : s.mask.toNat ≤ maxWord := toNat_le_maxWord s.mask
  unfold parse
  split
  · rename_i fault hfault
    refine iff_of_false nofun ?_
    rintro ⟨hwrites, -⟩
    rw [readUnsigned_digits_iff.2 ⟨hword, hwrites⟩] at hfault
    cases hfault
  · rename_i n hn
    obtain ⟨hlimit, hwrites⟩ := readUnsigned_digits_iff.1 hn
    have hvalue : s.mask = UInt64.ofNat n ↔ Writes mask s.mask.toNat := by
      rw [← UInt64.toNat_inj, UInt64.toNat_ofNat_of_lt' (Nat.lt_succ_of_le hlimit)]
      constructor
      · rintro h
        rwa [h]
      · intro h
        exact h.unique hwrites
    rw [ofMask_eq_ok_iff, hvalue]

theorem invalidMask_of_parse {mask : String} {width : Nat} {f : Failure}
    (h : parse mask width = .error f) : ∃ text fault, f = .invalidMask text fault := by
  unfold parse ofMask at h
  split at h
  · cases h
    exact ⟨_, _, rfl⟩
  · split at h
    · cases h
    · cases h
      exact ⟨_, _, rfl⟩

/-! ## Selections -/

/-- What a selector of a number and a width is: it lists the bits of the number below the width,
ascending, counts them, shows their sum, and can be had again from the text that shows it. -/
structure Selects (s : Selector) (n width : Nat) : Prop where
  ascending : s.indices.Pairwise (· < ·)
  mem_indices_iff : ∀ i, i ∈ s.indices ↔ i < width ∧ n.testBit i = true
  count_eq : s.count = s.indices.length
  sum_indices : (s.indices.map (2 ^ ·)).sum = s.masked.toNat
  toNat_masked : s.masked.toNat = n % 2 ^ width
  read_back : ∃ t, parse s.display width = .ok t ∧ t.masked = s.masked ∧ t.indices = s.indices

theorem selects (s : Selector) : s.Selects s.mask.toNat s.width where
  ascending := by
    rw [indices_eq]
    exact pairwise_bitsBelow _ _
  mem_indices_iff i := by rw [indices_eq, mem_bitsBelow]
  count_eq := s.count_eq
  sum_indices := by rw [indices_eq, sum_bitsBelow, s.toNat_masked]
  toNat_masked := s.toNat_masked
  read_back := by
    let t : Selector := ⟨s.masked, s.width, s.width_le⟩
    have hparse : parse s.display s.width = .ok t := parse_eq_ok_iff.2 ⟨s.writes_display, rfl⟩
    have hmasked : t.masked = s.masked := by
      rw [← UInt64.toNat_inj, toNat_masked, s.toNat_masked, Nat.mod_mod]
    have hindices : t.indices = s.indices := by
      rw [indices_eq, indices_eq, s.toNat_masked, bitsBelow_mod (Nat.le_refl _)]
    exact ⟨t, hparse, hmasked, hindices⟩

/-- A text and a width come to a selector exactly if the text writes a number of 64 bits and the width is at
most 64; anything else is an invalid mask. The selector selects the bits of that number below the width. -/
theorem parse_account (mask : String) (width : Nat) :
    ((∃ s, parse mask width = .ok s) ↔ (∃ n < 2 ^ 64, Writes mask n) ∧ width ≤ 64) ∧
    (∀ f, parse mask width = .error f → ∃ text fault, f = .invalidMask text fault) ∧
    ∀ s n, parse mask width = .ok s → Writes mask n → s.Selects n width := by
  refine ⟨⟨?_, ?_⟩, fun f => invalidMask_of_parse, ?_⟩
  · rintro ⟨s, hs⟩
    obtain ⟨hwrites, rfl⟩ := parse_eq_ok_iff.1 hs
    exact ⟨⟨_, s.mask.toNat_lt, hwrites⟩, s.width_le⟩
  · rintro ⟨⟨n, hn, hwrites⟩, hwidth⟩
    have hword : (UInt64.ofNat n).toNat = n := UInt64.toNat_ofNat_of_lt' hn
    exact ⟨⟨UInt64.ofNat n, width, hwidth⟩, parse_eq_ok_iff.2 ⟨by rwa [hword], rfl⟩⟩
  · intro s n hs hwrites
    obtain ⟨hmask, rfl⟩ := parse_eq_ok_iff.1 hs
    rw [hwrites.unique hmask]
    exact s.selects

/-- The mark in capitals, a sign, leading zeros and digits of either case, with all but the last of the 64 bits
looked at. -/
theorem parse_account_wide :
    parse "0X+00ffffffFFFFFFFFff" 63 = .ok ⟨18446744073709551615, 63, by decide⟩ ∧
      Writes "0X+00ffffffFFFFFFFFff" 18446744073709551615 ∧
      Selects ⟨18446744073709551615, 63, by decide⟩ 18446744073709551615 63 := by
  have hparse : parse "0X+00ffffffFFFFFFFFff" 63 = .ok ⟨18446744073709551615, 63, by decide⟩ := by
    decide +kernel
  have hwrites : Writes "0X+00ffffffFFFFFFFFff" 18446744073709551615 :=
    (parse_eq_ok_iff.1 hparse).1
  exact ⟨hparse, hwrites, (parse_account _ _).2.2 _ _ hparse hwrites⟩

end DeviceBench.Selector
