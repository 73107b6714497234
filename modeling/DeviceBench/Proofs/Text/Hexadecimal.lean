/-
Numbers in hexadecimal digits. A text is read as a number exactly if it is an optional plus sign and at
least one digit, of either case and with any number of leading zeros, and the value of the digits is
within the limit. What is written for a number is its value again.
-/
import DeviceBench.Text.Numeral
import Mathlib.Data.List.Forall2
import Mathlib.Data.Nat.Digits.Defs

namespace DeviceBench.Text

/-! ## Digits -/

/-- A digit from `0` to `f`, in either case, and its value. -/
def HexDigit (c : Char) (d : Nat) : Prop :=
  d < 16 ∧ (c = Nat.digitChar d ∨ c = (Nat.digitChar d).toUpper)

instance (c : Char) (d : Nat) : Decidable (HexDigit c d) := inferInstanceAs (Decidable (_ ∧ _))

theorem digitValue?_digitChar : ∀ d < 16, digitValue? 16 d.digitChar = some d := by decide

theorem digitValue?_toUpper : ∀ d < 16, digitValue? 16 d.digitChar.toUpper = some d := by decide

theorem lt_of_digitValue? {radix d : Nat} {c : Char} (h : digitValue? radix c = some d) :
    c.toNat < 128 := by
  obtain ⟨hvalue, -⟩ := Option.filter_eq_some_iff.1 h
  split at hvalue
  · omega
  · split at hvalue
    · omega
    · split at hvalue
      · omega
      · cases hvalue

/-- The digits that are read are those from `0` to `f` in either case. -/
theorem digitValue?_eq_some_iff {c : Char} {d : Nat} : digitValue? 16 c = some d ↔ HexDigit c d := by
  constructor
  · intro h
    -- only the characters of ASCII are left to look at
    have hascii : ∀ n < 128, ∀ d ∈ digitValue? 16 (Char.ofNat n), HexDigit (Char.ofNat n) d := by
      decide
    have hc := hascii c.toNat (lt_of_digitValue? h)
    rw [Char.ofNat_toNat] at hc
    exact hc d h
  · rintro ⟨hd, rfl | rfl⟩
    · exact digitValue?_digitChar d hd
    · exact digitValue?_toUpper d hd

/-! ## Values -/

/-- At least one digit, most significant first, and the value that the digits make up. -/
def Hexadecimal (cs : List Char) (n : Nat) : Prop :=
  cs ≠ [] ∧ ∃ ds, List.Forall₂ HexDigit cs ds ∧ Nat.ofDigits 16 ds.reverse = n

/-- The value of digits after those that make up `value`. -/
def valueAfter (value : Nat) (ds : List Nat) : Nat := ds.foldl (fun n d => n * 16 + d) value

theorem le_valueAfter (value : Nat) (ds : List Nat) : value ≤ valueAfter value ds := by
  induction ds generalizing value with
  | nil => exact Nat.le_refl value
  | cons d ds ih => exact Nat.le_trans (by omega) (ih (value * 16 + d))

theorem valueAfter_zero (ds : List Nat) : valueAfter 0 ds = Nat.ofDigits 16 ds.reverse := by
  rw [Nat.ofDigits_eq_foldr, List.foldr_reverse, valueAfter]
  congr 1
  funext n d
  rw [Nat.mul_comm, Nat.add_comm, Nat.cast_id]

theorem Hexadecimal.concat {cs : List Char} {n : Nat} (h : Hexadecimal cs n) {c : Char} {d : Nat}
    (hd : HexDigit c d) : Hexadecimal (cs ++ [c]) (16 * n + d) := by
  obtain ⟨-, ds, hds, rfl⟩ := h
  refine ⟨by simp, ds ++ [d], List.rel_append hds (.cons hd .nil), ?_⟩
  rw [List.reverse_append, List.reverse_singleton, List.singleton_append, Nat.ofDigits_cons,
    Nat.add_comm]

theorem Hexadecimal.exists_hexDigit {cs : List Char} {n : Nat} (h : Hexadecimal cs n) :
    ∀ c ∈ cs, ∃ d, HexDigit c d := by
  obtain ⟨-, ds, hds, -⟩ := h
  induction hds with
  | nil => simp
  | cons hd _ ih => exact List.forall_mem_cons.2 ⟨⟨_, hd⟩, ih⟩

/-- Digits hold no character that is no digit. -/
theorem Hexadecimal.not_mem {cs : List Char} {n : Nat} (h : Hexadecimal cs n) {c : Char}
    (hc : digitValue? 16 c = none) : c ∉ cs := by
  intro hmem
  obtain ⟨d, hd⟩ := h.exists_hexDigit c hmem
  rw [digitValue?_eq_some_iff.2 hd] at hc
  cases hc

theorem not_hexadecimal_plus {cs : List Char} {n : Nat} : ¬Hexadecimal ('+' :: cs) n :=
  fun h => h.not_mem rfl List.mem_cons_self

/-! ## Reading -/

theorem exists_digits_cons_iff {c : Char} {d : Nat} (hd : HexDigit c d) {cs : List Char}
    {value n : Nat} :
    (∃ ds, List.Forall₂ HexDigit (c :: cs) ds ∧ valueAfter value ds = n) ↔
      ∃ ds, List.Forall₂ HexDigit cs ds ∧ valueAfter (value * 16 + d) ds = n := by
  constructor
  · rintro ⟨_, hall, hn⟩
    obtain ⟨d', ds, hd', hds, rfl⟩ := List.forall₂_cons_left_iff.1 hall
    have hsame := digitValue?_eq_some_iff.2 hd'
    rw [digitValue?_eq_some_iff.2 hd] at hsame
    cases hsame
    exact ⟨ds, hds, hn⟩
  · rintro ⟨ds, hds, hn⟩
    exact ⟨d :: ds, .cons hd hds, hn⟩

theorem readDigits_eq_ok_iff {limit : Nat} {excess : NumeralFault} {cs : List Char} :
    ∀ {value n : Nat}, value ≤ limit → (readDigits 16 limit excess value cs = .ok n ↔
      n ≤ limit ∧ ∃ ds, List.Forall₂ HexDigit cs ds ∧ valueAfter value ds = n) := by
  induction cs with
  | nil =>
    intro value n hvalue
    simp only [readDigits, Except.ok.injEq, List.forall₂_nil_left_iff, exists_eq_left, valueAfter,
      List.foldl_nil]
    constructor
    · rintro rfl
      exact ⟨hvalue, rfl⟩
    · exact And.right
  | cons c cs ih =>
    intro value n hvalue
    rw [readDigits]
    split
    · rename_i hnone
      refine iff_of_false nofun ?_
      rintro ⟨-, _, hds, -⟩
      obtain ⟨d, _, hd, -, -⟩ := List.forall₂_cons_left_iff.1 hds
      rw [digitValue?_eq_some_iff.2 hd] at hnone
      cases hnone
    · rename_i d hsome
      rw [exists_digits_cons_iff (digitValue?_eq_some_iff.1 hsome)]
      dsimp only
      split
      · -- more digits cannot bring the value down again
        rename_i hover
        refine iff_of_false nofun ?_
        rintro ⟨hn, ds, -, rfl⟩
        exact absurd (Nat.le_trans (le_valueAfter _ ds) hn) (Nat.not_le.2 hover)
      · rename_i hin
        exact ih (Nat.not_lt.1 hin)

/-- A text is read as a number within the limit exactly if it is digits with that value, behind a plus sign or
not. -/
theorem readUnsigned_eq_ok_iff {limit : Nat} {cs : List Char} {n : Nat} :
    readUnsigned 16 limit cs = .ok n ↔
      n ≤ limit ∧ (Hexadecimal cs n ∨ ∃ ds, cs = '+' :: ds ∧ Hexadecimal ds n) := by
  have hread {ds : List Char} (hne : ds ≠ []) :
      readDigits 16 limit .tooLarge 0 ds = .ok n ↔ n ≤ limit ∧ Hexadecimal ds n := by
    rw [readDigits_eq_ok_iff (Nat.zero_le limit)]
    simp only [Hexadecimal, valueAfter_zero, hne, ne_eq, not_false_eq_true, true_and]
  have hempty : ¬Hexadecimal [] n := fun h => h.1 rfl
  unfold readUnsigned
  split
  · simp [hempty]
  · simp [not_hexadecimal_plus, hempty]
  · rename_i ds hlone
    rw [hread (by rintro rfl; exact hlone rfl)]
    simp [not_hexadecimal_plus]
  · rename_i hne hlone hplus
    rw [hread hne]
    have hbare : ¬∃ ds, cs = '+' :: ds ∧ Hexadecimal ds n := by
      rintro ⟨ds, rfl, -⟩
      exact hplus ds rfl
    simp [hbare]

/-! ## Writing -/

theorem hexadecimal_toDigits (n : Nat) : Hexadecimal (Nat.toDigits 16 n) n := by
  induction n using Nat.strongRecOn with
  | _ n ih =>
    by_cases hn : n < 16
    · rw [Nat.toDigits_of_lt_base hn]
      exact ⟨by simp, [n], .cons ⟨hn, .inl rfl⟩ .nil, by simp⟩
    · have hsixteen : 16 ≤ n := Nat.not_lt.1 hn
      rw [Nat.toDigits_of_base_le (by decide) hsixteen]
      have hmore := (ih (n / 16) (by omega)).concat (d := n % 16) ⟨by omega, .inl rfl⟩
      rwa [Nat.div_add_mod] at hmore

end DeviceBench.Text
