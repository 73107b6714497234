/-
Numbers in decimal digits. The digits of a number are its value again, with leading zeros or without, so a
number can be told from its text, and only zero starts with one of its own.
-/
import DeviceBench.Text.Blank
import DeviceBench.Text.Numeral

namespace DeviceBench.Text

/-- All characters are decimal digits. -/
def Digits (cs : List Char) : Prop := ∀ c ∈ cs, c.isDigit = true

theorem toNat_of_isDigit {c : Char} (h : c.isDigit = true) : 48 ≤ c.toNat ∧ c.toNat ≤ 57 := by
  simpa [Char.isDigit, UInt32.le_iff_toNat_le] using h

theorem not_blank_of_digit {c : Char} (h : c.isDigit = true) : isBlank c = false := by
  have hcode := toNat_of_isDigit h
  simp only [isBlank, Bool.or_eq_false_iff, Bool.and_eq_false_iff, decide_eq_false_iff_not,
    beq_eq_false_iff_ne]
  omega

theorem digits_toDigits (n : Nat) : Digits (Nat.toDigits 10 n) :=
  fun _ hc => Nat.isDigit_of_mem_toDigits (by decide) (by decide) hc

theorem digits_toString (n : Nat) : Digits (toString n).toList := by
  rw [Nat.toString_eq_repr, Nat.toList_repr]
  exact digits_toDigits n

theorem toList_toString_negSucc (n : Nat) :
    (toString (Int.negSucc n)).toList = '-' :: (toString (n + 1)).toList := by
  show ("-" ++ toString (n + 1)).toList = _
  rw [String.toList_append]
  rfl

/-! ## Numbers told from their texts -/

theorem toString_nat_injective {m n : Nat} (h : toString m = toString n) : m = n := by
  have hdigits : Nat.toDigits 10 m = Nat.toDigits 10 n := by
    rw [← Nat.toList_repr, ← Nat.toList_repr]
    exact congrArg String.toList h
  rw [← Nat.ofDigitChars_ten_toDigits (n := m), hdigits, Nat.ofDigitChars_ten_toDigits]

theorem head?_toString_nat (n : Nat) : (toString n).toList.head? ≠ some '-' := by
  intro h
  exact absurd (digits_toString n '-' (List.mem_of_mem_head? h)) (by decide)

theorem toString_int_injective {m n : Int} (h : toString m = toString n) : m = n := by
  have hlists := congrArg String.toList h
  cases m with
  | ofNat m =>
    cases n with
    | ofNat n => exact congrArg Int.ofNat (toString_nat_injective h)
    | negSucc n =>
      rw [toList_toString_negSucc] at hlists
      exact absurd (congrArg List.head? hlists) (head?_toString_nat m)
  | negSucc m =>
    rw [toList_toString_negSucc] at hlists
    cases n with
    | ofNat n => exact absurd (congrArg List.head? hlists).symm (head?_toString_nat n)
    | negSucc n =>
      rw [toList_toString_negSucc] at hlists
      have hmagnitude := toString_nat_injective (String.toList_injective (List.cons.inj hlists).2)
      rw [Nat.succ.inj hmagnitude]

theorem mem_toString_int {n : Int} {c : Char} (h : c ∈ (toString n).toList) :
    c = '-' ∨ c.isDigit = true := by
  cases n with
  | ofNat n => exact .inr (digits_toString n c h)
  | negSucc n =>
    rw [toList_toString_negSucc, List.mem_cons] at h
    exact h.imp id (digits_toString (n + 1) c)

/-! ## First digits -/

theorem head?_digitChar : ∀ n < 10, 0 < n → [n.digitChar].head? ≠ some '0' := by decide

theorem head?_toDigits (n : Nat) (h : 0 < n) : (Nat.toDigits 10 n).head? ≠ some '0' := by
  induction n using Nat.strongRecOn with
  | _ n ih =>
    by_cases hn : n < 10
    · rw [Nat.toDigits_of_lt_base hn]
      exact head?_digitChar n hn h
    · -- the first digit is that of the number without its last
      have hten : 10 ≤ n := Nat.not_lt.1 hn
      obtain ⟨c, cs, hcs⟩ := List.exists_cons_of_ne_nil (Nat.toDigits_ne_nil (n := n / 10) (b := 10))
      have hfirst := ih (n / 10) (by omega) (by omega)
      rw [Nat.toDigits_of_base_le (by decide) hten, hcs]
      rwa [hcs] at hfirst

theorem le_ofDigitChars (cs : List Char) (n : Nat) : n ≤ Nat.ofDigitChars 10 cs n := by
  induction cs generalizing n with
  | nil => exact Nat.le_refl n
  | cons c cs ih =>
    rw [Nat.ofDigitChars_cons]
    exact Nat.le_trans (by omega) (ih _)

/-- Digits after a number make up a number of as many more places. -/
theorem ofDigitChars_bounds {ds : List Char} (hds : Digits ds) (n : Nat) :
    n * Nat.pow 10 ds.length ≤ Nat.ofDigitChars 10 ds n ∧
      Nat.ofDigitChars 10 ds n < (n + 1) * Nat.pow 10 ds.length := by
  induction ds generalizing n with
  | nil => simp
  | cons d ds ih =>
    have hd := toNat_of_isDigit (hds d List.mem_cons_self)
    have hzero : '0'.toNat = 48 := rfl
    have hpow : Nat.pow 10 (d :: ds).length = 10 * Nat.pow 10 ds.length := Nat.pow_succ'
    obtain ⟨hlow, hhigh⟩ :=
      ih (fun c hc => hds c (List.mem_cons_of_mem _ hc)) (10 * n + (d.toNat - '0'.toNat))
    rw [Nat.ofDigitChars_cons, hpow, ← Nat.mul_assoc, ← Nat.mul_assoc]
    exact ⟨Nat.le_trans (Nat.mul_le_mul_right _ (by omega)) hlow,
      Nat.lt_of_lt_of_le hhigh (Nat.mul_le_mul_right _ (by omega))⟩

/-! ## Leading zeros -/

theorem toList_paddedText (width n : Nat) :
    (paddedText width n).toList =
      List.replicate (width - (Nat.toDigits 10 n).length) '0' ++ Nat.toDigits 10 n := by
  rw [paddedText, String.toList_ofList]

theorem digits_paddedText (width n : Nat) : Digits (paddedText width n).toList := by
  intro c hc
  rw [toList_paddedText, List.mem_append] at hc
  rcases hc with hc | hc
  · rw [List.eq_of_mem_replicate hc]
    decide
  · exact digits_toDigits n c hc

theorem paddedText_ne_nil (width n : Nat) : (paddedText width n).toList ≠ [] := by
  rw [toList_paddedText]
  exact List.append_ne_nil_of_right_ne_nil _ Nat.toDigits_ne_nil

theorem length_paddedText {width n : Nat} (hwidth : 0 < width) (h : n < Nat.pow 10 width) :
    (paddedText width n).toList.length = width := by
  have hle : (Nat.toDigits 10 n).length ≤ width :=
    (Nat.length_toDigits_le_iff (by decide) hwidth).2 h
  rw [toList_paddedText, List.length_append, List.length_replicate]
  omega

/-- Leading zeros count for nothing. -/
theorem ofDigitChars_paddedText (width n : Nat) :
    Nat.ofDigitChars 10 (paddedText width n).toList 0 = n := by
  rw [toList_paddedText, Nat.ofDigitChars_append, Nat.ofDigitChars_replicate_zero, Nat.mul_zero,
    Nat.ofDigitChars_ten_toDigits]

end DeviceBench.Text
