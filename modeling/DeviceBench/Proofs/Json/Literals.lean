/-
Integers in JSON text. What is written for an integer that fits 64 bits, signed or not, is a number literal,
and its value is that integer.
-/
import DeviceBench.Json.Reader
import DeviceBench.Proofs.Text.Digits
import Mathlib.Data.List.TakeDrop
import Mathlib.Data.List.TakeWhile

namespace DeviceBench.Json

open Text (Digits)

/-! ## Literals -/

theorem someDigits_digits {cs : List Char} (h : Digits cs) (hne : cs ≠ []) :
    someDigits cs = some (cs, []) := by
  have hspan : cs.span Char.isDigit = (cs, []) := by
    rw [List.span_eq_takeWhile_dropWhile, List.takeWhile_eq_self_iff.2 h,
      List.dropWhile_eq_nil_iff.2 h]
  rw [someDigits, hspan]
  cases cs with
  | nil => exact absurd rfl hne
  | cons c cs => rfl

theorem literal?_digits {cs : List Char} (h : Digits cs) (hne : cs ≠ [])
    (hzero : 1 < cs.length → cs.head? ≠ some '0') : literal? cs = some ⟨false, cs, none, none⟩ := by
  have hparts := someDigits_digits h hne
  cases cs with
  | nil => exact absurd rfl hne
  | cons c cs =>
    have hc : c ≠ '-' := by
      rintro rfl
      exact absurd (h '-' List.mem_cons_self) (by decide)
    simpa [literal?, hc, hparts] using hzero

theorem literal?_negative {cs : List Char} (h : Digits cs) (hne : cs ≠ [])
    (hzero : 1 < cs.length → cs.head? ≠ some '0') :
    literal? ('-' :: cs) = some ⟨true, cs, none, none⟩ := by
  simpa [literal?, someDigits_digits h hne] using hzero

/-! ## Their values -/

theorem numberWithin_digits {limit n : Nat} {cs : List Char} (h : Nat.ofDigitChars 10 cs n ≤ limit) :
    numberWithin limit n cs = (Nat.ofDigitChars 10 cs n, []) := by
  induction cs generalizing n with
  | nil => rfl
  | cons c cs ih =>
    rw [Nat.ofDigitChars_cons, Nat.mul_comm] at h
    have hle := Nat.le_trans (Text.le_ofDigitChars cs _) h
    rw [numberWithin, if_neg (Nat.not_lt.2 hle), ih h, Nat.ofDigitChars_cons, Nat.mul_comm]

theorem numberWithin_toDigits {limit n : Nat} (h : n ≤ limit) :
    numberWithin limit 0 (Nat.toDigits 10 n) = (n, []) := by
  have hvalue : Nat.ofDigitChars 10 (Nat.toDigits 10 n) 0 = n := Nat.ofDigitChars_ten_toDigits
  rw [numberWithin_digits (by rwa [hvalue]), hvalue]

theorem wordValue?_of_literal {cs : List Char} {l : Literal} (h : literal? cs = some l) :
    wordValue? cs = some l.value := by
  have hnull : cs ≠ ['n', 'u', 'l', 'l'] := by rintro rfl; cases h
  have htrue : cs ≠ ['t', 'r', 'u', 'e'] := by rintro rfl; cases h
  have hfalse : cs ≠ ['f', 'a', 'l', 's', 'e'] := by rintro rfl; cases h
  rw [wordValue?, if_neg hnull, if_neg htrue, if_neg hfalse, h]
  rfl

theorem head?_of_toDigits_long {n : Nat} (h : 1 < (Nat.toDigits 10 n).length) :
    (Nat.toDigits 10 n).head? ≠ some '0' := by
  refine Text.head?_toDigits n (Nat.pos_of_ne_zero ?_)
  rintro rfl
  exact absurd h (by decide)

/-- An integer that fits 64 bits is the value of the word that is written for it. -/
theorem wordValue?_integer {n : Int} (hlow : -9223372036854775808 ≤ n) (hhigh : n ≤ Text.maxWord) :
    wordValue? (toString n).toList = some (.integer n) := by
  cases n with
  | ofNat n =>
    have hword : (toString (Int.ofNat n)).toList = Nat.toDigits 10 n := Nat.toList_repr
    have hliteral := literal?_digits (Text.digits_toDigits n) Nat.toDigits_ne_nil
      head?_of_toDigits_long
    rw [hword, wordValue?_of_literal hliteral, Literal.value,
      numberWithin_toDigits (Int.ofNat_le.1 hhigh)]
    rfl
  | negSucc n =>
    have hword : (toString (Int.negSucc n)).toList = '-' :: Nat.toDigits 10 (n + 1) := by
      rw [Text.toList_toString_negSucc, Nat.toString_eq_repr, Nat.toList_repr]
    have hliteral := literal?_negative (Text.digits_toDigits (n + 1)) Nat.toDigits_ne_nil
      head?_of_toDigits_long
    have hsize : n + 1 ≤ 9223372036854775808 := by omega
    rw [hword, wordValue?_of_literal hliteral, Literal.value,
      numberWithin_toDigits (Nat.le_trans hsize (by decide))]
    simp only [Bool.not_true, Bool.false_eq_true, if_false, Nat.succ_pos, hsize, and_self, if_true]
    rfl

end DeviceBench.Json
