/-
Stamps are read back. Each part of a stamp that is written is what the reader of that part takes off the
text, and the parts make up the point in time again, a leap second included.
-/
import DeviceBench.Proofs.Time.Reading
import DeviceBench.Time.Stamp

namespace DeviceBench

open Text (paddedText Digits)

namespace TimeReader

variable {rest : List Char}

/-! ## Numbers -/

/-- A number with leading zeros is read back, whether its width is known or its end shows. -/
theorem run_paddedText {width : Option Nat} {k n : Nat} {c : Char} (hzero : width ≠ some 0)
    (hwidth : ∀ w, width = some w → (paddedText k n).toList.length ≤ w) (hc : c.isDigit = false)
    (hn : n ≤ maxTimeNumber) :
    (number width).run ((paddedText k n).toList ++ c :: rest) = .ok (n, c :: rest) := by
  have hends : ∀ d ∈ (c :: rest).head?, d.isDigit = false := by
    rintro _ ⟨⟩
    exact hc
  have hvalue : n = Nat.ofDigitChars 10 (paddedText k n).toList 0 :=
    (Text.ofDigitChars_paddedText k n).symm
  exact (run_number_eq_ok_iff hzero).2 ⟨_, rfl,
    ⟨Text.digits_paddedText k n, Text.paddedText_ne_nil k n, hwidth, .inr hends⟩, hvalue, hn⟩

theorem run_blanks_paddedText (k n : Nat) :
    blanks.run ((paddedText k n).toList ++ rest) = .ok ((), (paddedText k n).toList ++ rest) := by
  have hdigits := Text.digits_paddedText k n
  obtain ⟨d, ds, hds⟩ := List.exists_cons_of_ne_nil (Text.paddedText_ne_nil k n)
  rw [hds] at hdigits ⊢
  exact run_blanks (Text.not_blank_of_digit (hdigits d List.mem_cons_self)) (ds ++ rest)

theorem run_field {low high n : Nat} {c : Char} (hlow : low ≤ n) (hhigh : n ≤ high) (hn : n < 100)
    (hc : c.isDigit = false) :
    (field low high).run ((paddedText 2 n).toList ++ c :: rest) = .ok (n, c :: rest) := by
  have hlength : (paddedText 2 n).toList.length = 2 := Text.length_paddedText (by decide) hn
  have hnumber : (number (some 2)).run ((paddedText 2 n).toList ++ c :: rest) = .ok (n, c :: rest) := by
    refine run_paddedText (by decide) ?_ hc (Nat.le_trans hn.le (by decide))
    rintro w ⟨⟩
    exact hlength.le
  have hrange : ¬(n < low ∨ high < n) := by omega
  rw [field, run_bind (run_blanks_paddedText 2 n), run_bind hnumber, if_neg hrange]
  rfl

/-! ## Years -/

theorem run_year_signed {y : Int} {sign : Char} (hy : -262143 ≤ y ∧ y ≤ 262142)
    (hsign : sign = '-' ∧ y < 0 ∨ sign = '+' ∧ 0 ≤ y) :
    year.run (sign :: (paddedText 4 y.natAbs).toList ++ '-' :: rest) = .ok (y, '-' :: rest) := by
  have hnumber : (number none).run ((paddedText 4 y.natAbs).toList ++ '-' :: rest) =
      .ok (y.natAbs, '-' :: rest) :=
    run_paddedText nofun nofun rfl (Nat.le_trans (by omega : y.natAbs ≤ 262143) (by decide))
  have hrange : ¬(y < -2147483648 ∨ 2147483647 < y) := by omega
  rcases hsign with ⟨rfl, hneg⟩ | ⟨rfl, hpos⟩
  · have hvalue : -(y.natAbs : Int) = y := by omega
    rw [year, List.cons_append, run_bind (run_blanks rfl _), run_bind rfl]
    simp only
    rw [run_bind rfl, run_bind hnumber, run_bind rfl, hvalue, if_neg hrange]
    rfl
  · have hvalue : (y.natAbs : Int) = y := by omega
    rw [year, List.cons_append, run_bind (run_blanks rfl _), run_bind rfl]
    simp only
    rw [run_bind rfl, run_bind hnumber, run_bind rfl, hvalue, if_neg hrange]
    rfl

theorem run_year_digits {n : Nat} (hn : n ≤ 9999) :
    year.run ((paddedText 4 n).toList ++ '-' :: rest) = .ok ((n : Int), '-' :: rest) := by
  have hlength : (paddedText 4 n).toList.length = 4 :=
    Text.length_paddedText (by decide) (Nat.lt_succ_of_le hn)
  have hnumber : (number (some 4)).run ((paddedText 4 n).toList ++ '-' :: rest) =
      .ok (n, '-' :: rest) := by
    refine run_paddedText (by decide) ?_ rfl (Nat.le_trans hn (by decide))
    rintro w ⟨⟩
    exact hlength.le
  have hrange : ¬((n : Int) < -2147483648 ∨ 2147483647 < (n : Int)) := by omega
  have hdigits := Text.digits_paddedText 4 n
  rw [year, run_bind (run_blanks_paddedText 4 n), run_bind rfl]
  obtain ⟨d, ds, hds⟩ := List.exists_cons_of_ne_nil (Text.paddedText_ne_nil 4 n)
  rw [hds] at hnumber hdigits ⊢
  have hd : d.isDigit = true := hdigits d List.mem_cons_self
  -- a digit is no sign
  split
  · rename_i heq
    cases heq
    exact absurd hd (by decide)
  · rename_i heq
    cases heq
    exact absurd hd (by decide)
  · rw [run_bind hnumber, run_bind rfl]
    simp only [if_neg hrange]
    rfl

theorem run_year {y : Int} (hy : -262143 ≤ y ∧ y ≤ 262142) :
    year.run ((Stamp.yearText y).toList ++ '-' :: rest) = .ok (y, '-' :: rest) := by
  unfold Stamp.yearText
  split
  · rename_i hfour
    obtain ⟨n, rfl⟩ := Int.eq_ofNat_of_zero_le hfour.1
    exact run_year_digits (Int.ofNat_le.1 hfour.2)
  · rw [String.toList_append]
    split
    · rename_i hneg
      exact run_year_signed hy (.inl ⟨rfl, hneg⟩)
    · rename_i hpos
      exact run_year_signed hy (.inr ⟨rfl, Int.not_lt.1 hpos⟩)

/-! ## Fractions -/

theorem run_fraction {nano : Nat} (h : nano < 1000000000) :
    fraction.run ((Stamp.fractionText nano).toList ++ 'Z' :: rest) = .ok (nano, 'Z' :: rest) := by
  have hdigits {k n : Nat} (hk : 0 < k) (hk' : k ≤ 9) (hn : n < Nat.pow 10 k) :
      fraction.run (("." ++ paddedText k n).toList ++ 'Z' :: rest) =
        .ok (n * Nat.pow 10 (9 - k), 'Z' :: rest) := by
    have hlength : (paddedText k n).toList.length = k := Text.length_paddedText hk hn
    have hnumber : (number (some 9)).run ((paddedText k n).toList ++ 'Z' :: rest) =
        .ok (n, 'Z' :: rest) := by
      refine run_paddedText (by decide) ?_ rfl ?_
      · rintro w ⟨⟩
        omega
      · exact Nat.le_trans hn.le (Nat.le_trans (Nat.pow_le_pow_right (by decide) hk') (by decide))
    have hread : ((paddedText k n).toList ++ 'Z' :: rest).length - ('Z' :: rest).length = k := by
      rw [List.length_append, hlength, Nat.add_sub_cancel]
    rw [String.toList_append]
    show fraction.run ('.' :: ((paddedText k n).toList ++ 'Z' :: rest)) = _
    rw [fraction, run_bind rfl]
    simp only
    rw [run_bind rfl, run_bind hnumber, run_bind rfl, run_bind rfl, hread]
    rfl
  unfold Stamp.fractionText
  split
  · rename_i hzero
    rw [hzero]
    rfl
  split
  · rename_i hmillis
    rw [hdigits (by decide) (by decide) (show nano / 1000000 < 1000 by omega),
      show nano / 1000000 * Nat.pow 10 (9 - 3) = nano from Nat.div_mul_cancel (Nat.dvd_of_mod_eq_zero hmillis)]
  split
  · rename_i hmicros
    rw [hdigits (by decide) (by decide) (show nano / 1000 < 1000000 by omega),
      show nano / 1000 * Nat.pow 10 (9 - 6) = nano from Nat.div_mul_cancel (Nat.dvd_of_mod_eq_zero hmicros)]
  · rw [hdigits (by decide) (by decide) (show nano < 1000000000 from h),
      show nano * Nat.pow 10 (9 - 9) = nano from Nat.mul_one nano]

end TimeReader

/-! ## Points in time -/

theorem Date.of?_self (d : Date) : Date.of? d.year d.month d.day = some d :=
  dif_pos ⟨d.year_mem, d.month_mem, d.day_mem⟩

namespace Moment

theorem of?_self (t : Moment) : of? t.date t.second t.nano = some t :=
  dif_pos ⟨t.second_lt, t.nano_lt, t.leap⟩

/-- The clock of a point in time names it, also where the clock shows a sixtieth second. -/
theorem ofClock?_self (t : Moment) :
    ofClock? t.date t.hour t.minute (t.second % 60 + t.nano / 1000000000) (t.nano % 1000000000) =
      some t := by
  have hleap := t.leap
  have hnano := t.nano_lt
  have hsecond : t.hour * 3600 + t.minute * 60 + t.second % 60 = t.second := by
    unfold hour minute
    omega
  by_cases h : t.nano < 1000000000
  · have hshown : t.second % 60 + t.nano / 1000000000 = t.second % 60 := by omega
    rw [ofClock?, hshown, if_neg (by omega), hsecond, Nat.mod_eq_of_lt h, of?_self]
  · have hshown : t.second % 60 + t.nano / 1000000000 = 60 := by omega
    have hlast : t.hour * 3600 + t.minute * 60 + 59 = t.second := by omega
    rw [ofClock?, hshown, if_pos rfl, hlast, show 1000000000 + t.nano % 1000000000 = t.nano by omega,
      of?_self]

end Moment

namespace Stamp

open TimeReader

theorem minutesBefore?_zero (t : Moment) : minutesBefore? t 0 = some t := by
  have hlow : ¬((t.second : Int) < 0) := by omega
  have hhigh : (t.second : Int) < 86400 := Int.ofNat_lt.2 t.second_lt
  simp only [minutesBefore?, Int.zero_mul, Int.sub_zero, if_neg hlow, if_pos hhigh, Int.toNat_natCast]
  exact t.of?_self

theorem run_offset : offset.run ['Z'] = .ok (0, []) := rfl

theorem toList_write (t : Moment) :
    (write t).toList = (yearText t.date.year).toList ++ '-' ::
      ((paddedText 2 t.date.month).toList ++ '-' :: ((paddedText 2 t.date.day).toList ++ 'T' ::
        ((paddedText 2 t.hour).toList ++ ':' :: ((paddedText 2 t.minute).toList ++ ':' ::
          ((paddedText 2 (t.second % 60 + t.nano / 1000000000)).toList ++
            ((fractionText (t.nano % 1000000000)).toList ++ ['Z'])))))) := by
  simp [write]

/-- The digits of the second end where the fraction starts. -/
theorem exists_mark_fractionText (nano : Nat) :
    ∃ c rest, (fractionText nano).toList ++ ['Z'] = c :: rest ∧ c.isDigit = false := by
  have hpoint (digits : String) :
      ∃ c rest, ("." ++ digits).toList ++ ['Z'] = c :: rest ∧ c.isDigit = false :=
    ⟨'.', digits.toList ++ ['Z'], by rw [String.toList_append]; rfl, rfl⟩
  unfold fractionText
  split
  · exact ⟨'Z', [], rfl, rfl⟩
  split
  · exact hpoint _
  split <;> exact hpoint _

theorem day_le (d : Date) : d.day ≤ 31 := by
  have hday := d.day_mem.2
  have hmonth : daysInMonth d.year d.month ≤ 31 := by
    unfold daysInMonth
    split
    · split <;> decide
    · split <;> decide
  exact Nat.le_trans hday hmonth

theorem run_reader (t : Moment) : reader.run (write t).toList = .ok (t, []) := by
  obtain ⟨hmonth, hmonth'⟩ := t.date.month_mem
  have hday := day_le t.date
  have hsecond := t.second_lt
  have hnano := t.nano_lt
  have hhour : t.hour ≤ 23 := by unfold Moment.hour; omega
  have hminute : t.minute ≤ 59 := by unfold Moment.minute; omega
  have hshown : t.second % 60 + t.nano / 1000000000 ≤ 60 := by omega
  rw [toList_write, reader, run_bind (run_year t.date.year_mem), run_bind (run_blanks rfl _),
    run_bind (run_mark '-' _), run_bind (run_field hmonth hmonth' (by omega) rfl),
    run_bind (run_blanks rfl _), run_bind (run_mark '-' _),
    run_bind (run_field t.date.day_mem.1 hday (by omega) rfl), run_bind rfl]
  simp only [true_or, if_true]
  rw [run_bind rfl, run_bind (run_field (Nat.zero_le _) hhour (by omega) rfl),
    run_bind (run_blanks rfl _), run_bind (run_mark ':' _),
    run_bind (run_field (Nat.zero_le _) hminute (by omega) rfl), run_bind (run_blanks rfl _),
    run_bind (run_mark ':' _)]
  have hfraction : fraction.run ((fractionText (t.nano % 1000000000)).toList ++ ['Z']) =
      .ok (t.nano % 1000000000, ['Z']) := run_fraction (Nat.mod_lt _ (by decide))
  obtain ⟨c, rest, hrest, hc⟩ := exists_mark_fractionText (t.nano % 1000000000)
  rw [hrest] at hfraction ⊢
  rw [run_bind (run_field (Nat.zero_le _) hshown (by omega) hc), run_bind hfraction,
    run_bind (run_blanks rfl _), run_bind run_offset, run_bind run_blanks_nil, run_bind rfl]
  simp only [Date.of?_self, Option.bind_some, Moment.ofClock?_self, minutesBefore?_zero]
  rfl

/-- A point in time is what its stamp names. -/
theorem read?_write (t : Moment) : read? (write t) = some t := by
  rw [read?, run_reader]

end Stamp

end DeviceBench
