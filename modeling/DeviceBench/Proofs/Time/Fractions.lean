/-
Captured times are cut to the microsecond. The cut is made in the text, after six bytes of the fraction and
before anything is read. A time that can be read whole is accepted with its fraction cut; what is accepted
besides has something else than a digit after six digits of its fraction, which the cut takes away.
-/
import DeviceBench.Proofs.Text.Search
import DeviceBench.Proofs.Time.Reading
import Mathlib.Tactic.Common

namespace DeviceBench

open Text (Digits)

namespace TimeReader

/-! ## Nanoseconds -/

theorem nanosOf_lt {ds : List Char} (hds : Digits ds) : nanosOf ds < 1000000000 := by
  have htake : Digits (ds.take 9) := fun c hc => hds c (List.mem_of_mem_take hc)
  have hlength := List.length_take_le 9 ds
  have hlt := (Text.ofDigitChars_bounds htake 0).2
  rw [Nat.zero_add, Nat.one_mul] at hlt
  calc
    nanosOf ds < 10 ^ (ds.take 9).length * 10 ^ (9 - (ds.take 9).length) :=
      Nat.mul_lt_mul_of_pos_right hlt (Nat.pow_pos (by decide))
    _ = 10 ^ 9 := by rw [← Nat.pow_add, Nat.add_sub_of_le hlength]

/-- Six digits at most are whole microseconds. -/
theorem nanosOf_mod {ds : List Char} (h : ds.length ≤ 6) : nanosOf ds % 1000 = 0 := by
  have hlength : 9 - (ds.take 9).length = (6 - ds.length) + 3 := by
    rw [List.take_of_length_le (by omega)]
    omega
  have hpow : Nat.pow 10 ((6 - ds.length) + 3) = 10 ^ (6 - ds.length) * 1000 := Nat.pow_add 10 _ 3
  rw [nanosOf, hlength, hpow, ← Nat.mul_assoc, Nat.mul_mod_left]

/-- Six of the digits are the microseconds. -/
theorem nanosOf_take {ds : List Char} (hds : Digits ds) :
    nanosOf (ds.take 6) = nanosOf ds / 1000 * 1000 := by
  by_cases hshort : ds.length ≤ 6
  · rw [List.take_of_length_le hshort, Nat.div_mul_cancel (Nat.dvd_of_mod_eq_zero (nanosOf_mod hshort))]
  · have hlong : 6 ≤ ds.length := (Nat.not_le.1 hshort).le
    have hsix : (ds.take 6).length = 6 := List.length_take_of_le hlong
    -- of the digits that count, the last three at most are cut
    have hnine : ds.take 9 = ds.take 6 ++ (ds.drop 6).take 3 :=
      (List.take_add : ds.take (6 + 3) = _)
    have hmore : Digits ((ds.drop 6).take 3) :=
      fun c hc => hds c (List.mem_of_mem_drop (List.mem_of_mem_take hc))
    have hthree := List.length_take_le 3 (ds.drop 6)
    obtain ⟨hlow, hhigh⟩ := Text.ofDigitChars_bounds hmore (Nat.ofDigitChars 10 (ds.take 6) 0)
    have hmicros : nanosOf (ds.take 6) = Nat.ofDigitChars 10 (ds.take 6) 0 * 1000 := by
      rw [nanosOf, List.take_take, show min 9 6 = 6 from rfl, hsix]
    have hnanos : nanosOf ds =
        Nat.ofDigitChars 10 ((ds.drop 6).take 3) (Nat.ofDigitChars 10 (ds.take 6) 0) *
          10 ^ (3 - ((ds.drop 6).take 3).length) := by
      rw [nanosOf, hnine, Nat.ofDigitChars_append, List.length_append, hsix, Nat.sub_add_eq]
      rfl
    have hthousand :
        Nat.pow 10 ((ds.drop 6).take 3).length * 10 ^ (3 - ((ds.drop 6).take 3).length) = 1000 := by
      rw [Nat.pow_eq, ← Nat.pow_add, Nat.add_sub_of_le hthree]
    have hlow' := Nat.mul_le_mul_right (10 ^ (3 - ((ds.drop 6).take 3).length)) hlow
    have hhigh' := Nat.mul_lt_mul_of_pos_right hhigh
      (Nat.pow_pos (by decide) : 0 < 10 ^ (3 - ((ds.drop 6).take 3).length))
    rw [Nat.mul_assoc, hthousand, ← hnanos] at hlow' hhigh'
    rw [hmicros, Nat.div_eq_of_lt_le hlow' hhigh']

theorem IsFraction.blank_not_mem {cs : List Char} {nano : Nat} (h : IsFraction cs nano) : ' ' ∉ cs := by
  cases h with
  | nothing => exact List.not_mem_nil
  | digits _ hds =>
    rw [List.mem_cons, not_or]
    exact ⟨by decide, fun hblank => absurd (hds _ hblank) (by decide)⟩

end TimeReader

namespace Moment

open TimeReader

/-- The point with its fraction cut to whole microseconds. -/
def toMicros (t : Moment) : Moment :=
  { t with
    nano := t.nano / 1000 * 1000
    nano_lt := by
      have := t.nano_lt
      omega
    leap := by
      have := t.leap
      omega }

theorem of?_eq_some_iff {date : Date} {second nano : Nat} {t : Moment} :
    of? date second nano = some t ↔ t.date = date ∧ t.second = second ∧ t.nano = nano := by
  constructor
  · intro h
    obtain ⟨_, ht⟩ := Option.dite_none_right_eq_some.1 h
    obtain rfl := Option.some.inj ht
    exact ⟨rfl, rfl, rfl⟩
  · rintro ⟨rfl, rfl, rfl⟩
    exact dif_pos ⟨t.second_lt, t.nano_lt, t.leap⟩

theorem at?_toMicros {s : Shown} {nano : Nat} {t : Moment} (h : s.at? nano = some t) :
    s.at? (nano / 1000 * 1000) = some t.toMicros := by
  have hmicros : t.toMicros.nano = t.nano / 1000 * 1000 := rfl
  obtain ⟨date, hdate, hclock⟩ := Option.bind_eq_some_iff.1 h
  rw [Shown.at?, hdate, Option.bind_some]
  unfold ofClock? at hclock ⊢
  split at hclock
  · rename_i hsixty
    obtain ⟨rfl, hsecond, hnano⟩ := of?_eq_some_iff.1 hclock
    rw [if_pos hsixty, of?_eq_some_iff, hmicros, hnano]
    exact ⟨rfl, hsecond, by omega⟩
  · rename_i hsixty
    obtain ⟨rfl, hsecond, hnano⟩ := of?_eq_some_iff.1 hclock
    rw [if_neg hsixty, of?_eq_some_iff, hmicros, hnano]
    exact ⟨rfl, hsecond, rfl⟩

theorem exists_of? (t : Moment) {nano : Nat} (hnano : nano < 2000000000)
    (hleap : nano < 1000000000 ∨ t.second % 60 = 59) : ∃ t', of? t.date t.second nano = some t' :=
  ⟨_, dif_pos ⟨t.second_lt, hnano, hleap⟩⟩

/-- Which fraction it is does not matter for there being such a point. -/
theorem exists_at? {s : Shown} {nano : Nat} {t : Moment} (h : s.at? nano = some t) {nano' : Nat}
    (hnano' : nano' < 1000000000) : ∃ t', s.at? nano' = some t' := by
  have hleap := t.leap
  obtain ⟨date, hdate, hclock⟩ := Option.bind_eq_some_iff.1 h
  simp only [Shown.at?, hdate, Option.bind_some]
  unfold ofClock? at hclock ⊢
  split at hclock
  · rename_i hsixty
    obtain ⟨rfl, hsecond, hnano⟩ := of?_eq_some_iff.1 hclock
    rw [if_pos hsixty, ← hsecond]
    exact exists_of? t (by omega) (.inr (by omega))
  · rename_i hsixty
    obtain ⟨rfl, hsecond, hnano⟩ := of?_eq_some_iff.1 hclock
    rw [if_neg hsixty, ← hsecond]
    exact exists_of? t (by omega) (.inl hnano')

/-- Whole microseconds stay as they are. -/
theorem toMicros_of_at? {s : Shown} {nano : Nat} {t : Moment} (hnano : nano % 1000 = 0)
    (h : s.at? nano = some t) : t.toMicros = t := by
  have hmicros := at?_toMicros h
  rw [Nat.div_mul_cancel (Nat.dvd_of_mod_eq_zero hnano), h] at hmicros
  exact (Option.some.inj hmicros).symm

/-! ## The cut -/

theorem cutFraction_of_not_mem {cs : List Char} (h : '.' ∉ cs) : cutFraction cs = cs := by
  rw [cutFraction, Text.splitFirst?_of_not_mem h]

theorem cutFraction_append {whole : List Char} (h : '.' ∉ whole) (fraction : List Char) :
    cutFraction (whole ++ '.' :: fraction) =
      whole ++ '.' :: (firstBytes? 6 fraction).getD fraction := by
  rw [cutFraction, Text.splitFirst?_append h]
  dsimp only
  cases firstBytes? 6 fraction <;> rfl

theorem utf8Size_of_isDigit {c : Char} (h : c.isDigit = true) : c.utf8Size = 1 := by
  have hcode := Text.toNat_of_isDigit h
  rw [Char.utf8Size_eq_one_iff, UInt32.le_iff_toNat_le]
  exact hcode.2.trans (by decide)

/-- Digits that are followed by anything are the first bytes of their number. -/
theorem firstBytes?_append {ds : List Char} (hds : Digits ds) (litter : List Char) :
    firstBytes? ds.length (ds ++ litter) = some ds := by
  induction ds with
  | nil => exact firstBytes?.eq_1 litter
  | cons d ds ih =>
    rw [List.length_cons, List.cons_append, firstBytes?, utf8Size_of_isDigit (hds d List.mem_cons_self),
      if_pos (Nat.le_add_left 1 _), Nat.add_sub_cancel, ih fun c hc => hds c (List.mem_cons_of_mem _ hc)]
    rfl

theorem exists_litter {cs taken : List Char} {n : Nat} (h : firstBytes? n cs = some taken) :
    ∃ litter, cs = taken ++ litter ∧ (Digits taken → taken.length = n) := by
  fun_induction firstBytes? n cs generalizing taken with
  | case1 cs =>
    cases h
    exact ⟨cs, rfl, fun _ => rfl⟩
  | case2 n => cases h
  | case3 n c cs hsize ih =>
    obtain ⟨more, hmore, rfl⟩ := Option.map_eq_some_iff.1 h
    obtain ⟨litter, rfl, hlength⟩ := ih hmore
    refine ⟨litter, rfl, fun hds => ?_⟩
    have hone := utf8Size_of_isDigit (hds c List.mem_cons_self)
    rw [List.length_cons, hlength fun d hd => hds d (List.mem_cons_of_mem _ hd), hone, Nat.add_sub_cancel]
  | case4 n c cs hsize => cases h

theorem firstBytes?_digits {ds : List Char} (hds : Digits ds) (n : Nat) :
    (firstBytes? n ds).getD ds = ds.take n := by
  cases hfirst : firstBytes? n ds with
  | none =>
    rcases Nat.lt_or_ge n ds.length with hlt | hge
    · have htake : Digits (ds.take n) := fun c hc => hds c (List.mem_of_mem_take hc)
      have hall := firstBytes?_append htake (ds.drop n)
      rw [List.take_append_drop, List.length_take_of_le hlt.le, hfirst] at hall
      cases hall
    · rw [Option.getD_none, List.take_of_length_le hge]
  | some taken =>
    obtain ⟨litter, rfl, hlength⟩ := exists_litter hfirst
    rw [← hlength fun c hc => hds c (List.mem_append_left _ hc), Option.getD_some, List.take_left]

/-! ## Columns -/

/-- A date and a time, one after the other, are read up to the second, and then a fraction is: the blank
between them is in no fraction. -/
theorem read_columns_eq_ok_iff {date time : List Char} {t : Moment} :
    read (date ++ ' ' :: time) = .ok t ↔
      ∃ whole f s nano, time = whole ++ f ∧ Shows (date ++ ' ' :: whole) s ∧ IsFraction f nano ∧
        s.at? nano = some t := by
  rw [read_eq_ok_iff]
  constructor
  · rintro ⟨whole, f, s, nano, htext, hshows, hfraction, hat⟩
    have hblank := hfraction.blank_not_mem
    rcases List.append_eq_append_iff.1 htext with ⟨middle, rfl, hmiddle⟩ | ⟨middle, -, rfl⟩
    · rcases List.cons_eq_append_iff.1 hmiddle with ⟨rfl, rfl⟩ | ⟨whole, rfl, htime⟩
      · simp at hblank
      · exact ⟨whole, f, s, nano, htime, hshows, hfraction, hat⟩
    · simp at hblank
  · rintro ⟨whole, f, s, nano, rfl, hshows, hfraction, hat⟩
    exact ⟨date ++ ' ' :: whole, f, s, nano, by simp, hshows, hfraction, hat⟩

theorem Shows.point_not_mem_time {date whole : List Char} {s : Shown} (h : Shows (date ++ ' ' :: whole) s) :
    '.' ∉ whole := by
  have hpoint := h.point_not_mem
  simp only [List.mem_append, List.mem_cons, not_or] at hpoint
  exact hpoint.2.2

/-- A time that can be read whole is accepted, and cut to the microsecond. -/
theorem read_cutFraction {date time : List Char} {t : Moment} (h : read (date ++ ' ' :: time) = .ok t) :
    read (date ++ ' ' :: cutFraction time) = .ok t.toMicros := by
  obtain ⟨whole, f, s, nano, rfl, hshows, hfraction, hat⟩ := read_columns_eq_ok_iff.1 h
  have hpoint := hshows.point_not_mem_time
  rw [read_columns_eq_ok_iff]
  cases hfraction with
  | nothing =>
    rw [List.append_nil, cutFraction_of_not_mem hpoint]
    exact ⟨whole, [], s, 0, (List.append_nil whole).symm, hshows, .nothing, at?_toMicros hat⟩
  | @digits ds hne hds =>
    rw [cutFraction_append hpoint, firstBytes?_digits hds]
    have hcut := at?_toMicros hat
    rw [← nanosOf_take hds] at hcut
    exact ⟨whole, _, s, _, rfl, hshows,
      .digits (by simpa using hne) fun c hc => hds c (List.mem_of_mem_take hc), hcut⟩

/-- Something that is no digit stands in the fraction after six digits, and this much of the time before. -/
def Littered (time kept : List Char) : Prop :=
  ∃ whole micros litter, time = whole ++ '.' :: (micros ++ litter) ∧ '.' ∉ whole ∧ micros.length = 6 ∧
    Digits micros ∧ ¬ Digits litter ∧ kept = whole ++ '.' :: micros

/-- Such a time cannot be read whole. -/
theorem Littered.read_ne {date time kept : List Char} (h : Littered time kept) (t : Moment) :
    read (date ++ ' ' :: time) ≠ .ok t := by
  intro hread
  obtain ⟨whole, micros, litter, rfl, hpoint, -, -, hlitter, -⟩ := h
  obtain ⟨whole', f, s, nano, htime, hshows, hfraction, -⟩ := read_columns_eq_ok_iff.1 hread
  have hpoint' := hshows.point_not_mem_time
  cases hfraction with
  | nothing =>
    rw [List.append_nil] at htime
    simp [← htime] at hpoint'
  | @digits ds hne hds =>
    have hsplit := Text.splitFirst?_append hpoint (micros ++ litter)
    rw [htime, Text.splitFirst?_append hpoint'] at hsplit
    cases hsplit
    exact hlitter fun c hc => hds c (List.mem_append_right _ hc)

theorem Littered.cutFraction_eq {time kept : List Char} (h : Littered time kept) :
    cutFraction time = kept := by
  obtain ⟨whole, micros, litter, rfl, hpoint, hsix, hmicros, -, rfl⟩ := h
  rw [cutFraction_append hpoint, ← hsix, firstBytes?_append hmicros, Option.getD_some]

/-- What is accepted after the cut is whole microseconds, of a time that can be read whole or of a littered
one. -/
theorem cutFraction_cases {date time : List Char} {t : Moment}
    (h : read (date ++ ' ' :: cutFraction time) = .ok t) :
    t.toMicros = t ∧
      ((∃ t', read (date ++ ' ' :: time) = .ok t') ∨ Littered time (cutFraction time)) := by
  obtain ⟨whole, f, s, nano, hcut, hshows, hfraction, hat⟩ := read_columns_eq_ok_iff.1 h
  have hpoint := hshows.point_not_mem_time
  by_cases hnone : '.' ∈ time
  · obtain ⟨before, fraction, rfl, hbefore⟩ := List.eq_append_cons_of_mem hnone
    rw [cutFraction_append hbefore] at hcut
    cases hfraction with
    | nothing =>
      rw [List.append_nil] at hcut
      simp [← hcut] at hpoint
    | @digits ds hne hds =>
      have hsplit := Text.splitFirst?_append hbefore ((firstBytes? 6 fraction).getD fraction)
      rw [hcut, Text.splitFirst?_append hpoint] at hsplit
      obtain ⟨rfl, rfl⟩ := Prod.mk.inj (Option.some.inj hsplit)
      cases hfirst : firstBytes? 6 fraction with
      | none =>
        -- nothing was cut
        rw [hfirst, Option.getD_none] at hds hat
        have hshort := firstBytes?_digits hds 6
        rw [hfirst, Option.getD_none] at hshort
        have hlength := congrArg List.length hshort
        rw [List.length_take] at hlength
        refine ⟨toMicros_of_at? (nanosOf_mod (by omega)) hat, .inl ⟨t, ?_⟩⟩
        rwa [cutFraction_append hbefore, hfirst] at h
      | some micros =>
        rw [hfirst, Option.getD_some] at hds hat
        obtain ⟨litter, rfl, hlength⟩ := exists_litter hfirst
        refine ⟨toMicros_of_at? (nanosOf_mod (hlength hds).le) hat, ?_⟩
        by_cases hlitter : Digits litter
        · left
          have hall : Digits (micros ++ litter) := fun c hc =>
            (List.mem_append.1 hc).elim (hds c) (hlitter c)
          obtain ⟨t', hat'⟩ := exists_at? hat (nanosOf_lt hall)
          rw [hfirst, Option.getD_some] at hne
          exact ⟨t', read_columns_eq_ok_iff.2 ⟨_, _, s, _, rfl, hshows, .digits (by simp [hne]) hall, hat'⟩⟩
        · right
          rw [cutFraction_append hbefore, hfirst]
          exact ⟨_, micros, litter, rfl, hbefore, hlength hds, hds, hlitter, rfl⟩
  · have hsame : cutFraction time = time := cutFraction_of_not_mem hnone
    rw [hsame] at h
    refine ⟨?_, .inl ⟨t, h⟩⟩
    cases hfraction with
    | nothing => exact toMicros_of_at? rfl hat
    | digits =>
      rw [hsame] at hcut
      simp [hcut] at hnone

/-! ## The time of a row -/

theorem ofColumns_eq_ok_iff_read {date time : String} {t : Moment} :
    ofColumns date time = .ok t ↔ read (date.toList ++ ' ' :: cutFraction time.toList) = .ok t := by
  rw [ofColumns, String.toList_ofList]
  cases read (date.toList ++ ' ' :: cutFraction time.toList) <;> simp

/-- A row's time is what its columns name when they are read whole, cut to the microsecond; and besides it is
what is left of a littered time, which cannot be read whole. -/
theorem ofColumns_eq_ok_iff {date time : String} {t : Moment} :
    ofColumns date time = .ok t ↔
      (∃ t', read (date.toList ++ ' ' :: time.toList) = .ok t' ∧ t = t'.toMicros) ∨
        ∃ kept, Littered time.toList kept ∧ read (date.toList ++ ' ' :: kept) = .ok t ∧
          ∀ t', read (date.toList ++ ' ' :: time.toList) ≠ .ok t' := by
  rw [ofColumns_eq_ok_iff_read]
  constructor
  · intro h
    rcases (cutFraction_cases h).2 with ⟨t', hwhole⟩ | hlittered
    · have hcut := read_cutFraction hwhole
      rw [h] at hcut
      exact .inl ⟨t', hwhole, Except.ok.inj hcut⟩
    · exact .inr ⟨_, hlittered, h, hlittered.read_ne⟩
  · rintro (⟨t', hwhole, rfl⟩ | ⟨kept, hlittered, hkept, -⟩)
    · exact read_cutFraction hwhole
    · rwa [hlittered.cutFraction_eq]

/-- A letter after six digits is dropped: the time is accepted, although it cannot be read whole. -/
theorem ofColumns_litter :
    (∃ t, ofColumns "2024-01-15" "10:20:30.123456x" = .ok t ∧ t.nano = 123456000) ∧
      read "2024-01-15 10:20:30.123456x".toList = .error .trailing :=
  ⟨⟨_, rfl, rfl⟩, rfl⟩

end Moment

end DeviceBench
