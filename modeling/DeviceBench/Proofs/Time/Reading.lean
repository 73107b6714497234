/-
How civil times are read. What stands before the fraction of a second is read alike whether the text ends
there or a point follows; and a fraction is a point with digits up to the end of the text.
-/
import DeviceBench.Proofs.Text.Digits
import DeviceBench.Time.Reading
import Mathlib.Data.List.TakeWhile

namespace DeviceBench

open Text (Digits)

namespace TimeReader

variable {α β : Type} {x : TimeReader α} {f : α → TimeReader β} {cs rest : List Char}

theorem run_bind {a : α} (h : x.run cs = .ok (a, rest)) : (x >>= f).run cs = (f a).run rest := by
  rw [StateT.run_bind, h]
  rfl

theorem run_bind_eq_ok_iff {b : β} :
    (x >>= f).run cs = .ok (b, rest) ↔
      ∃ a mid, x.run cs = .ok (a, mid) ∧ (f a).run mid = .ok (b, rest) := by
  rw [StateT.run_bind, bind_eq_ok_iff]
  constructor
  · rintro ⟨⟨a, mid⟩, hx, hf⟩
    exact ⟨a, mid, hx, hf⟩
  · rintro ⟨a, mid, hx, hf⟩
    exact ⟨(a, mid), hx, hf⟩

/-! ## Numbers -/

section Number

variable {width : Option Nat} {ds : List Char}

/-- The digits are all that a number of this width takes off the text. -/
structure Takes (width : Option Nat) (ds rest : List Char) : Prop where
  digits : Digits ds
  ne_nil : ds ≠ []
  length_le : ∀ w ∈ width, ds.length ≤ w
  ends : width = some ds.length ∨ ∀ c ∈ rest.head?, c.isDigit = false

/-- The characters that a number of this width can reach. -/
def reach (width : Option Nat) (cs : List Char) : List Char :=
  match width with
  | some w => cs.take w
  | none => cs

theorem reach_prefix (width : Option Nat) (cs : List Char) : reach width cs <+: cs := by
  cases width with
  | none => exact List.prefix_refl cs
  | some w => exact List.take_prefix w cs

/-- A number reaches as far as its width allows, or to the end of the text. -/
theorem reach_ends {beyond : List Char} (h : reach width cs ++ beyond = cs) :
    width = some (reach width cs).length ∨ beyond = [] := by
  cases width with
  | none => exact .inr (by simpa [reach] using h)
  | some w =>
    rcases Nat.lt_or_ge w cs.length with hlt | hge
    · exact .inl (by rw [reach, List.length_take_of_le hlt.le])
    · exact .inr (by simpa [reach, List.take_of_length_le hge] using h)

theorem Takes.takeWhile (h : Takes width ds rest) :
    (reach width (ds ++ rest)).takeWhile Char.isDigit = ds := by
  have hds : (ds ++ ([] : List Char)).takeWhile Char.isDigit = ds := by
    rw [List.append_nil]
    exact List.takeWhile_eq_self_iff.2 h.digits
  have hrest (hends : ∀ c ∈ rest.head?, c.isDigit = false) (n : Nat) :
      (rest.take n).takeWhile Char.isDigit = [] := by
    cases rest with
    | nil => simp
    | cons c rest =>
      cases n with
      | zero => rfl
      | succ n => exact List.takeWhile_cons_of_neg (by simp [hends c rfl])
  cases width with
  | none =>
    have hnone := hrest (h.ends.resolve_left nofun) rest.length
    rw [List.take_length] at hnone
    rw [reach, List.takeWhile_append_of_pos h.digits, hnone, List.append_nil]
  | some w =>
    have hle := h.length_le w rfl
    rw [reach, List.take_append, List.take_of_length_le hle, List.takeWhile_append_of_pos h.digits]
    rcases h.ends with hfull | hends
    · cases hfull
      simp
    · rw [hrest hends, List.append_nil]

/-- What a number takes off a text that starts with a digit. -/
theorem exists_takes {c : Char} (cs : List Char) (hwidth : width ≠ some 0) (hc : c.isDigit = true) :
    ∃ ds rest, c :: cs = ds ++ rest ∧ Takes width ds rest := by
  have hsplit := List.takeWhile_append_dropWhile (p := Char.isDigit) (l := reach width (c :: cs))
  obtain ⟨beyond, hbeyond⟩ := reach_prefix width (c :: cs)
  have hfirst : ∃ more, reach width (c :: cs) = c :: more := by
    cases width with
    | none => exact ⟨cs, rfl⟩
    | some w =>
      obtain ⟨n, rfl⟩ := Nat.exists_eq_succ_of_ne_zero fun h => hwidth (congrArg some h)
      exact ⟨cs.take n, rfl⟩
  refine ⟨_, _, by rw [← List.append_assoc, hsplit, hbeyond], ?_, ?_, ?_, ?_⟩
  · exact fun d hd => (List.mem_takeWhile_imp hd)
  · obtain ⟨more, hmore⟩ := hfirst
    simp [hmore, hc]
  · rintro w ⟨⟩
    exact Nat.le_trans (List.takeWhile_prefix _).length_le (List.length_take_le w _)
  · -- it ends at a character that is no digit, or where the reach ends
    cases hstop : (reach width (c :: cs)).dropWhile Char.isDigit with
    | cons d more =>
      refine .inr ?_
      rintro _ ⟨⟩
      have hnot := List.head?_dropWhile_not Char.isDigit (reach width (c :: cs))
      rw [hstop] at hnot
      exact hnot
    | nil =>
      rw [hstop, List.append_nil] at hsplit
      rw [hsplit, List.nil_append]
      refine (reach_ends hbeyond).imp_right ?_
      rintro rfl
      simp

theorem Takes.run_number (h : Takes width ds rest) :
    (number width).run (ds ++ rest) =
      if maxTimeNumber < Nat.ofDigitChars 10 ds 0 then .error .outOfRange
      else .ok (Nat.ofDigitChars 10 ds 0, rest) := by
  have hfold : ds.foldl (fun n c => n * 10 + (c.toNat - '0'.toNat)) 0 = Nat.ofDigitChars 10 ds 0 := by
    simp only [Nat.ofDigitChars_eq_foldl, Nat.mul_comm]
  have htake := h.takeWhile
  obtain ⟨d, ds, rfl⟩ := List.exists_cons_of_ne_nil h.ne_nil
  have hd : d.isDigit = true := h.digits d List.mem_cons_self
  have hdrop : (d :: (ds ++ rest)).drop (d :: ds).length = rest := List.drop_left
  unfold reach at htake
  rw [List.cons_append] at htake ⊢
  rw [number, run_bind rfl]
  cases width <;>
  · dsimp only at htake ⊢
    rw [htake, hfold, hdrop, hd]
    by_cases hmax : maxTimeNumber < Nat.ofDigitChars 10 (d :: ds) 0
    · simp only [if_pos hmax]
      rfl
    · simp only [if_neg hmax]
      rfl

/-- A number is read exactly where digits stand whose value is not too great. -/
theorem run_number_eq_ok_iff (hwidth : width ≠ some 0) {n : Nat} :
    (number width).run cs = .ok (n, rest) ↔
      ∃ ds, cs = ds ++ rest ∧ Takes width ds rest ∧ n = Nat.ofDigitChars 10 ds 0 ∧ n ≤ maxTimeNumber := by
  constructor
  · intro h
    cases cs with
    | nil => cases h
    | cons c cs =>
      by_cases hc : c.isDigit = true
      · obtain ⟨ds, rest', hcs, htakes⟩ := exists_takes cs hwidth hc
        rw [hcs, htakes.run_number] at h
        split at h
        · cases h
        · rename_i hmax
          cases h
          exact ⟨ds, hcs, htakes, rfl, Nat.not_lt.1 hmax⟩
      · rw [number, run_bind rfl] at h
        simp only [hc] at h
        cases h
  · rintro ⟨ds, rfl, htakes, rfl, hmax⟩
    rw [htakes.run_number, if_neg (Nat.not_lt.2 hmax)]

end Number

/-! ## Marks and blanks -/

theorem run_mark (c : Char) (cs : List Char) : (mark c).run (c :: cs) = .ok ((), cs) := by
  rw [mark, run_bind rfl]
  exact congrArg (StateT.run · (c :: cs)) (if_pos rfl)

theorem eq_cons_of_run_mark {c : Char} (h : (mark c).run cs = .ok ((), rest)) : cs = c :: rest := by
  cases cs with
  | nil => cases h
  | cons c' cs =>
    rw [mark, run_bind rfl] at h
    dsimp only at h
    split at h
    · rename_i heq
      cases h
      rw [heq]
    · cases h

theorem run_blanks {c : Char} (hc : Text.isBlank c = false) (cs : List Char) :
    blanks.run (c :: cs) = .ok ((), c :: cs) := by
  have hdrop : Text.dropBlank (c :: cs) = c :: cs := List.dropWhile_cons_of_neg (by simp [hc])
  exact congrArg (fun cs => Except.ok ((), cs)) hdrop

theorem run_blanks_nil : blanks.run [] = .ok ((), []) := rfl

/-! ## What is read whatever follows -/

/-- The text stops here, or a point follows. -/
def Stops (cs : List Char) : Prop := ∀ c ∈ cs.head?, c = '.'

/-- The reader takes off no point, and it takes off the same from a text that goes on with the same
character, or stops. -/
def Steady (x : TimeReader α) : Prop :=
  ∀ ⦃cs a rest⦄, x.run cs = .ok (a, rest) → ∃ taken, cs = taken ++ rest ∧ '.' ∉ taken ∧
    ∀ rest' : List Char, rest'.head? = rest.head? ∨ Stops rest' → x.run (taken ++ rest') = .ok (a, rest')

theorem steady_pure (a : α) : Steady (pure a : TimeReader α) := by
  rintro cs b rest ⟨⟩
  exact ⟨[], rfl, List.not_mem_nil, fun _ _ => rfl⟩

theorem steady_throw (fault : TimeFault) : Steady (throw fault : TimeReader α) := nofun

theorem Steady.bind (hx : Steady x) (hf : ∀ a, Steady (f a)) : Steady (x >>= f) := by
  intro cs b rest h
  obtain ⟨a, mid, ha, hb⟩ := run_bind_eq_ok_iff.1 h
  obtain ⟨first, rfl, hfirst, hsame⟩ := hx ha
  obtain ⟨second, rfl, hsecond, hsame'⟩ := hf a hb
  refine ⟨first ++ second, (List.append_assoc ..).symm, by simp [hfirst, hsecond], ?_⟩
  intro rest' hrest
  rw [List.append_assoc, run_bind (hsame (second ++ rest') ?_), hsame' rest' hrest]
  cases second with
  | nil => exact hrest
  | cons c second => exact .inl rfl

theorem Steady.check (hx : Steady x) (p : Prop) [Decidable p] (fault : TimeFault) :
    Steady (if p then throw fault >>= fun _ : PUnit => x else x) := by
  split
  · exact (steady_throw fault).bind fun _ => hx
  · exact hx

theorem steady_blanks : Steady blanks := by
  intro cs a rest h
  have hrest : cs.dropWhile Text.isBlank = rest := by
    cases h
    rfl
  have hsplit := List.takeWhile_append_dropWhile (p := Text.isBlank) (l := cs)
  rw [hrest] at hsplit
  refine ⟨_, hsplit.symm, fun hpoint => absurd (List.mem_takeWhile_imp hpoint) (by decide), ?_⟩
  intro rest' hsame
  -- what follows starts with no blank
  have hhead : ∀ c ∈ rest'.head?, Text.isBlank c = false := by
    intro c hc
    rcases hsame with hsame | hstops
    · have hnot := List.head?_dropWhile_not Text.isBlank cs
      rw [hrest, ← hsame, Option.mem_def.1 hc] at hnot
      exact hnot
    · rw [hstops c hc]
      decide
  have hstop : rest'.dropWhile Text.isBlank = rest' := by
    cases rest' with
    | nil => rfl
    | cons c rest' => exact List.dropWhile_cons_of_neg (by simp [hhead c rfl])
  have hdrop : Text.dropBlank (cs.takeWhile Text.isBlank ++ rest') = rest' := by
    rw [Text.dropBlank, List.dropWhile_append_of_pos fun c hc => List.mem_takeWhile_imp hc, hstop]
  exact congrArg (fun cs => Except.ok ((), cs)) hdrop

theorem steady_mark {c : Char} (hc : c ≠ '.') : Steady (mark c) := by
  intro cs a rest h
  exact ⟨[c], eq_cons_of_run_mark h, by simp [hc.symm], fun rest' _ => run_mark c rest'⟩

theorem steady_number (width : Option Nat) (hwidth : width ≠ some 0) : Steady (number width) := by
  intro cs n rest h
  obtain ⟨ds, rfl, htakes, rfl, hmax⟩ := (run_number_eq_ok_iff hwidth).1 h
  refine ⟨ds, rfl, fun hpoint => absurd (htakes.digits _ hpoint) (by decide), ?_⟩
  intro rest' hsame
  refine (run_number_eq_ok_iff hwidth).2
    ⟨ds, rfl, ⟨htakes.digits, htakes.ne_nil, htakes.length_le, ?_⟩, rfl, hmax⟩
  rcases hsame with hsame | hstops
  · rw [hsame]
    exact htakes.ends
  · right
    intro c hc
    rw [hstops c hc]
    decide

theorem steady_field (low high : Nat) : Steady (field low high) :=
  steady_blanks.bind fun _ => (steady_number _ (by decide)).bind fun n => (steady_pure n).check _ _

theorem steady_year : Steady year := by
  have hrange (y : Int) : Steady (if y < -2147483648 ∨ 2147483647 < y then
      throw .outOfRange >>= fun _ : PUnit => pure y else pure y : TimeReader Int) :=
    (steady_pure y).check _ _
  refine steady_blanks.bind fun _ => ?_
  intro cs y rest h
  rw [run_bind rfl] at h
  dsimp only at h
  split at h
  · have hsigned := (steady_number none nofun).bind fun n => hrange (-(n : Int))
    obtain ⟨taken, rfl, hpoint, hsame⟩ := hsigned h
    exact ⟨'-' :: taken, rfl, by simp [hpoint], fun rest' hrest => hsame rest' hrest⟩
  · have hsigned := (steady_number none nofun).bind fun n => hrange (n : Int)
    obtain ⟨taken, rfl, hpoint, hsame⟩ := hsigned h
    exact ⟨'+' :: taken, rfl, by simp [hpoint], fun rest' hrest => hsame rest' hrest⟩
  · rename_i hminus hplus
    have hplain := (steady_number (some 4) (by decide)).bind fun n => hrange (n : Int)
    obtain ⟨taken, rfl, hpoint, hsame⟩ := hplain h
    refine ⟨taken, rfl, hpoint, fun rest' hrest => ?_⟩
    -- no sign has come to stand in front
    have hsign {c : Char} {cs : List Char} (hc : c ≠ '.') (heq : taken ++ rest' = c :: cs) :
        ∃ cs', taken ++ rest = c :: cs' := by
      cases taken with
      | cons d taken =>
        obtain ⟨rfl, -⟩ := List.cons.inj heq
        exact ⟨taken ++ rest, rfl⟩
      | nil =>
        have hhead : rest'.head? = some c := congrArg List.head? heq
        rcases hrest with hsame | hstops
        · rw [hsame] at hhead
          exact List.head?_eq_some_iff.1 hhead
        · exact absurd (hstops c hhead) hc
    rw [run_bind rfl]
    dsimp only
    split
    · rename_i heq
      obtain ⟨cs', hcs⟩ := hsign (by decide) heq
      exact (hminus cs' hcs).elim
    · rename_i heq
      obtain ⟨cs', hcs⟩ := hsign (by decide) heq
      exact (hplus cs' hcs).elim
    · exact hsame rest' hrest

/-! ## What a text shows -/

/-- What a text shows before the fraction of a second. -/
structure Shown where
  year : Int
  month : Nat
  day : Nat
  hour : Nat
  minute : Nat
  second : Nat

/-- The point with this many nanoseconds after what is shown. -/
def Shown.at? (s : Shown) (nano : Nat) : Option Moment :=
  (Date.of? s.year s.month s.day).bind fun date => Moment.ofClock? date s.hour s.minute s.second nano

/-- The part of the reading before the fraction. -/
def shown : TimeReader Shown := do
  let y ← year
  mark '-'
  let m ← field 1 12
  mark '-'
  let d ← field 1 31
  blanks
  let hour ← field 0 23
  mark ':'
  let minute ← field 0 59
  mark ':'
  let second ← field 0 60
  return ⟨y, m, d, hour, minute, second⟩

theorem steady_shown : Steady shown :=
  steady_year.bind fun _ => (steady_mark (by decide)).bind fun _ =>
    (steady_field 1 12).bind fun _ => (steady_mark (by decide)).bind fun _ =>
      (steady_field 1 31).bind fun _ => steady_blanks.bind fun _ =>
        (steady_field 0 23).bind fun _ => (steady_mark (by decide)).bind fun _ =>
          (steady_field 0 59).bind fun _ => (steady_mark (by decide)).bind fun _ =>
            (steady_field 0 60).bind fun _ => steady_pure _

/-- The rest of the reading. -/
def ending (s : Shown) : TimeReader Moment := do
  let nano ← fraction
  finish
  match s.at? nano with
  | some t => return t
  | none => throw .outOfRange

theorem dateAndTime_eq : dateAndTime = shown >>= ending := by
  simp only [shown, bind_assoc, pure_bind]
  rfl

/-! ## Fractions -/

/-- The nanoseconds of a fraction with these digits, of which nine count. -/
def nanosOf (ds : List Char) : Nat :=
  Nat.ofDigitChars 10 (ds.take 9) 0 * Nat.pow 10 (9 - (ds.take 9).length)

/-- The text is a fraction of a second, or nothing. -/
inductive IsFraction : List Char → Nat → Prop where
  | nothing : IsFraction [] 0
  | digits {ds : List Char} (hne : ds ≠ []) (hds : Digits ds) : IsFraction ('.' :: ds) (nanosOf ds)

theorem IsFraction.stops {cs : List Char} {nano : Nat} (h : IsFraction cs nano) : Stops cs := by
  cases h with
  | nothing => nofun
  | digits =>
    rintro _ ⟨⟩
    rfl

theorem run_fraction_point {nano : Nat} :
    fraction.run ('.' :: cs) = .ok (nano, []) ↔ cs ≠ [] ∧ Digits cs ∧ nano = nanosOf cs := by
  have hrun : fraction.run ('.' :: cs) =
      (number (some 9) >>= fun n => do
        let rest ← get
        modify (·.dropWhile Char.isDigit)
        return n * Nat.pow 10 (9 - (cs.length - rest.length)) : TimeReader Nat).run cs := rfl
  rw [hrun, run_bind_eq_ok_iff]
  constructor
  · rintro ⟨n, mid, hnumber, hrest⟩
    obtain ⟨ds, rfl, htakes, rfl, -⟩ := (run_number_eq_ok_iff (by decide)).1 hnumber
    obtain ⟨hnano, hskip⟩ := Prod.mk.inj (Except.ok.inj hrest)
    have hmid : Digits mid := List.dropWhile_eq_nil_iff.1 hskip
    -- more digits follow only where nine have been taken
    have htaken : (ds ++ mid).take 9 = ds := by
      cases mid with
      | nil => rw [List.append_nil, List.take_of_length_le (htakes.length_le 9 rfl)]
      | cons c mid =>
        rcases htakes.ends with hfull | hends
        · rw [Option.some.inj hfull, List.take_left]
        · exact absurd (hmid c List.mem_cons_self) (by simp [hends c rfl])
    refine ⟨by simp [htakes.ne_nil], ?_, ?_⟩
    · intro c hc
      rcases List.mem_append.1 hc with hc | hc
      · exact htakes.digits c hc
      · exact hmid c hc
    · rw [nanosOf, htaken, ← hnano, List.length_append, Nat.add_sub_cancel]
  · rintro ⟨hne, hds, rfl⟩
    have htakes : Takes (some 9) (cs.take 9) (cs.drop 9) := by
      refine ⟨fun c hc => hds c (List.mem_of_mem_take hc), by simpa using hne, ?_, ?_⟩
      · rintro w ⟨⟩
        exact List.length_take_le 9 cs
      · rcases Nat.lt_or_ge cs.length 9 with hshort | hlong
        · right
          simp [List.drop_of_length_le hshort.le]
        · left
          rw [List.length_take_of_le hlong]
    have hvalue : Nat.ofDigitChars 10 (cs.take 9) 0 ≤ maxTimeNumber := by
      have hlt := (Text.ofDigitChars_bounds htakes.digits 0).2
      have hpow : Nat.pow 10 (cs.take 9).length ≤ Nat.pow 10 9 :=
        Nat.pow_le_pow_right (by decide) (List.length_take_le 9 cs)
      have hmax : Nat.pow 10 9 ≤ maxTimeNumber := by decide
      omega
    refine ⟨_, cs.drop 9, (run_number_eq_ok_iff (by decide)).2
      ⟨_, (List.take_append_drop 9 cs).symm, htakes, rfl, hvalue⟩, ?_⟩
    have hskip : (cs.drop 9).dropWhile Char.isDigit = [] :=
      List.dropWhile_eq_nil_iff.2 fun c hc => hds c (List.mem_of_mem_drop hc)
    have hread : cs.length - (cs.drop 9).length = (cs.take 9).length := by
      rw [List.length_drop, List.length_take]
      omega
    show Except.ok (_ * Nat.pow 10 (9 - (cs.length - (cs.drop 9).length)),
      (cs.drop 9).dropWhile Char.isDigit) = _
    rw [hskip, hread, nanosOf]

/-- What stands after the second is read to its end exactly if it is a fraction. -/
theorem run_fraction_eq_ok_iff {nano : Nat} : fraction.run cs = .ok (nano, []) ↔ IsFraction cs nano := by
  constructor
  · intro h
    rcases cs with _ | ⟨c, cs⟩
    · cases h
      exact .nothing
    · by_cases hc : c = '.'
      · subst hc
        obtain ⟨hne, hds, rfl⟩ := run_fraction_point.1 h
        exact .digits hne hds
      · rw [fraction, run_bind rfl] at h
        dsimp only at h
        split at h
        · rename_i heq
          exact absurd (List.cons.inj heq).1 hc
        · cases h
  · rintro (_ | ⟨hne, hds⟩)
    · rfl
    · exact run_fraction_point.2 ⟨hne, hds, rfl⟩

theorem run_ending_eq_ok_iff {s : Shown} {t : Moment} :
    (∃ left, (ending s).run cs = .ok (t, left)) ↔ ∃ nano, IsFraction cs nano ∧ s.at? nano = some t := by
  constructor
  · rintro ⟨left, h⟩
    obtain ⟨nano, rest, hfraction, h⟩ := run_bind_eq_ok_iff.1 h
    obtain ⟨_, rest', hfinish, h⟩ := run_bind_eq_ok_iff.1 h
    obtain rfl : rest = [] := by
      cases rest with
      | nil => rfl
      | cons c rest => cases hfinish
    refine ⟨nano, run_fraction_eq_ok_iff.1 hfraction, ?_⟩
    cases hat : s.at? nano with
    | none =>
      rw [hat] at h
      cases h
    | some t' =>
      rw [hat] at h
      cases h
      rfl
  · rintro ⟨nano, hfraction, hat⟩
    refine ⟨[], ?_⟩
    rw [ending, run_bind (run_fraction_eq_ok_iff.2 hfraction), run_bind rfl, hat]
    rfl

end TimeReader

namespace Moment

open TimeReader

/-- The text shows this up to the second, whatever fraction follows. -/
structure Shows (cs : List Char) (s : Shown) : Prop where
  point_not_mem : '.' ∉ cs
  run_shown : ∀ rest, Stops rest → shown.run (cs ++ rest) = .ok (s, rest)

theorem read_eq_ok_iff {cs : List Char} {t : Moment} :
    read cs = .ok t ↔
      ∃ whole f s nano, cs = whole ++ f ∧ Shows whole s ∧ IsFraction f nano ∧ s.at? nano = some t := by
  have hread : read cs = .ok t ↔ ∃ left, dateAndTime.run cs = .ok (t, left) := by
    unfold read
    cases dateAndTime.run cs with
    | error fault => simp [Except.map]
    | ok result => simp [Except.map, Prod.ext_iff]
  rw [hread, dateAndTime_eq]
  constructor
  · rintro ⟨left, h⟩
    obtain ⟨s, f, hshown, hending⟩ := run_bind_eq_ok_iff.1 h
    obtain ⟨nano, hfraction, hat⟩ := run_ending_eq_ok_iff.1 ⟨left, hending⟩
    obtain ⟨whole, rfl, hpoint, hsame⟩ := steady_shown hshown
    exact ⟨whole, f, s, nano, rfl, ⟨hpoint, fun rest hrest => hsame rest (.inr hrest)⟩, hfraction, hat⟩
  · rintro ⟨whole, f, s, nano, rfl, hshows, hfraction, hat⟩
    rw [run_bind (hshows.run_shown f hfraction.stops)]
    exact run_ending_eq_ok_iff.2 ⟨nano, hfraction, hat⟩

end Moment

end DeviceBench
