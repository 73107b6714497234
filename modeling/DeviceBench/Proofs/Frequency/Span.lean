/-
The span of a capture: the time from the earliest to the latest row. It is positive as soon as two rows have
different times, unless the leap second that the earliest is in overtakes the latest, or 64 bits do not hold
the microseconds.
-/
import DeviceBench.Proofs.Frequency.Rows
import DeviceBench.Proofs.Frequency.Tallies
import DeviceBench.Proofs.Time.Elapsed
import DeviceBench.Proofs.Time.Fractions

namespace DeviceBench

/-- The times of rows are whole microseconds. -/
theorem Row.Reads.nano_mod {valueColumn : Nat} {r : Row} {read : Moment × String}
    (h : r.Reads valueColumn read) : read.1.nano % 1000 = 0 := by
  obtain ⟨texts, date, time, -, -, -, hmoment, -⟩ := h
  have hmicros := (Moment.cutFraction_cases (Moment.ofColumns_eq_ok_iff_read.1 hmoment)).1
  have hnano : read.1.nano / 1000 * 1000 = read.1.nano := congrArg Moment.nano hmicros
  omega

theorem Row.nano_mod_of_forall₂ {valueColumn : Nat} {rs : List Row} {rows : List (Moment × String)}
    (h : List.Forall₂ (Row.Reads valueColumn) rs rows) : ∀ row ∈ rows, row.1.nano % 1000 = 0 := by
  induction h with
  | nil => simp
  | cons hread _ ih =>
    rw [List.forall_mem_cons]
    exact ⟨hread.nano_mod, ih⟩

namespace FrequencyTable

theorem exists_rate_iff (table : FrequencyTable) (n : Nat) :
    (∃ rate, table.rate? n = some rate) ↔ 0 < table.spanMicros := by
  by_cases h : 0 < table.spanMicros <;> simp [rate?, h]

/-- The microseconds that 64 bits hold, in nanoseconds. -/
def maxSpanNanos : Int := 9223372036854775807000

section Rows

variable {rows : List (Moment × String)} {table : FrequencyTable} (h : Tallies rows table)

include h

/-- The range of rows has their times: rows have different ones exactly if the earliest comes before the
latest. -/
theorem Tallies.exists_ne_iff {first last : Moment} (hrange : table.range = some (first, last)) :
    (∃ a ∈ rows, ∃ b ∈ rows, a.1 ≠ b.1) ↔ first < last := by
  obtain ⟨hfirst, hleast⟩ := h.first _ hrange
  obtain ⟨hlast, hgreatest⟩ := h.last _ hrange
  constructor
  · rintro ⟨a, ha, b, hb, hne⟩
    have hle {c : Moment × String} (hc : c ∈ rows) : first ≤ c.1 ∧ c.1 ≤ last :=
      ⟨hleast (List.mem_map_of_mem hc), hgreatest (List.mem_map_of_mem hc)⟩
    refine ((hle ha).1.trans (hle ha).2).lt_of_ne fun hsame => hne ?_
    have heq {c : Moment × String} (hc : c ∈ rows) : c.1 = first :=
      le_antisymm (hsame ▸ (hle hc).2) (hle hc).1
    rw [heq ha, heq hb]
  · intro hlt
    obtain ⟨a, ha, hfirst⟩ := List.mem_map.1 hfirst
    obtain ⟨b, hb, hlast⟩ := List.mem_map.1 hlast
    exact ⟨a, ha, b, hb, by rw [hfirst, hlast]; exact hlt.ne⟩

/-- The span is the time between its ends, up to the microseconds that 64 bits hold. -/
theorem Tallies.exists_span (hmicros : ∀ row ∈ rows, row.1.nano % 1000 = 0) {first last : Moment}
    (hrange : table.range = some (first, last)) :
    first ≤ last ∧ ∃ micros, last.nanosSince first = 1000 * micros ∧
      table.spanMicros = if micros ≤ 9223372036854775807 then micros else 0 := by
  obtain ⟨hfirst, hleast⟩ := h.first _ hrange
  have hlast := (h.last _ hrange).1
  have hle : first ≤ last := hleast hlast
  obtain ⟨a, ha, rfl⟩ := List.mem_map.1 hfirst
  obtain ⟨b, hb, rfl⟩ := List.mem_map.1 hlast
  obtain ⟨micros, helapsed⟩ := Moment.exists_micros (hmicros b hb) (hmicros a ha)
  refine ⟨hle, micros, helapsed, ?_⟩
  have hlow := Moment.lt_nanosSince hle
  have hcut : (1000 * micros).tdiv 1000 = micros := Int.mul_tdiv_cancel_left micros (by decide)
  simp only [spanMicros, hrange, Moment.microsSince?, helapsed, hcut]
  split
  · rw [if_pos (by omega)]
    rfl
  · rw [if_neg (by omega)]
    rfl

theorem Tallies.span_pos_iff (hmicros : ∀ row ∈ rows, row.1.nano % 1000 = 0) {first last : Moment}
    (hrange : table.range = some (first, last)) :
    0 < table.spanMicros ↔
      first < last ∧ ¬ first.Overtaken last ∧ last.nanosSince first ≤ maxSpanNanos := by
  obtain ⟨hle, micros, helapsed, hspan⟩ := h.exists_span hmicros hrange
  rw [hspan, maxSpanNanos]
  rcases hle.eq_or_lt with rfl | hlt
  · -- all rows have one time
    rw [Moment.nanosSince_self] at helapsed
    obtain rfl : micros = 0 := by omega
    simp
  · rw [← Moment.nanosSince_pos_iff hlt, helapsed]
    simp only [hlt, true_and]
    split <;> omega

theorem Tallies.span_neg_iff (hmicros : ∀ row ∈ rows, row.1.nano % 1000 = 0) {first last : Moment}
    (hrange : table.range = some (first, last)) :
    table.spanMicros < 0 ↔ first.Overtaken last ∧ 1000000000 + last.nano < first.nano := by
  obtain ⟨hle, micros, helapsed, hspan⟩ := h.exists_span hmicros hrange
  rw [hspan]
  constructor
  · intro hneg
    have hbackwards : last.nanosSince first < 0 := by
      rw [helapsed]
      split at hneg <;> omega
    have hlt : first < last := by
      refine hle.lt_of_ne ?_
      rintro rfl
      rw [Moment.nanosSince_self] at hbackwards
      cases hbackwards
    have hovertaken : first.Overtaken last :=
      not_not.1 fun hnot => hbackwards.asymm (Moment.nanosSince_pos hlt hnot)
    rw [hovertaken.nanosSince_eq] at hbackwards
    exact ⟨hovertaken, by omega⟩
  · rintro ⟨hovertaken, hmore⟩
    rw [hovertaken.nanosSince_eq] at helapsed
    rw [if_pos (by omega)]
    omega

end Rows

/-- The span of a capture is positive, and there are rates, exactly if two rows have different times, no leap
second overtakes the latest, and 64 bits hold the microseconds. It is negative exactly if the latest row is
overtaken by some part of a second. -/
theorem ofBytes_span {bytes : Bytes} {valueColumn : Nat} {table : FrequencyTable}
    (h : ofBytes bytes valueColumn = .ok table) :
    ∃ rows, List.Forall₂ (Row.Reads valueColumn) (Row.ofBytes bytes) rows ∧ Tallies rows table ∧
      (0 < table.spanMicros ↔ (∃ a ∈ rows, ∃ b ∈ rows, a.1 ≠ b.1) ∧
        ∀ first last, table.range = some (first, last) →
          ¬ first.Overtaken last ∧ last.nanosSince first ≤ maxSpanNanos) ∧
      (table.spanMicros < 0 ↔ ∃ first last, table.range = some (first, last) ∧ first.Overtaken last ∧
        1000000000 + last.nano < first.nano) ∧
      ∀ n, (∃ rate, table.rate? n = some rate) ↔ 0 < table.spanMicros := by
  obtain ⟨rows, hrows, htable⟩ := addRows_eq_ok_iff.1 h
  have htallies : Tallies rows table := htable ▸ tallies_ofRows rows
  have hmicros := Row.nano_mod_of_forall₂ hrows
  refine ⟨rows, hrows, htallies, ?_, ?_, exists_rate_iff table⟩
  · cases hrange : table.range with
    | none =>
      obtain rfl := htallies.range_eq_none.1 hrange
      simp [spanMicros, hrange]
    | some range =>
      obtain ⟨first, last⟩ := range
      rw [htallies.span_pos_iff hmicros hrange, htallies.exists_ne_iff hrange]
      simp
  · cases hrange : table.range with
    | none => simp [spanMicros, hrange]
    | some range =>
      obtain ⟨first, last⟩ := range
      rw [htallies.span_neg_iff hmicros hrange]
      simp

/-! ## Around a leap second -/

/-- A capture with one row at the end of a year with a leap second and one at the start of the next year. -/
def newYearCapture (before after : String) : Bytes :=
  Text.encode ("x 2016-12-31 " ++ before ++ " a\nx 2017-01-01 " ++ after ++ " a\n")

/-- From the start of the leap second to half a second into the year, half a second counts. -/
theorem ofBytes_span_passed :
    ∃ table, ofBytes (newYearCapture "23:59:60" "00:00:00.5") 3 = .ok table ∧
      table.spanMicros = 500000 ∧ (∃ rate, table.rate? 2 = some rate) ∧
      ∀ first last, table.range = some (first, last) → ¬ first.Overtaken last := by
  have hspan : (ofBytes (newYearCapture "23:59:60" "00:00:00.5") 3).map spanMicros = .ok 500000 := by
    decide +kernel
  cases htable : ofBytes (newYearCapture "23:59:60" "00:00:00.5") 3 with
  | error failure =>
    rw [htable] at hspan
    cases hspan
  | ok table =>
    rw [htable] at hspan
    have hmicros : table.spanMicros = 500000 := Except.ok.inj hspan
    obtain ⟨rows, -, -, hpos, -, hrate⟩ := ofBytes_span htable
    rw [hmicros] at hpos hrate
    exact ⟨table, rfl, hmicros, (hrate 2).2 (by decide), fun first last hrange =>
      ((hpos.1 (by decide)).2 first last hrange).1⟩

/-- The latest row is overtaken by half a second: the span is negative, and there is no rate. -/
theorem ofBytes_span_overtaken :
    Moment.ofColumns "2016-12-31" "23:59:60.5" ≠ Moment.ofColumns "2017-01-01" "00:00:00" ∧
      (ofBytes (newYearCapture "23:59:60.5" "00:00:00") 3).map
        (fun table => (table.spanMicros, table.rate? table.total)) = .ok (-500000, none) := by
  decide +kernel

end FrequencyTable

end DeviceBench
