/-
Rows of a capture, good and bad. A row is read exactly if its fields are texts, two of them name a time and
its value column is there. A table needs this of all rows; where one lacks it, the first such row is reported
by its number and by the first thing it lacks, and nothing that follows that row matters.
-/
import DeviceBench.Frequency.Table
import Mathlib.Data.List.Forall2

namespace DeviceBench

namespace Row

/-- The fields are these texts. -/
def Texts (r : Row) (texts : List String) : Prop :=
  List.Forall₂ (fun bytes text => Text.decode? bytes = some text) r.fields texts

/-- The row has this time and value. -/
def Reads (valueColumn : Nat) (r : Row) (read : Moment × String) : Prop :=
  ∃ texts date time, r.Texts texts ∧ texts[1]? = some date ∧ texts[2]? = some time ∧
    Moment.ofColumns date time = .ok read.1 ∧ texts[valueColumn]? = some read.2

/-- The first thing that the row with this number lacks. -/
inductive Refused (valueColumn row : Nat) (r : Row) : RowFault → Prop where
  | text {before after : List Bytes} {bytes : Bytes} (hfields : r.fields = before ++ bytes :: after)
      (hbefore : ∀ b ∈ before, ∃ text, Text.decode? b = some text) (hbytes : Text.decode? bytes = none) :
      Refused valueColumn row r
        (.badText ⟨row, r.line, before.length, r.start, Text.wellFormedBytes bytes⟩)
  | date {texts : List String} (htexts : r.Texts texts) (hdate : texts[1]? = none) :
      Refused valueColumn row r (.missingColumn 1)
  | time {texts : List String} {date : String} (htexts : r.Texts texts) (hdate : texts[1]? = some date)
      (htime : texts[2]? = none) : Refused valueColumn row r (.missingColumn 2)
  | moment {texts : List String} {date time : String} {fault : RowFault} (htexts : r.Texts texts)
      (hdate : texts[1]? = some date) (htime : texts[2]? = some time)
      (hmoment : Moment.ofColumns date time = .error fault) : Refused valueColumn row r fault
  | value {texts : List String} {date time : String} {t : Moment} (htexts : r.Texts texts)
      (hdate : texts[1]? = some date) (htime : texts[2]? = some time)
      (hmoment : Moment.ofColumns date time = .ok t) (hvalue : texts[valueColumn]? = none) :
      Refused valueColumn row r (.missingColumn valueColumn)

/-! ## Texts -/

theorem textsFrom_cons {r : Row} {row field : Nat} {bytes : Bytes} {text : String}
    (h : Text.decode? bytes = some text) (fields : List Bytes) :
    r.textsFrom row field (bytes :: fields) = (r.textsFrom row (field + 1) fields).map (text :: ·) := by
  rw [textsFrom, h]

theorem textsFrom_of_texts {r : Row} {row field : Nat} {fields : List Bytes} {texts : List String}
    (h : List.Forall₂ (fun bytes text => Text.decode? bytes = some text) fields texts) :
    r.textsFrom row field fields = .ok texts := by
  induction h generalizing field with
  | nil => rfl
  | cons hbytes _ ih =>
    rw [textsFrom_cons hbytes, ih]
    rfl

/-- Fields that are no texts: the first of them is the fault. -/
theorem textsFrom_of_bad {r : Row} {row field : Nat} {before after : List Bytes} {bytes : Bytes}
    (hbefore : ∀ b ∈ before, ∃ text, Text.decode? b = some text) (hbytes : Text.decode? bytes = none) :
    r.textsFrom row field (before ++ bytes :: after) =
      .error (.badText ⟨row, r.line, field + before.length, r.start, Text.wellFormedBytes bytes⟩) := by
  induction before generalizing field with
  | nil =>
    rw [List.nil_append, textsFrom, hbytes]
    rfl
  | cons b before ih =>
    obtain ⟨text, hb⟩ := hbefore b List.mem_cons_self
    rw [List.cons_append, textsFrom_cons hb, ih fun c hc => hbefore c (List.mem_cons_of_mem _ hc),
      List.length_cons, Nat.add_assoc, Nat.add_comm 1]
    rfl

/-- Either all fields are texts, or there is a first that is not. -/
theorem texts_or_bad (fields : List Bytes) :
    (∃ texts, List.Forall₂ (fun bytes text => Text.decode? bytes = some text) fields texts) ∨
      ∃ before bytes after, fields = before ++ bytes :: after ∧
        (∀ b ∈ before, ∃ text, Text.decode? b = some text) ∧ Text.decode? bytes = none := by
  induction fields with
  | nil => exact .inl ⟨[], .nil⟩
  | cons bytes fields ih =>
    cases hdecode : Text.decode? bytes with
    | none => exact .inr ⟨[], bytes, fields, rfl, by simp, hdecode⟩
    | some text =>
      rcases ih with ⟨texts, htexts⟩ | ⟨before, bad, after, rfl, hbefore, hbad⟩
      · exact .inl ⟨text :: texts, .cons hdecode htexts⟩
      · exact .inr ⟨bytes :: before, bad, after, rfl, by simpa [hdecode] using hbefore, hbad⟩

variable {r : Row} {row : Nat}

theorem texts_eq_ok_iff {texts : List String} : r.texts row = .ok texts ↔ r.Texts texts := by
  refine ⟨fun h => ?_, textsFrom_of_texts⟩
  rcases texts_or_bad r.fields with ⟨texts', htexts⟩ | ⟨before, bytes, after, hfields, hbefore, hbytes⟩
  · rw [Row.texts, textsFrom_of_texts htexts] at h
    exact Except.ok.inj h ▸ htexts
  · rw [Row.texts, hfields, textsFrom_of_bad hbefore hbytes] at h
    cases h

theorem texts_eq_error_iff {fault : RowFault} :
    r.texts row = .error fault ↔
      ∃ before bytes after, r.fields = before ++ bytes :: after ∧
        (∀ b ∈ before, ∃ text, Text.decode? b = some text) ∧ Text.decode? bytes = none ∧
          fault = .badText ⟨row, r.line, before.length, r.start, Text.wellFormedBytes bytes⟩ := by
  have hbad {before after : List Bytes} {bytes : Bytes} (hfields : r.fields = before ++ bytes :: after)
      (hbefore : ∀ b ∈ before, ∃ text, Text.decode? b = some text) (hbytes : Text.decode? bytes = none) :
      r.texts row =
        .error (.badText ⟨row, r.line, before.length, r.start, Text.wellFormedBytes bytes⟩) := by
    rw [Row.texts, hfields, textsFrom_of_bad hbefore hbytes, Nat.zero_add]
  constructor
  · intro h
    rcases texts_or_bad r.fields with ⟨texts, htexts⟩ | ⟨before, bytes, after, hfields, hbefore, hbytes⟩
    · rw [texts_eq_ok_iff.2 htexts] at h
      cases h
    · rw [hbad hfields hbefore hbytes] at h
      exact ⟨before, bytes, after, hfields, hbefore, hbytes, (Except.error.inj h).symm⟩
  · rintro ⟨before, bytes, after, hfields, hbefore, hbytes, rfl⟩
    exact hbad hfields hbefore hbytes

end Row

namespace FrequencyTable

open Row

variable {valueColumn row : Nat}

/-! ## One row -/

theorem column_eq_ok_iff {fields : List String} {i : Nat} {text : String} :
    column fields i = .ok text ↔ fields[i]? = some text := by
  unfold column
  cases fields[i]? <;> simp

theorem column_eq_error_iff {fields : List String} {i : Nat} {fault : RowFault} :
    column fields i = .error fault ↔ fields[i]? = none ∧ fault = .missingColumn i := by
  unfold column
  cases fields[i]? <;> simp [eq_comm]

theorem readRow_eq_ok_iff {r : Row} {read : Moment × String} :
    readRow valueColumn row r = .ok read ↔ r.Reads valueColumn read := by
  unfold readRow Row.Reads
  simp only [bind_eq_ok_iff, texts_eq_ok_iff, column_eq_ok_iff]
  constructor
  · rintro ⟨texts, htexts, date, hdate, time, htime, t, hmoment, value, hvalue, hread⟩
    cases hread
    exact ⟨texts, date, time, htexts, hdate, htime, hmoment, hvalue⟩
  · rintro ⟨texts, date, time, htexts, hdate, htime, hmoment, hvalue⟩
    exact ⟨texts, htexts, date, hdate, time, htime, read.1, hmoment, read.2, hvalue, rfl⟩

/-- What is reported of a row that is not read is the first thing that it lacks. -/
theorem readRow_eq_error_iff {r : Row} {fault : RowFault} :
    readRow valueColumn row r = .error fault ↔ r.Refused valueColumn row fault := by
  unfold readRow
  simp only [bind_eq_error_iff, texts_eq_ok_iff, texts_eq_error_iff, column_eq_ok_iff,
    column_eq_error_iff]
  constructor
  · rintro (⟨before, bytes, after, hfields, hbefore, hbytes, rfl⟩ | ⟨texts, htexts, h⟩)
    · exact .text hfields hbefore hbytes
    rcases h with ⟨hdate, rfl⟩ | ⟨date, hdate, h⟩
    · exact .date htexts hdate
    rcases h with ⟨htime, rfl⟩ | ⟨time, htime, h⟩
    · exact .time htexts hdate htime
    rcases h with hmoment | ⟨t, hmoment, h⟩
    · exact .moment htexts hdate htime hmoment
    rcases h with ⟨hvalue, rfl⟩ | ⟨value, hvalue, h⟩
    · exact .value htexts hdate htime hmoment hvalue
    · cases h
  · intro h
    cases h with
    | text hfields hbefore hbytes => exact .inl ⟨_, _, _, hfields, hbefore, hbytes, rfl⟩
    | date htexts hdate => exact .inr ⟨_, htexts, .inl ⟨hdate, rfl⟩⟩
    | time htexts hdate htime => exact .inr ⟨_, htexts, .inr ⟨_, hdate, .inl ⟨htime, rfl⟩⟩⟩
    | moment htexts hdate htime hmoment =>
      exact .inr ⟨_, htexts, .inr ⟨_, hdate, .inr ⟨_, htime, .inl hmoment⟩⟩⟩
    | value htexts hdate htime hmoment hvalue =>
      exact .inr ⟨_, htexts, .inr ⟨_, hdate, .inr ⟨_, htime, .inr ⟨_, hmoment, .inl ⟨hvalue, rfl⟩⟩⟩⟩⟩

/-! ## All rows -/

theorem addRows_eq_ok_iff {rs : List Row} {table table' : FrequencyTable} :
    addRows valueColumn row table rs = .ok table' ↔
      ∃ rows, List.Forall₂ (Reads valueColumn) rs rows ∧
        table' = rows.foldl (fun table row => table.add row.2 row.1) table := by
  induction rs generalizing row table with
  | nil =>
    rw [addRows]
    constructor
    · rintro ⟨⟩
      exact ⟨[], .nil, rfl⟩
    · rintro ⟨rows, hrows, rfl⟩
      cases hrows
      rfl
  | cons r rs ih =>
    rw [addRows]
    constructor
    · intro hadd
      cases hread : readRow valueColumn row r with
      | error fault =>
        rw [hread] at hadd
        cases hadd
      | ok read =>
        rw [hread] at hadd
        obtain ⟨rows, hrows, rfl⟩ := ih.1 hadd
        exact ⟨read :: rows, .cons (readRow_eq_ok_iff.1 hread) hrows, rfl⟩
    · rintro ⟨rows, hrows, rfl⟩
      cases hrows with
      | @cons _ read _ rows hreads hrows =>
        rw [readRow_eq_ok_iff.2 hreads]
        exact ih.2 ⟨rows, hrows, rfl⟩

/-- The failure is of the first row that is not read: its number, counted on from `row`, and the first thing
that it lacks. -/
def FirstRefusal (valueColumn row : Nat) (rs : List Row) (failure : Failure) : Prop :=
  ∃ before r after fault, rs = before ++ r :: after ∧
    (∀ b ∈ before, ∃ read, b.Reads valueColumn read) ∧
      r.Refused valueColumn (row + before.length) fault ∧
        failure = .malformedRow (row + before.length + 1) fault

theorem firstRefusal_cons_of_refused {r : Row} {fault : RowFault} (h : r.Refused valueColumn row fault)
    {rs : List Row} {failure : Failure} :
    FirstRefusal valueColumn row (r :: rs) failure ↔ failure = .malformedRow (row + 1) fault := by
  have hread := readRow_eq_error_iff.2 h
  constructor
  · rintro ⟨before, r', after, fault', hrs, hbefore, hrefused, rfl⟩
    cases before with
    | nil =>
      obtain ⟨rfl, rfl⟩ := List.cons.inj hrs
      have hread' := readRow_eq_error_iff.2 hrefused
      rw [List.length_nil, Nat.add_zero, hread] at hread'
      rw [Except.error.inj hread']
      rfl
    | cons b before =>
      obtain ⟨rfl, -⟩ := List.cons.inj hrs
      obtain ⟨read, hreads⟩ := hbefore r List.mem_cons_self
      rw [readRow_eq_ok_iff.2 hreads] at hread
      cases hread
  · rintro rfl
    exact ⟨[], r, rs, fault, rfl, by simp, h, rfl⟩

theorem firstRefusal_cons_of_reads {r : Row} {read : Moment × String} (h : r.Reads valueColumn read)
    {rs : List Row} {failure : Failure} :
    FirstRefusal valueColumn row (r :: rs) failure ↔ FirstRefusal valueColumn (row + 1) rs failure := by
  have hnumber (before : List Row) : row + (r :: before).length = row + 1 + before.length := by
    rw [List.length_cons]
    omega
  constructor
  · rintro ⟨before, r', after, fault, hrs, hbefore, hrefused, rfl⟩
    cases before with
    | nil =>
      obtain ⟨rfl, rfl⟩ := List.cons.inj hrs
      have hread := readRow_eq_error_iff.2 hrefused
      rw [readRow_eq_ok_iff.2 h] at hread
      cases hread
    | cons b before =>
      obtain ⟨rfl, rfl⟩ := List.cons.inj hrs
      rw [hnumber] at hrefused ⊢
      exact ⟨before, r', after, fault, rfl, fun c hc => hbefore c (List.mem_cons_of_mem _ hc), hrefused, rfl⟩
  · rintro ⟨before, r', after, fault, rfl, hbefore, hrefused, rfl⟩
    refine ⟨r :: before, r', after, fault, rfl, ?_, ?_, ?_⟩
    · intro b hb
      rcases List.mem_cons.1 hb with rfl | hb
      · exact ⟨read, h⟩
      · exact hbefore b hb
    · rwa [hnumber]
    · rw [hnumber]

theorem addRows_eq_error_iff {rs : List Row} {table : FrequencyTable} {failure : Failure} :
    addRows valueColumn row table rs = .error failure ↔ FirstRefusal valueColumn row rs failure := by
  induction rs generalizing row table with
  | nil =>
    rw [addRows]
    constructor
    · nofun
    · rintro ⟨before, r, after, fault, hrs, -⟩
      simp at hrs
  | cons r rs ih =>
    rw [addRows]
    cases hread : readRow valueColumn row r with
    | error fault =>
      rw [firstRefusal_cons_of_refused (readRow_eq_error_iff.1 hread), Except.error.injEq, eq_comm]
    | ok read => rw [firstRefusal_cons_of_reads (readRow_eq_ok_iff.1 hread), ← ih]

theorem exists_reads_of_forall₂ {rs : List Row} {rows : List (Moment × String)}
    (h : List.Forall₂ (Reads valueColumn) rs rows) : ∀ r ∈ rs, ∃ read, r.Reads valueColumn read := by
  induction h with
  | nil => simp
  | cons hread _ ih =>
    rw [List.forall_mem_cons]
    exact ⟨⟨_, hread⟩, ih⟩

theorem exists_forall₂_reads {rs : List Row} (h : ∀ r ∈ rs, ∃ read, r.Reads valueColumn read) :
    ∃ rows, List.Forall₂ (Reads valueColumn) rs rows := by
  induction rs with
  | nil => exact ⟨[], .nil⟩
  | cons r rs ih =>
    obtain ⟨⟨read, hread⟩, hreads⟩ := List.forall_mem_cons.1 h
    obtain ⟨rows, hrows⟩ := ih hreads
    exact ⟨read :: rows, .cons hread hrows⟩

/-- With a row that is not read, the failure is the same whatever follows: it is of that row or of one before
it. -/
theorem exists_firstRefusal_append {before : List Row} {r : Row} {fault : RowFault}
    (h : r.Refused valueColumn (row + before.length) fault) :
    ∃ failure, ∀ after, FirstRefusal valueColumn row (before ++ r :: after) failure := by
  induction before generalizing row with
  | nil => exact ⟨_, fun after => (firstRefusal_cons_of_refused h).2 rfl⟩
  | cons b before ih =>
    cases hread : readRow valueColumn row b with
    | error fault =>
      exact ⟨_, fun after => (firstRefusal_cons_of_refused (readRow_eq_error_iff.1 hread)).2 rfl⟩
    | ok read =>
      have hnext : r.Refused valueColumn (row + 1 + before.length) fault := by
        rwa [List.length_cons, Nat.add_comm before.length, ← Nat.add_assoc] at h
      obtain ⟨failure, hfirst⟩ := ih hnext
      exact ⟨failure, fun after => (firstRefusal_cons_of_reads (readRow_eq_ok_iff.1 hread)).2 (hfirst after)⟩

/-- A capture has a table exactly if all its rows are read; otherwise the first row that is not is reported,
with its number and the first thing that it lacks, whatever rows follow it. -/
theorem ofBytes_reports_first (bytes : Bytes) (valueColumn : Nat) :
    ((∃ table, ofBytes bytes valueColumn = .ok table) ↔
        ∀ r ∈ Row.ofBytes bytes, ∃ read, r.Reads valueColumn read) ∧
      (∀ failure, ofBytes bytes valueColumn = .error failure ↔
        FirstRefusal valueColumn 0 (Row.ofBytes bytes) failure) ∧
      ∀ (bytes' : Bytes) (before : List Row) (r : Row) (after after' : List Row) (fault : RowFault),
        Row.ofBytes bytes = before ++ r :: after → Row.ofBytes bytes' = before ++ r :: after' →
          r.Refused valueColumn before.length fault →
            ofBytes bytes' valueColumn = ofBytes bytes valueColumn := by
  refine ⟨?_, fun failure => addRows_eq_error_iff, ?_⟩
  · constructor
    · rintro ⟨table, htable⟩ r hr
      obtain ⟨rows, hrows, -⟩ := addRows_eq_ok_iff.1 htable
      exact exists_reads_of_forall₂ hrows r hr
    · intro hreads
      obtain ⟨rows, hrows⟩ := exists_forall₂_reads hreads
      exact ⟨_, addRows_eq_ok_iff.2 ⟨rows, hrows, rfl⟩⟩
  · intro bytes' before r after after' fault hbytes hbytes' hrefused
    rw [← Nat.zero_add before.length] at hrefused
    obtain ⟨failure, hfirst⟩ := exists_firstRefusal_append hrefused
    rw [ofBytes, ofBytes, hbytes, hbytes', addRows_eq_error_iff.2 (hfirst after),
      addRows_eq_error_iff.2 (hfirst after')]

/-! ## A day out of the calendar -/

/-- A row that can be read. -/
def leapRow : Row := ⟨["x", "2024-02-29", "00:00:00", "a"].map Text.encode, 0, 1⟩

/-- A row with a day that no year has and without a value. -/
def lostRow : Row := ⟨["x", "2024-02-30", "00:00:00"].map Text.encode, 24, 2⟩

/-- A capture whose second row names no day, and more. -/
def lostCapture (more : String) : Bytes :=
  Text.encode ("x 2024-02-29 00:00:00 a\nx 2024-02-30 00:00:00\n" ++ more)

/-- The second row is reported for its day, not for the value that it lacks too, and a broken row after it changes
nothing. -/
theorem ofBytes_reports_first_lost :
    lostRow.Refused 3 1 (.badTimestamp "2024-02-30" "00:00:00" .outOfRange) ∧
      ofBytes (lostCapture "") 3 =
        .error (.malformedRow 2 (.badTimestamp "2024-02-30" "00:00:00" .outOfRange)) ∧
      ofBytes (lostCapture "\nx\n") 3 = ofBytes (lostCapture "") 3 := by
  have hrows : Row.ofBytes (lostCapture "") = [leapRow, lostRow] := by decide +kernel
  have hmore : Row.ofBytes (lostCapture "\nx\n") = [leapRow, lostRow, ⟨[Text.encode "x"], 46, 3⟩] := by
    decide +kernel
  have hreads : ∃ read, leapRow.Reads 3 read := by
    cases hread : readRow 3 0 leapRow with
    | ok read => exact ⟨read, readRow_eq_ok_iff.1 hread⟩
    | error fault => exact absurd hread (by rintro ⟨⟩)
  have hrefused : lostRow.Refused 3 1 (.badTimestamp "2024-02-30" "00:00:00" .outOfRange) :=
    readRow_eq_error_iff.1 (by decide +kernel)
  obtain ⟨-, hfirst, hreplaced⟩ := ofBytes_reports_first (lostCapture "") 3
  refine ⟨hrefused, ?_, hreplaced _ [leapRow] lostRow _ _ _ hrows hmore hrefused⟩
  rw [hfirst, hrows]
  exact ⟨[leapRow], lostRow, [], _, rfl, by simpa using hreads, hrefused, rfl⟩

end FrequencyTable

end DeviceBench
