/-
The columns of a table as text. Every row has its label end at one column and its count at another, where the
header has the end of `Count`, as long as the labels fit into the column for values. This column is as wide as
the longest value and one more, while a value without a mark gets nine blanks in a table with marks.
-/
import DeviceBench.Frequency.Table
import DeviceBench.Proofs.Text.Digits
import DeviceBench.Proofs.Text.Pieces
import DeviceBench.Proofs.Text.Search
import Mathlib.Data.List.Forall2

namespace DeviceBench.FrequencyTable

open Text (Digits digits_toDigits digits_toString)

/-- So many blanks. -/
def blanks (n : Nat) : List Char := List.replicate n ' '

/-- The line shows a label among blanks up to one column, the separator, and a count up to another. -/
def ShowsRow (labelEnd countEnd : Nat) (label : String) (n : Nat) (line : List Char) : Prop :=
  ∃ left right between rest,
    line = blanks left ++ (label.toList ++ (blanks right ++ ':' :: ' ' ::
      (blanks between ++ ((toString n).toList ++ ' ' :: rest)))) ∧
    left + label.length + right = labelEnd ∧ labelEnd + 2 + between + (toString n).length = countEnd

/-- The line has the title of the counts up to this column. -/
def TitlesCounts (countEnd : Nat) (line : List Char) : Prop :=
  ∃ left rest, line = left ++ ("Count".toList ++ rest) ∧ 'C' ∉ left ∧ left.length + "Count".length = countEnd

/-- The lines of the text are a header, a row for each value and one for all of them; all labels end at one
column, and all counts at another. -/
def Aligned (table : FrequencyTable) : Prop :=
  ∃ labelEnd countEnd header rows all,
    table.render.toList.splitOn '\n' = header :: rows ++ [all, []] ∧ TitlesCounts countEnd header ∧
      List.Forall₂ (fun c row => ShowsRow labelEnd countEnd c.1 c.2 row) table.counts rows ∧
        ShowsRow labelEnd countEnd "All" table.total all

/-! ## Blanks -/

@[simp] theorem length_blanks (n : Nat) : (blanks n).length = n := List.length_replicate

theorem mem_blanks {n : Nat} {c : Char} (h : c ∈ blanks n) : c = ' ' := List.eq_of_mem_replicate h

theorem blanks_append_blanks (m n : Nat) (cs : List Char) :
    blanks m ++ (blanks n ++ cs) = blanks (m + n) ++ cs := by
  rw [blanks, blanks, blanks, ← List.append_assoc, List.replicate_append_replicate]

theorem blanks_append_inj {m n : Nat} {c d : Char} {cs ds : List Char} (hc : c ≠ ' ') (hd : d ≠ ' ')
    (h : blanks m ++ c :: cs = blanks n ++ d :: ds) : m = n ∧ c :: cs = d :: ds := by
  induction m generalizing n with
  | zero =>
    cases n with
    | zero => exact ⟨rfl, h⟩
    | succ n => exact absurd (List.cons.inj h).1 hc
  | succ m ih =>
    cases n with
    | zero => exact absurd (List.cons.inj h).1.symm hd
    | succ n =>
      obtain ⟨rfl, hrest⟩ := ih (List.cons.inj h).2
      exact ⟨rfl, hrest⟩

/-- How many blanks there are around a text up to a colon does not depend on which of the blanks are taken for
the text's own. -/
theorem blanks_around_inj {text cs ds : List Char} {i j m n : Nat}
    (h : blanks i ++ (text ++ (blanks j ++ ':' :: cs)) = blanks m ++ (text ++ (blanks n ++ ':' :: ds))) :
    i + j = m + n ∧ cs = ds := by
  induction text generalizing i m with
  | nil =>
    rw [List.nil_append, List.nil_append, blanks_append_blanks, blanks_append_blanks] at h
    obtain ⟨hcount, hrest⟩ := blanks_append_inj (by decide) (by decide) h
    exact ⟨hcount, (List.cons.inj hrest).2⟩
  | cons c text ih =>
    rw [List.cons_append, List.cons_append] at h
    by_cases hc : c = ' '
    · subst hc
      have hone (k : Nat) (cs : List Char) : blanks k ++ ' ' :: cs = blanks (k + 1) ++ cs :=
        blanks_append_blanks k 1 cs
      rw [hone, hone] at h
      obtain ⟨hcount, hrest⟩ := ih h
      exact ⟨by omega, hrest⟩
    · obtain ⟨rfl, hrest⟩ := blanks_append_inj hc hc h
      have hafter := List.append_cancel_left (List.cons.inj hrest).2
      obtain ⟨rfl, hlast⟩ := blanks_append_inj (by decide) (by decide) hafter
      exact ⟨rfl, (List.cons.inj hlast).2⟩

theorem toList_padLeft (width : Nat) (s : String) :
    (padLeft width s).toList = blanks (width - s.length) ++ s.toList := by
  rw [padLeft, String.toList_append, String.toList_ofList]
  rfl

/-! ## Widths -/

theorem foldl_max_le_iff {ns : List Nat} {n m : Nat} : ns.foldl max n ≤ m ↔ n ≤ m ∧ ∀ k ∈ ns, k ≤ m := by
  induction ns generalizing n with
  | nil => simp
  | cons k ns ih => rw [List.foldl_cons, ih, Nat.max_le, List.forall_mem_cons, and_assoc]

variable {table : FrequencyTable}

theorem length_lt_valueWidth {c : String × Nat} (h : c ∈ table.counts) : c.1.length < table.valueWidth :=
  Nat.lt_succ_of_le ((foldl_max_le_iff.1 le_rfl).2 _ (List.mem_map_of_mem h))

theorem five_lt_valueWidth (table : FrequencyTable) : 5 < table.valueWidth :=
  Nat.lt_succ_of_le (foldl_max_le_iff.1 le_rfl).1

theorem length_le_countWidth {c : String × Nat} (h : c ∈ table.counts) :
    (toString c.2).length ≤ table.countWidth :=
  (foldl_max_le_iff.1 le_rfl).2 _ (List.mem_map_of_mem h)

theorem max_le_countWidth (table : FrequencyTable) :
    max "Count".length (toString table.total).length ≤ table.countWidth :=
  (foldl_max_le_iff.1 le_rfl).1

/-- The blanks that a row has after its value. -/
def padding (hasMarks : Bool) (value : String) : Nat :=
  (if hasMarks && !marked "!" value then 9 else 0) + if marked delayedMark value then 1 else 0

theorem toList_shownValue (hasMarks : Bool) (value : String) :
    (shownValue hasMarks value).toList = value.toList ++ blanks (padding hasMarks value) := by
  unfold shownValue padding
  split <;> split <;> simp [blanks, List.replicate_succ]

/-- A mark has an exclamation mark in it. -/
theorem marked_of_delayed {value : String} (h : marked delayedMark value = true) :
    marked "!" value = true := by
  unfold marked at h ⊢
  rw [Text.occurs_iff] at h ⊢
  exact List.IsInfix.trans (by decide) h

/-- A value with its blanks fits into the column for values exactly if it is not nine blanks too long. -/
theorem padding_fits_iff {c : String × Nat} (h : c ∈ table.counts) :
    c.1.length + padding table.hasMarks c.1 ≤ table.valueWidth ↔
      (table.hasMarks = true → marked "!" c.1 = false → c.1.length + 9 ≤ table.valueWidth) := by
  have hlength := length_lt_valueWidth h
  by_cases hpadded : table.hasMarks = true ∧ marked "!" c.1 = false
  · have hdelayed : marked delayedMark c.1 = false :=
      Bool.eq_false_iff.2 fun hdelayed => by simp [marked_of_delayed hdelayed] at hpadded
    have hnine : padding table.hasMarks c.1 = 9 := by simp [padding, hpadded, hdelayed]
    rw [hnine]
    exact ⟨fun hfits _ _ => hfits, fun hfits => hfits hpadded.1 hpadded.2⟩
  · have hone : padding table.hasMarks c.1 ≤ 1 := by
      rw [padding, if_neg (by simpa using hpadded)]
      split <;> decide
    exact ⟨fun _ hmarks hplain => absurd ⟨hmarks, hplain⟩ hpadded, fun _ => by omega⟩

/-! ## Rows -/

theorem toList_shownRow (table : FrequencyTable) (padded rest : String) (n : Nat) :
    ∃ more, (table.shownRow padded n ++ rest).toList =
      blanks (table.valueWidth - padded.length) ++ (padded.toList ++ (':' :: ' ' ::
        (blanks (table.countWidth - (toString n).length) ++ ((toString n).toList ++ ' ' :: more)))) := by
  refine ⟨(table.shownRate n).toList ++ "Hz".toList ++ rest.toList, ?_⟩
  simp only [shownRow, String.toList_append, toList_padLeft, List.append_assoc]
  rfl

theorem exists_firstDigit (n : Nat) : ∃ d ds, (toString n).toList = d :: ds ∧ d ≠ ' ' := by
  have hdigits := digits_toString n
  cases hn : (toString n).toList with
  | nil =>
    rw [Nat.toString_eq_repr, Nat.toList_repr] at hn
    exact absurd hn Nat.toDigits_ne_nil
  | cons d ds =>
    refine ⟨d, ds, rfl, ?_⟩
    rintro rfl
    exact absurd (hdigits ' ' (hn ▸ List.mem_cons_self)) (by decide)

/-- What a row shows, and where: a label with some blanks after it, in the column for values or beyond. -/
theorem showsRow_iff {label padded : String} {k n labelEnd countEnd : Nat}
    (hpadded : padded.toList = label.toList ++ blanks k) (hcount : (toString n).length ≤ table.countWidth)
    (rest : String) :
    ShowsRow labelEnd countEnd label n (table.shownRow padded n ++ rest).toList ↔
      labelEnd = max table.valueWidth (label.length + k) ∧ countEnd = labelEnd + 2 + table.countWidth := by
  obtain ⟨more, hline⟩ := toList_shownRow table padded rest n
  obtain ⟨d, ds, hdigits, hd⟩ := exists_firstDigit n
  have hlength : padded.length = label.length + k := by
    rw [← String.length_toList, hpadded, List.length_append, length_blanks, String.length_toList]
  rw [hpadded, hlength, List.append_assoc] at hline
  constructor
  · rintro ⟨left, right, between, rest', hshows, rfl, rfl⟩
    obtain ⟨haround, hafter⟩ := blanks_around_inj (hline.symm.trans hshows)
    rw [hdigits] at hafter
    obtain ⟨rfl, -⟩ := blanks_append_inj hd hd (List.cons.inj hafter).2
    omega
  · rintro ⟨rfl, rfl⟩
    exact ⟨_, k, _, more, hline, by omega, by omega⟩

/-! ## Lines -/

theorem lf_not_mem_of_digits {cs : List Char} (h : Digits cs) : '\n' ∉ cs :=
  fun hmem => absurd (h _ hmem) (by decide)

theorem lf_not_mem_padLeft {width : Nat} {s : String} (h : '\n' ∉ s.toList) :
    '\n' ∉ (padLeft width s).toList := by
  rw [toList_padLeft, List.mem_append, not_or]
  exact ⟨fun hmem => absurd (mem_blanks hmem) (by decide), h⟩

/-- A decimal has digits and at most a point in it. -/
theorem lf_not_mem_fixed (places : Nat) (x : Binary64) : '\n' ∉ (Decimal.fixed places x).toList := by
  unfold Decimal.fixed Decimal.placePoint
  extract_lets digits shown whole fraction
  have hshown : '\n' ∉ shown := by
    simp only [shown, List.mem_append, List.mem_replicate, not_or, not_and]
    exact ⟨fun _ => by decide, lf_not_mem_of_digits (digits_toDigits _)⟩
  have hwhole : '\n' ∉ whole := fun hmem => hshown (List.mem_of_mem_take hmem)
  have hfraction : '\n' ∉ fraction := fun hmem => hshown (List.mem_of_mem_drop hmem)
  rw [String.toList_ofList]
  split
  · exact hwhole
  · rw [List.mem_append, List.mem_cons]
    simp [hwhole, hfraction]

theorem lf_not_mem_shownRow (table : FrequencyTable) {label : String} (h : '\n' ∉ label.toList) (n : Nat) :
    '\n' ∉ (table.shownRow label n).toList := by
  have hcount := lf_not_mem_of_digits (digits_toString n)
  have hrate : '\n' ∉ (table.shownRate n).toList := by
    unfold shownRate
    split
    · exact lf_not_mem_padLeft (lf_not_mem_fixed _ _)
    · exact lf_not_mem_padLeft (by decide)
  simp only [shownRow, String.toList_append, List.mem_append, not_or]
  exact ⟨⟨⟨⟨⟨lf_not_mem_padLeft h, by decide⟩, lf_not_mem_padLeft hcount⟩, by decide⟩, hrate⟩, by decide⟩

theorem lf_not_mem_shownSpan (table : FrequencyTable) : '\n' ∉ table.shownSpan.toList := by
  rw [shownSpan, String.toList_append, List.mem_append, not_or]
  refine ⟨?_, lf_not_mem_fixed _ _⟩
  split <;> decide

theorem lf_not_mem_headerLine (table : FrequencyTable) : '\n' ∉ table.headerLine.toList := by
  simp [headerLine, padBoth, toList_padLeft, blanks]

/-- The row of a value and its count. -/
def valueRow (table : FrequencyTable) (c : String × Nat) : List Char :=
  (table.shownRow (shownValue table.hasMarks c.1) c.2).toList

/-- The row for all of them. -/
def totalRow (table : FrequencyTable) : List Char :=
  (table.shownRow "All" table.total ++ (", time span: " ++ table.shownSpan ++ "sec")).toList

theorem toList_lines (table : FrequencyTable) :
    table.lines.map String.toList =
      table.headerLine.toList :: table.counts.map table.valueRow ++ [table.totalRow] := by
  rw [lines, List.map_append, List.map_cons, List.map_map, List.map_singleton, totalRow,
    ← String.append_assoc, ← String.append_assoc]
  rfl

theorem toList_render (table : FrequencyTable) :
    table.render.toList = (table.lines.map String.toList).flatMap (· ++ ['\n']) := by
  rw [render, String.toList_join, List.flatMap_map, List.flatMap_map]
  simp only [String.toList_append]
  rfl

section Text

variable (h : ∀ c ∈ table.counts, '\n' ∉ c.1.toList)

include h

theorem lf_not_mem_lines : ∀ line ∈ table.lines.map String.toList, '\n' ∉ line := by
  rw [toList_lines, List.cons_append, List.forall_mem_cons, List.forall_mem_append, List.forall_mem_map,
    List.forall_mem_singleton]
  refine ⟨lf_not_mem_headerLine table, fun c hc => lf_not_mem_shownRow table ?_ c.2, ?_⟩
  · rw [toList_shownValue, List.mem_append, not_or]
    exact ⟨h c hc, fun hmem => absurd (mem_blanks hmem) (by decide)⟩
  · simp only [totalRow, String.toList_append, List.mem_append, not_or]
    exact ⟨lf_not_mem_shownRow table (by decide) _, ⟨by decide, lf_not_mem_shownSpan table⟩, by decide⟩

/-- The text is cut into its lines again. -/
theorem splitOn_render :
    table.render.toList.splitOn '\n' =
      table.headerLine.toList :: table.counts.map table.valueRow ++ [table.totalRow, []] := by
  rw [toList_render, splitOn_ended (lf_not_mem_lines h), toList_lines, List.append_assoc]
  rfl

end Text

/-! ## Columns -/

theorem titlesCounts_headerLine (table : FrequencyTable) :
    TitlesCounts (table.valueWidth + 2 + table.countWidth) table.headerLine.toList := by
  have hvalue := five_lt_valueWidth table
  have hcount := (le_max_left _ _).trans (max_le_countWidth table)
  have htitles : "Value".length = 5 ∧ "  ".length = 2 ∧ "Count".length = 5 := by decide
  refine ⟨(padBoth table.valueWidth "Value").toList ++ ("  ".toList ++
    blanks (table.countWidth - "Count".length)), "   ".toList ++ (padLeft 9 "Frequency").toList, ?_, ?_, ?_⟩
  · simp only [headerLine, String.toList_append, toList_padLeft, List.append_assoc]
  · simp [padBoth, blanks]
  · simp only [padBoth, String.toList_append, String.toList_ofList, List.length_append, List.length_replicate,
      length_blanks, String.length_toList]
    omega

theorem showsRow_valueRow {labelEnd countEnd : Nat} {c : String × Nat} (hc : c ∈ table.counts) :
    ShowsRow labelEnd countEnd c.1 c.2 (table.valueRow c) ↔
      labelEnd = max table.valueWidth (c.1.length + padding table.hasMarks c.1) ∧
        countEnd = labelEnd + 2 + table.countWidth := by
  rw [valueRow, ← String.append_empty (s := table.shownRow _ c.2)]
  exact showsRow_iff (toList_shownValue table.hasMarks c.1) (length_le_countWidth hc) ""

theorem showsRow_totalRow {labelEnd countEnd : Nat} :
    ShowsRow labelEnd countEnd "All" table.total table.totalRow ↔
      labelEnd = table.valueWidth ∧ countEnd = labelEnd + 2 + table.countWidth := by
  have hcount := (le_max_right _ _).trans (max_le_countWidth table)
  have hwidth := five_lt_valueWidth table
  have hall : max table.valueWidth ("All".length + 0) = table.valueWidth :=
    max_eq_left ((by decide : "All".length + 0 ≤ 5).trans hwidth.le)
  rw [totalRow, showsRow_iff (k := 0) (List.append_nil _).symm hcount, hall]

/-- The columns are where they belong exactly if every value with its blanks fits into its column. -/
theorem aligned_iff_padding (h : ∀ c ∈ table.counts, '\n' ∉ c.1.toList) :
    table.Aligned ↔
      ∀ c ∈ table.counts, c.1.length + padding table.hasMarks c.1 ≤ table.valueWidth := by
  constructor
  · rintro ⟨labelEnd, countEnd, header, rows, all, hsplit, -, hrows, hall⟩ c hc
    rw [splitOn_render h, List.cons_append, List.cons_append, List.cons.injEq] at hsplit
    obtain ⟨hrows', hends⟩ := List.append_inj' hsplit.2 (by simp only [List.length_cons])
    obtain rfl : table.totalRow = all := (List.cons.inj hends).1
    rw [← hrows', List.forall₂_map_right_iff, List.forall₂_same] at hrows
    have hwidest := ((showsRow_valueRow hc).1 (hrows c hc)).1
    rw [(showsRow_totalRow.1 hall).1] at hwidest
    omega
  · intro hfits
    refine ⟨_, _, _, _, _, splitOn_render h, titlesCounts_headerLine table, ?_,
      showsRow_totalRow.2 ⟨rfl, rfl⟩⟩
    rw [List.forall₂_map_right_iff, List.forall₂_same]
    intro c hc
    exact (showsRow_valueRow hc).2 ⟨(max_eq_left (hfits c hc)).symm, rfl⟩

/-- The rows of a table are aligned with each other and with its header exactly if no value has a mark, or every
value without an exclamation mark is shorter than the longest value by eight characters or more. -/
theorem aligned_iff (h : ∀ c ∈ table.counts, '\n' ∉ c.1.toList) :
    table.Aligned ↔
      (table.hasMarks = true →
        ∀ c ∈ table.counts, marked "!" c.1 = false → c.1.length + 9 ≤ table.valueWidth) := by
  rw [aligned_iff_padding h]
  constructor
  · intro hfits hmarks c hc
    exact (padding_fits_iff hc).1 (hfits c hc) hmarks
  · intro hfits c hc
    exact (padding_fits_iff hc).2 fun hmarks => hfits hmarks c hc

/-! ## Marked values -/

/-- A value without a mark and with each of the marks. -/
def markedTable : FrequencyTable := ⟨[("0x1", 1), ("0x1!conflict", 12), ("0x1!delayed", 1)], 14, none⟩

/-- The value without a mark is short enough. -/
theorem aligned_iff_marked :
    (∀ c ∈ markedTable.counts, '\n' ∉ c.1.toList) ∧ markedTable.hasMarks = true ∧ markedTable.Aligned := by
  have h : ∀ c ∈ markedTable.counts, '\n' ∉ c.1.toList := by simp [markedTable]
  exact ⟨h, by decide +kernel, (aligned_iff h).2 fun _ => by decide +kernel⟩

/-- A capture with a mark alone and another value of its length. -/
def equalLengths : Bytes :=
  Text.encode "x 2024-01-15 00:00:00 abcdefgh\nx 2024-01-15 00:00:01 !delayed\n"

/-- The other value has no room for its nine blanks. -/
theorem not_aligned_of_equalLengths :
    ∃ table, ofBytes equalLengths 3 = .ok table ∧ (∀ c ∈ table.counts, '\n' ∉ c.1.toList) ∧
      ¬ table.Aligned := by
  have hcounts : (ofBytes equalLengths 3).map FrequencyTable.counts = .ok [("!delayed", 1), ("abcdefgh", 1)] := by
    decide +kernel
  cases htable : ofBytes equalLengths 3 with
  | error failure =>
    rw [htable] at hcounts
    cases hcounts
  | ok table =>
    rw [htable] at hcounts
    obtain ⟨counts, total, range⟩ := table
    obtain rfl : counts = _ := Except.ok.inj hcounts
    have h : ∀ c ∈ [("!delayed", 1), ("abcdefgh", 1)], '\n' ∉ c.1.toList := by simp
    refine ⟨_, rfl, h, fun haligned => ?_⟩
    have hfits := (aligned_iff_padding h).1 haligned ("abcdefgh", 1) (by simp)
    exact absurd (show 17 ≤ 9 from hfits) (by decide)

end DeviceBench.FrequencyTable
