/-
The table of a capture without quotes and carriage returns. Its rows are the lines that are not empty, cut at
single spaces, wherever they stand; so the table accounts for these lines and their order does not matter.
-/
import DeviceBench.Proofs.Frequency.Rows
import DeviceBench.Proofs.Frequency.Tallies
import DeviceBench.Proofs.Text.Pieces
import DeviceBench.Proofs.Text.Utf8
import Mathlib.Data.List.Perm.Basic

namespace DeviceBench

open Text

namespace Row

/-! ## Reading bytes -/

/-- The reader has read rows with these fields and stands in a line of which it has read so much. -/
structure Reading (line : Bytes) (rows : List (List Bytes)) (r : Reader) : Prop where
  place : if line = [] then r.place = .between else r.place = .fieldStart ∨ r.place = .plain
  pieces : r.fields.reverse ++ [r.field.reverse] = line.splitOn space
  rows : r.rows.reverse.map (·.fields) = rows

/-- A byte that is no quote is read the same way wherever a line can stand. -/
theorem Reading.step_eq {line : Bytes} {rows : List (List Bytes)} {r : Reader} (h : Reading line rows r)
    {b : UInt8} (hquote : b ≠ quote) (hstart : line = [] → endsRow b = false) :
    ∃ r' : Reader, r.step b = r'.stepPlain b ∧ r'.field = r.field ∧ r'.fields = r.fields ∧
      r'.rows = r.rows := by
  refine ⟨{ r with bytes := r.bytes + 1, lines := if b = 0x0A then r.lines + 1 else r.lines }, ?_, rfl, rfl,
    rfl⟩
  have hplace := h.place
  unfold Reader.step Reader.stepStart
  split at hplace
  · rename_i hline
    simp only [hplace, hstart hline, if_neg hquote]
    rfl
  · rcases hplace with hplace | hplace
    · simp only [hplace, if_neg hquote]
    · simp only [hplace]

/-- One more byte of the line. -/
theorem Reading.byte {line : Bytes} {rows : List (List Bytes)} {r : Reader} (h : Reading line rows r)
    {b : UInt8} (hquote : b ≠ quote) (hend : endsRow b = false) :
    Reading (line ++ [b]) rows (r.step b) := by
  obtain ⟨r', hstep, hfield, hfields, hrows⟩ := h.step_eq hquote fun _ => hend
  rw [hstep]
  unfold Reader.stepPlain
  by_cases hspace : b = space
  · -- a new piece begins
    rw [if_pos hspace]
    refine ⟨by simp [Reader.endField], ?_, by rw [← h.rows, ← hrows]; rfl⟩
    rw [hspace, List.splitOn_append_cons_self, List.splitOn_nil, ← h.pieces, ← hfield, ← hfields]
    simp [Reader.endField]
  · rw [if_neg hspace, hend]
    refine ⟨by simp [Reader.keep], ?_, by rw [← h.rows, ← hrows]; rfl⟩
    have hbyte : (b == space) = false := beq_false_of_ne hspace
    obtain ⟨earlier, last, hline, hconcat⟩ := splitOnP_concat (p := (· == space)) hbyte line
    have hpieces := h.pieces
    rw [List.splitOn_eq_splitOnP, hline] at hpieces
    obtain ⟨hearlier, hlast⟩ := List.append_inj' hpieces rfl
    obtain rfl : r.field.reverse = last := by simpa using hlast
    rw [List.splitOn_eq_splitOnP, hconcat, ← hearlier, ← hfield, ← hfields]
    simp [Reader.keep]

/-- The end of the line: unless it is empty, it is a row. -/
theorem Reading.lineFeed {line : Bytes} {rows : List (List Bytes)} {r : Reader} (h : Reading line rows r) :
    Reading [] (rows ++ if line = [] then [] else [line.splitOn space]) (r.step 0x0A) := by
  by_cases hline : line = []
  · have hplace := h.place
    rw [if_pos hline] at hplace
    have hstep : r.step 0x0A = { r with bytes := r.bytes + 1, lines := r.lines + 1 } := by
      simp [Reader.step, hplace, endsRow]
    rw [hstep, if_pos hline, List.append_nil]
    exact ⟨hplace, by rw [h.pieces, hline], h.rows⟩
  · obtain ⟨r', hstep, hfield, hfields, hrows⟩ := h.step_eq (b := 0x0A) (by decide)
      (fun hempty => absurd hempty hline)
    have hend : r'.stepPlain 0x0A = r'.endRow := by
      simp [Reader.stepPlain, space, endsRow]
    rw [hstep, hend, if_neg hline, ← h.pieces, ← h.rows, ← hfield, ← hfields, ← hrows]
    refine ⟨rfl, rfl, ?_⟩
    simp [Reader.endRow, Reader.endField]

theorem Reading.finish {line : Bytes} {rows : List (List Bytes)} {r : Reader} (h : Reading line rows r) :
    r.finish.map (·.fields) = rows ++ if line = [] then [] else [line.splitOn space] := by
  have hplace := h.place
  unfold Reader.finish
  split at hplace
  · rename_i hline
    rw [if_pos hplace, if_pos hline, h.rows, List.append_nil]
  · rename_i hline
    have hne : r.place ≠ .between := by
      rcases hplace with hplace | hplace
      · simp [hplace]
      · simp [hplace]
    rw [if_neg hne, if_neg hline, ← h.pieces, ← h.rows]
    simp [Reader.endRow, Reader.endField]

/-- All bytes, to their end. -/
theorem Reading.run {bytes line : Bytes} {rows : List (List Bytes)} {r : Reader} (h : Reading line rows r)
    (hquote : quote ∉ bytes) (hcr : 0x0D ∉ bytes) (hline : 0x0A ∉ line) :
    (bytes.foldl Reader.step r).finish.map (·.fields) =
      rows ++ (((line ++ bytes).splitOn 0x0A).filter (· ≠ [])).map (·.splitOn space) := by
  induction bytes generalizing line rows r with
  | nil =>
    rw [List.foldl_nil, h.finish, List.append_nil, List.splitOn_eq_singleton hline]
    by_cases hempty : line = [] <;> simp [hempty]
  | cons b bytes ih =>
    rw [List.mem_cons, not_or] at hquote hcr
    rw [List.foldl_cons]
    by_cases hlf : b = 0x0A
    · subst hlf
      rw [ih h.lineFeed hquote.2 hcr.2 (by simp), List.splitOn_append_cons_self_of_not_mem hline]
      by_cases hempty : line = [] <;> simp [hempty]
    · have hend : endsRow b = false := by simp [endsRow, hlf, Ne.symm hcr.1]
      have hmore : 0x0A ∉ line ++ [b] := by simp [hline, Ne.symm hlf]
      rw [ih (h.byte (Ne.symm hquote.1) hend) hquote.2 hcr.2 hmore, List.append_assoc]
      rfl

/-- The rows of bytes without quotes and carriage returns: the lines that are not empty, cut at spaces. -/
theorem fields_ofBytes {bytes : Bytes} (hquote : quote ∉ bytes) (hcr : 0x0D ∉ bytes)
    (hmark : dropMark bytes = bytes) :
    (ofBytes bytes).map (·.fields) =
      ((bytes.splitOn 0x0A).filter (· ≠ [])).map (·.splitOn space) := by
  have hstart : Reading [] [] ⟨.between, [], [], 0, 1, bytes.length - bytes.length, 1, []⟩ :=
    ⟨rfl, rfl, rfl⟩
  unfold ofBytes
  rw [hmark]
  exact hstart.run hquote hcr (by simp)

/-! ## Reading texts -/

theorem dropMark_encode {text : String} (h : '\uFEFF' ∉ text.toList) :
    dropMark (encode text) = encode text := by
  unfold dropMark
  split
  · -- these bytes are the mark, which the text lacks
    rename_i bytes hbytes
    have hpieces := utf8Pieces_encode text
    rw [hbytes, utf8Pieces] at hpieces
    have hmark : utf8PiecesOnto .start (0xEF :: 0xBB :: 0xBF :: bytes) [] =
        utf8PiecesOnto .start bytes [some '\uFEFF'] := rfl
    rw [hmark, utf8PiecesOnto_eq_append, List.reverse_append] at hpieces
    have hmem : some '\uFEFF' ∈ text.toList.map some := by
      rw [← hpieces]
      simp
    exact absurd (by simpa using hmem) h
  · rfl

/-- A character of ASCII is written with its byte exactly where it stands. -/
theorem mem_encode_iff {text : String} {c : Char} (hc : c.toNat < 0x80) :
    UInt8.ofNat c.toNat ∈ encode text ↔ c ∈ text.toList := by
  rw [encode, List.mem_flatMap]
  constructor
  · rintro ⟨d, hd, hmem⟩
    have heq := toNat_of_mem_encodeChar hmem (by rw [toNat_byte (by omega)]; exact hc)
    rw [toNat_byte (by omega)] at heq
    rwa [← Char.toNat_inj.1 heq]
  · intro h
    exact ⟨c, h, by rw [encodeChar_of_lt hc]; exact List.mem_singleton_self _⟩

/-- Cutting the bytes of a text at a character of ASCII is cutting the text. -/
theorem splitOn_encode {c : Char} (hc : c.toNat < 0x80) (cs : List Char) :
    (cs.flatMap String.utf8EncodeChar).splitOn (UInt8.ofNat c.toNat) =
      (cs.splitOn c).map (·.flatMap String.utf8EncodeChar) := by
  refine splitOn_flatMap (encodeChar_of_lt hc) (fun d hd hmem => hd ?_) cs
  have heq := toNat_of_mem_encodeChar hmem (by rw [toNat_byte (by omega)]; exact hc)
  rw [toNat_byte (by omega)] at heq
  exact Char.toNat_inj.1 heq

end Row

namespace FrequencyTable

/-! ## Lines of a capture -/

/-- Lines as a capture holds them, with a line feed between each two. -/
def captureText (lines : List String) : String := "\n".intercalate lines

/-- What stands between single spaces. -/
def fieldsOf (line : String) : List String := (line.toList.splitOn ' ').map String.ofList

/-- Nothing in the line ends it, quotes a field or marks the order of bytes. -/
def Plain (line : String) : Prop :=
  ∀ c ∈ line.toList, c ≠ '\n' ∧ c ≠ '"' ∧ c ≠ '\r' ∧ c ≠ '\uFEFF'

instance (line : String) : Decidable (Plain line) :=
  List.decidableBAll (fun c : Char => c ≠ '\n' ∧ c ≠ '"' ∧ c ≠ '\r' ∧ c ≠ '\uFEFF') line.toList

/-- The line is a row with this time and value. -/
def ReadsAs (column : Nat) (line : String) (row : Moment × String) : Prop :=
  ∃ date time, (fieldsOf line)[1]? = some date ∧ (fieldsOf line)[2]? = some time ∧
    Moment.ofColumns date time = .ok row.1 ∧ (fieldsOf line)[column]? = some row.2

/-- The lines that are rows. -/
def rowLines (lines : List String) : List String := lines.filter (· ≠ "")

theorem mem_captureText {lines : List String} {c : Char} (h : c ∈ (captureText lines).toList) :
    c = '\n' ∨ ∃ line ∈ lines, c ∈ line.toList := by
  rw [captureText, String.toList_intercalate] at h
  induction lines with
  | nil => simp at h
  | cons line lines ih =>
    cases lines with
    | nil => exact .inr ⟨line, List.mem_singleton_self line, by simpa using h⟩
    | cons next lines =>
      rw [List.map_cons, List.map_cons, List.intercalate_cons_cons, List.mem_append, List.mem_append] at h
      rcases h with (h | h) | h
      · exact .inr ⟨line, List.mem_cons_self, h⟩
      · exact .inl (by simpa using h)
      · rcases ih h with h | ⟨l, hl, h⟩
        · exact .inl h
        · exact .inr ⟨l, List.mem_cons_of_mem _ hl, h⟩

section Lines

variable {lines : List String} (h : ∀ line ∈ lines, Plain line)

include h

theorem splitOn_captureText :
    ((captureText lines).toList.splitOn '\n').filter (· ≠ []) = (rowLines lines).map String.toList := by
  have hrows : (rowLines lines).map String.toList = (lines.map String.toList).filter (· ≠ []) := by
    rw [rowLines, List.filter_map]
    simp [Function.comp_def]
  rw [hrows, captureText, String.toList_intercalate]
  by_cases hempty : lines = []
  · simp [hempty]
  · rw [show "\n".toList = ['\n'] from rfl, List.splitOn_intercalate '\n' ?_ (by simpa using hempty)]
    intro l hl hmem
    obtain ⟨line, hline, rfl⟩ := List.mem_map.1 hl
    exact (h line hline _ hmem).1 rfl

/-- The rows of a capture are its lines that are not empty, with their fields. -/
theorem forall₂_fields_ofBytes :
    List.Forall₂ (fun r line => r.fields = (fieldsOf line).map encode)
      (Row.ofBytes (encode (captureText lines))) (rowLines lines) := by
  have habsent (c : Char) (hc : c ∈ ['"', '\r', '\uFEFF']) : c ∉ (captureText lines).toList := by
    intro hmem
    rcases mem_captureText hmem with rfl | ⟨line, hline, hmem⟩
    · exact absurd hc (by decide)
    · have hplain := h line hline c hmem
      simp [hplain] at hc
  have hquote : Row.quote ∉ encode (captureText lines) :=
    (Row.mem_encode_iff (c := '"') (by decide)).not.2 (habsent _ (by decide))
  have hcr : 0x0D ∉ encode (captureText lines) :=
    (Row.mem_encode_iff (c := '\r') (by decide)).not.2 (habsent _ (by decide))
  have hmark := Row.dropMark_encode (habsent '\uFEFF' (by decide))
  have hlines : ((encode (captureText lines)).splitOn 0x0A).filter (· ≠ []) =
      (rowLines lines).map encode := by
    have hsplit := Row.splitOn_encode (c := '\n') (by decide) (captureText lines).toList
    have hkept (l : List Char) : l.flatMap String.utf8EncodeChar ≠ [] ↔ l ≠ [] := by
      cases l with
      | nil => simp
      | cons c cs =>
        obtain ⟨b, bs, hb, -⟩ := exists_firstByte c
        simp [hb]
    rw [encode, show (0x0A : UInt8) = UInt8.ofNat '\n'.toNat from rfl, hsplit, List.filter_map]
    simp only [Function.comp_def, hkept]
    rw [splitOn_captureText h, List.map_map]
    rfl
  have hfields : (Row.ofBytes (encode (captureText lines))).map (·.fields) =
      (rowLines lines).map fun line => (fieldsOf line).map encode := by
    rw [Row.fields_ofBytes hquote hcr hmark, hlines, List.map_map]
    refine List.map_congr_left fun line _ => ?_
    have hsplit := Row.splitOn_encode (c := ' ') (by decide) line.toList
    rw [fieldsOf, List.map_map]
    refine hsplit.trans (List.map_congr_left fun piece _ => ?_)
    simp [encode]
  rw [← List.forall₂_eq_eq_eq, List.forall₂_map_left_iff, List.forall₂_map_right_iff] at hfields
  exact hfields

end Lines

/-! ## The table -/

/-- How a row is read depends on its fields only. -/
theorem reads_iff_readsAs {r : Row} {line : String} (h : r.fields = (fieldsOf line).map encode)
    {valueColumn : Nat} {read : Moment × String} :
    r.Reads valueColumn read ↔ ReadsAs valueColumn line read := by
  have htexts (texts : List String) : r.Texts texts ↔ fieldsOf line = texts := by
    simp only [Row.Texts, h, List.forall₂_map_left_iff, decode?_encode, Option.some.injEq,
      List.forall₂_eq_eq_eq]
  unfold Row.Reads ReadsAs
  simp only [htexts]
  constructor
  · rintro ⟨texts, date, time, rfl, hread⟩
    exact ⟨date, time, hread⟩
  · rintro ⟨date, time, hread⟩
    exact ⟨_, date, time, rfl, hread⟩

theorem forall₂_reads_iff {rs : List Row} {lines : List String}
    (h : List.Forall₂ (fun r line => r.fields = (fieldsOf line).map encode) rs lines) {valueColumn : Nat}
    {rows : List (Moment × String)} :
    List.Forall₂ (Row.Reads valueColumn) rs rows ↔ List.Forall₂ (ReadsAs valueColumn) lines rows := by
  induction h generalizing rows with
  | nil => simp only [List.forall₂_nil_left_iff]
  | cons hfields _ ih => simp only [List.forall₂_cons_left_iff, reads_iff_readsAs hfields, ih]

/-- A capture has a table exactly if its lines that are not empty are all rows, and then it is the table of
these rows. -/
theorem ofBytes_eq_ok_iff {lines : List String} (h : ∀ line ∈ lines, Plain line) {valueColumn : Nat}
    {table : FrequencyTable} :
    ofBytes (encode (captureText lines)) valueColumn = .ok table ↔
      ∃ rows, List.Forall₂ (ReadsAs valueColumn) (rowLines lines) rows ∧ table = ofRows rows :=
  addRows_eq_ok_iff.trans
    (exists_congr fun _ => and_congr_left' (forall₂_reads_iff (forall₂_fields_ofBytes h)))

/-- The table of a capture accounts for its rows, and the capture with its lines in any other order has the
same table and the same text of it. -/
theorem ofBytes_account {lines : List String} (h : ∀ line ∈ lines, Plain line) {valueColumn : Nat}
    {table : FrequencyTable} (htable : ofBytes (encode (captureText lines)) valueColumn = .ok table) :
    (∃ rows, List.Forall₂ (ReadsAs valueColumn) (rowLines lines) rows ∧ Tallies rows table) ∧
      table.total = (rowLines lines).length ∧
      ∀ lines' : List String, lines'.Perm lines →
        ∃ table', ofBytes (encode (captureText lines')) valueColumn = .ok table' ∧ table' = table ∧
          table'.render = table.render := by
  obtain ⟨rows, hrows, rfl⟩ := (ofBytes_eq_ok_iff h).1 htable
  have htallies := tallies_ofRows rows
  refine ⟨⟨rows, hrows, htallies⟩, htallies.total.trans hrows.length_eq.symm, ?_⟩
  intro lines' hperm
  have hplain : ∀ line ∈ lines', Plain line := fun line hline => h line (hperm.mem_iff.1 hline)
  -- the same rows, in the order of the other lines
  obtain ⟨rows', hrows', hsame⟩ := List.perm_comp_forall₂ (hperm.filter (· ≠ "")) hrows
  refine ⟨ofRows rows', (ofBytes_eq_ok_iff hplain).2 ⟨rows', hrows', rfl⟩, ?_⟩
  rw [ofRows_perm hsame]
  exact ⟨rfl, rfl⟩

/-! ## Lines out of order -/

/-- A day that only leap years have. -/
def leapDay : Date := ⟨2024, 2, 29, by decide, by decide, by decide⟩

/-- A capture with empty lines, a later row before an earlier one, and a value that is not ASCII. -/
def shuffledLines : List String :=
  ["", "x 2024-02-29 00:00:02 ü", "x 2024-02-29 00:00:01.5 a b", "", "x 2024-02-29 00:00:03.25 ü"]

/-- The table of the capture. -/
def shuffledTable : FrequencyTable :=
  ⟨[("a", 1), ("ü", 2)], 3, some (⟨leapDay, 1, 500000000, by decide, by decide, by decide⟩,
    ⟨leapDay, 3, 250000000, by decide, by decide, by decide⟩)⟩

/-- The capture has this table, and has it backwards too. -/
theorem ofBytes_account_shuffled :
    (∀ line ∈ shuffledLines, Plain line) ∧
      ofBytes (encode (captureText shuffledLines)) 3 = .ok shuffledTable ∧
      shuffledTable.total = (rowLines shuffledLines).length ∧
      ofBytes (encode (captureText shuffledLines.reverse)) 3 = .ok shuffledTable := by
  have hplain : ∀ line ∈ shuffledLines, Plain line := by decide
  have htable : ofBytes (encode (captureText shuffledLines)) 3 = .ok shuffledTable := by decide +kernel
  obtain ⟨-, htotal, hperm⟩ := ofBytes_account hplain htable
  obtain ⟨table, hbackwards, rfl, -⟩ := hperm _ (List.reverse_perm shuffledLines)
  exact ⟨hplain, htable, htotal, hbackwards⟩

end FrequencyTable

end DeviceBench
