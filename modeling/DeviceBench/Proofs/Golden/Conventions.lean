/-
Conventions for ending lines. A text may end each of its lines with a line feed, with a carriage return and
a line feed, or with a carriage return alone, mixed as it likes: with universal newlines it reads as
the same lines, each followed by a line feed. Every text is written in some such way, and only an empty
line ended by a line feed cannot follow a line ended by a carriage return, because the two would be one
line end. So neither side of a comparison depends on how the lines of a file are ended.
-/
import DeviceBench.Proofs.Files.Created
import DeviceBench.Proofs.Golden.Sides
import Mathlib.Data.List.Chain

namespace DeviceBench

namespace Text

/-! ## Written texts -/

/-- The conventions for ending a line. -/
inductive LineEnding where
  | lf
  | crlf
  | cr
  deriving DecidableEq, Repr

/-- The characters that end a line. -/
def LineEnding.chars : LineEnding → List Char
  | lf => ['\n']
  | crlf => ['\r', '\n']
  | cr => ['\r']

/-- A line without line ends in it, and how it is ended. -/
structure EndedLine where
  line : List Char
  ending : LineEnding
  oneLine : OneLine line

namespace EndedLine

/-- The line as it is written. -/
def written (l : EndedLine) : List Char := l.line ++ l.ending.chars

/-- The line as it is read. -/
def read (l : EndedLine) : List Char := l.line ++ ['\n']

/-- The end of the line and that of the next, which is empty, make one line end. -/
def Joins (l next : EndedLine) : Prop := l.ending = .cr ∧ next.line = [] ∧ next.ending = .lf

theorem not_joins {l : EndedLine} (h : l.ending ≠ .cr) (next : EndedLine) : ¬ l.Joins next :=
  fun hjoins => h hjoins.1

end EndedLine

/-- How a text is written: lines with their ends and a last line without one, no two ends of which make
one. -/
structure Writing where
  lines : List EndedLine
  last : List Char
  oneLine : OneLine last
  apart : lines.IsChain fun l next => ¬ l.Joins next

namespace Writing

/-- The text as it is written. -/
def text (w : Writing) : List Char := w.lines.flatMap EndedLine.written ++ w.last

/-- The lines, each followed by a line feed, and the last line. -/
def plain (w : Writing) : List Char := w.lines.flatMap EndedLine.read ++ w.last

/-- The lines are the same; they may be ended in other ways. -/
def SameLines (w v : Writing) : Prop :=
  w.lines.map (·.line) = v.lines.map (·.line) ∧ w.last = v.last

theorem SameLines.plain_eq {w v : Writing} (h : w.SameLines v) : w.plain = v.plain := by
  have hread (lines : List EndedLine) :
      lines.flatMap EndedLine.read = (lines.map (·.line)).flatMap (· ++ ['\n']) := by
    rw [List.flatMap_map]
    rfl
  rw [plain, plain, hread, hread, h.1, h.2]

end Writing

/-! ## Reading -/

/-- What has no line end in it is read as it is. -/
theorem unifyNewlines_append {line : List Char} (h : OneLine line) (rest : List Char) :
    unifyNewlines (line ++ rest) = line ++ unifyNewlines rest := by
  induction line with
  | nil => rfl
  | cons c line ih =>
    have hc : c ≠ '\r' := fun he => h.2 (by simp [he])
    have hline : OneLine line :=
      ⟨fun hm => h.1 (List.mem_cons_of_mem c hm), fun hm => h.2 (List.mem_cons_of_mem c hm)⟩
    rw [List.cons_append, unifyNewlines_cons hc, ih hline, List.cons_append]

/-- A line end is read as a line feed, unless it is a carriage return with a line feed behind it. -/
theorem unifyNewlines_ending {ending : LineEnding} {rest : List Char}
    (h : ending = .cr → rest.head? ≠ some '\n') :
    unifyNewlines (ending.chars ++ rest) = '\n' :: unifyNewlines rest := by
  cases ending with
  | lf => exact unifyNewlines_cons (by decide) rest
  | crlf => exact unifyNewlines_crlf rest
  | cr => exact unifyNewlines_cr (h rfl)

/-- A text starts with a line feed exactly if an empty line ended by one is its first. -/
theorem head?_written {lines : List EndedLine} {last : List Char} (hlast : OneLine last)
    (h : (lines.flatMap EndedLine.written ++ last).head? = some '\n') :
    ∃ l ∈ lines.head?, l.line = [] ∧ l.ending = .lf := by
  have hno {line : List Char} (hline : OneLine line) : line.head? ≠ some '\n' :=
    fun hhead => hline.1 (List.mem_of_head? hhead)
  cases lines with
  | nil => exact absurd h (hno hlast)
  | cons l lines =>
    refine ⟨l, rfl, ?_⟩
    rw [List.flatMap_cons, EndedLine.written, List.append_assoc, List.append_assoc] at h
    cases hline : l.line with
    | nil =>
      rw [hline, List.nil_append] at h
      cases hending : l.ending with
      | lf => exact ⟨rfl, rfl⟩
      | crlf | cr => simp [hending, LineEnding.chars] at h
    | cons c cs =>
      rw [hline] at h
      have hc : (c :: cs).head? = some '\n' := by simpa using h
      exact absurd hc (hline ▸ hno l.oneLine)

theorem unifyNewlines_written {lines : List EndedLine} {last : List Char} (hlast : OneLine last)
    (hapart : lines.IsChain fun l next => ¬ l.Joins next) :
    unifyNewlines (lines.flatMap EndedLine.written ++ last) =
      lines.flatMap EndedLine.read ++ last := by
  induction lines with
  | nil => exact unifyNewlines_of_not_mem hlast.2
  | cons l lines ih =>
    have hend : l.ending = .cr → (lines.flatMap EndedLine.written ++ last).head? ≠ some '\n' := by
      intro hcr hhead
      obtain ⟨next, hnext, hempty, hlf⟩ := head?_written hlast hhead
      obtain ⟨rest, rfl⟩ := List.head?_eq_some_iff.1 hnext
      exact (List.isChain_cons_cons.1 hapart).1 ⟨hcr, hempty, hlf⟩
    rw [List.flatMap_cons, EndedLine.written, List.append_assoc, List.append_assoc,
      unifyNewlines_append l.oneLine, unifyNewlines_ending hend,
      ih (List.isChain_of_isChain_cons hapart)]
    simp [EndedLine.read]

/-- However a text is written, it is read as its lines. -/
theorem Writing.unifyNewlines_text (w : Writing) : unifyNewlines w.text = w.plain :=
  unifyNewlines_written w.oneLine w.apart

/-! ## Every text -/

namespace Writing

/-- One line more before a text, with which its first line makes no line end. -/
theorem exists_line_before (w : Writing) (l : EndedLine) (h : ∀ next ∈ w.lines.head?, ¬ l.Joins next) :
    ∃ v : Writing, v.text = l.written ++ w.text := by
  refine ⟨⟨l :: w.lines, w.last, w.oneLine, List.isChain_cons.2 ⟨h, w.apart⟩⟩, ?_⟩
  rw [text, text, List.flatMap_cons, List.append_assoc]

/-- One character more before a text that ends no line belongs to its first line. -/
theorem exists_char_before (w : Writing) {c : Char} (hlf : c ≠ '\n') (hcr : c ≠ '\r') :
    ∃ v : Writing, v.text = c :: w.text := by
  have hone {line : List Char} (h : OneLine line) : OneLine (c :: line) :=
    ⟨by simp [h.1, hlf.symm], by simp [h.2, hcr.symm]⟩
  obtain ⟨lines, last, hlast, hapart⟩ := w
  cases lines with
  | nil => exact ⟨⟨[], c :: last, hone hlast, .nil⟩, rfl⟩
  | cons l lines =>
    -- what the line may not be followed by depends on its end only
    exact ⟨⟨⟨c :: l.line, l.ending, hone l.oneLine⟩ :: lines, last, hlast,
      List.isChain_cons.2 (List.isChain_cons.1 hapart)⟩, rfl⟩

/-- Every text is written in some way. -/
theorem exists_text_eq (text : List Char) : ∃ w : Writing, w.text = text := by
  have hempty : OneLine [] := by simp [OneLine]
  induction text using newline_induction with
  | nil => exact ⟨⟨[], [], hempty, .nil⟩, rfl⟩
  | crlf cs ih =>
    obtain ⟨w, rfl⟩ := ih
    exact w.exists_line_before ⟨[], .crlf, hempty⟩ fun next _ => EndedLine.not_joins (by simp) next
  | cr cs hhead ih =>
    obtain ⟨w, rfl⟩ := ih
    refine w.exists_line_before ⟨[], .cr, hempty⟩ fun next hnext hjoins => hhead ?_
    obtain ⟨rest, hlines⟩ := List.head?_eq_some_iff.1 hnext
    rw [text, hlines, List.flatMap_cons, EndedLine.written, hjoins.2.1, hjoins.2.2]
    rfl
  | other c cs hcr ih =>
    obtain ⟨w, rfl⟩ := ih
    by_cases hlf : c = '\n'
    · subst hlf
      exact w.exists_line_before ⟨[], .lf, hempty⟩ fun next _ => EndedLine.not_joins (by simp) next
    · exact w.exists_char_before hlf hcr

end Writing

end Text

namespace Golden

open Text

/-! ## Comparisons -/

/-- Two places hold the same file at a path, or files that are the same but for how their lines are
ended. -/
def Rewritten (files files' : Files) (path : String) : Prop :=
  files.read path = files'.read path ∨
    ∃ w v : Writing, w.SameLines v ∧ files.read path = .ok (encode (String.ofList w.text)) ∧
      files'.read path = .ok (encode (String.ofList v.text))

theorem readUniversal_writing {files : Files} {path : String} {w : Writing}
    (h : files.read path = .ok (encode (String.ofList w.text))) :
    readUniversal files path = .ok (String.ofList w.plain) := by
  rw [readUniversal_eq h, universal, String.toList_ofList, w.unifyNewlines_text]

theorem Rewritten.readUniversal_eq {files files' : Files} {path : String}
    (h : Rewritten files files' path) : readUniversal files path = readUniversal files' path := by
  rcases h with hsame | ⟨w, v, hlines, hw, hv⟩
  · rw [readUniversal, readUniversal, Files.readText, Files.readText, hsame]
  · rw [readUniversal_writing hw, readUniversal_writing hv, hlines.plain_eq]

/-- A file is read as its lines, each followed by a line feed, and its last line, whatever ends its lines, so
comparing files and comparing output with a file come to the same, down to the text of the difference,
when the lines of the files are ended in another way. No text is left out by this. -/
theorem compare_rewritten (rules : RuleSet) :
    (∀ text : List Char, ∃ w : Writing, w.text = text) ∧
      (∀ (w : Writing) (files : Files) (path : String),
        files.read path = .ok (encode (String.ofList w.text)) →
          readUniversal files path = .ok (String.ofList w.plain)) ∧
      (∀ (files files' : Files) (current expected : String) (exclude : Option String),
        Rewritten files files' current → Rewritten files files' expected →
          compareFiles files rules current expected exclude =
            compareFiles files' rules current expected exclude) ∧
      ∀ (files files' : Files) (output : List String) (expected : String) (options : CompareOptions),
        Rewritten files files' expected →
          compareOutput files rules output expected options =
            compareOutput files' rules output expected options := by
  refine ⟨Writing.exists_text_eq, fun w files path h => readUniversal_writing h, ?_, ?_⟩
  · intro files files' current expected exclude hcurrent hexpected
    rw [compareFiles, compareFiles, hcurrent.readUniversal_eq, hexpected.readUniversal_eq]
  · intro files files' output expected options hexpected
    rw [compareOutput, compareOutput, hexpected.readUniversal_eq]

/-- Carriage returns before a pair and at the end of a file, against other ends of the same lines. -/
theorem compare_rewritten_mixed :
    let files := Files.pair "one\r\r\ntwo\nend" "one\r\n\nTWO\r"
    let files' := Files.pair "one\n\ntwo\nend" "one\r\r\nTWO\r\n"
    Rewritten files files' "current.txt" ∧ Rewritten files files' "expected.txt" ∧
      readUniversal files "current.txt" = .ok "one\n\ntwo\nend" ∧
      compareFiles files .paintedNodes "current.txt" "expected.txt" none =
        compareFiles files' .paintedNodes "current.txt" "expected.txt" none ∧
      compareOutput files .paintedNodes ["one", "", "2"] "expected.txt" .exact =
        compareOutput files' .paintedNodes ["one", "", "2"] "expected.txt" .exact := by
  intro files files'
  let one (ending : LineEnding) : EndedLine := ⟨['o', 'n', 'e'], ending, by decide⟩
  let empty (ending : LineEnding) : EndedLine := ⟨[], ending, by decide⟩
  let two (ending : LineEnding) : EndedLine := ⟨['t', 'w', 'o'], ending, by decide⟩
  let upper (ending : LineEnding) : EndedLine := ⟨['T', 'W', 'O'], ending, by decide⟩
  let w : Writing := ⟨[one .cr, empty .crlf, two .lf], ['e', 'n', 'd'], by decide,
    by simp [EndedLine.Joins, empty, two, one]⟩
  let w' : Writing := ⟨[one .lf, empty .lf, two .lf], ['e', 'n', 'd'], by decide,
    by simp [EndedLine.Joins, empty, two, one]⟩
  let v : Writing := ⟨[one .crlf, empty .lf, upper .cr], [], by decide,
    by simp [EndedLine.Joins, empty, upper, one]⟩
  let v' : Writing := ⟨[one .cr, empty .crlf, upper .crlf], [], by decide,
    by simp [EndedLine.Joins, empty, upper, one]⟩
  have hread : files.read "current.txt" = .ok (encode (String.ofList w.text)) :=
    Files.read_pair_current _ _
  have hcurrent : Rewritten files files' "current.txt" :=
    .inr ⟨w, w', ⟨rfl, rfl⟩, hread, Files.read_pair_current _ _⟩
  have hexpected : Rewritten files files' "expected.txt" :=
    .inr ⟨v, v', ⟨rfl, rfl⟩, Files.read_pair_expected _ _, Files.read_pair_expected _ _⟩
  obtain ⟨-, hlines, hfiles, houtput⟩ := compare_rewritten .paintedNodes
  exact ⟨hcurrent, hexpected, hlines w files _ hread,
    hfiles files files' _ _ none hcurrent hexpected, houtput files files' _ _ .exact hexpected⟩

end Golden

end DeviceBench
