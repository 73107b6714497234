/-
The difference between two files. Where the comparison of a result with its expected file fails, its
text is that of the difference between lines which keep their line feeds, and each of them is
followed by one more. So the text has the shape of a patch exactly if no path and no line that it
shows has a line feed: without rules that write or remove them, only the unended last lines can be
such lines.
-/
import DeviceBench.Proofs.Diff.Shape
import DeviceBench.Proofs.Files.Created
import DeviceBench.Proofs.Golden.Sides

namespace DeviceBench.Golden

open Text Diff

theorem readUniversal_ne_mismatch {files : Files} {path expected diff : String} :
    readUniversal files path ≠ .error (.goldenMismatch expected diff) := by
  unfold readUniversal Files.readText
  cases files.read path with
  | error cause => simp [Except.map]
  | ok bytes =>
    dsimp only
    cases decode? bytes <;> simp [Except.map]

theorem check_eq_mismatch_iff {current expected : List String}
    {currentLabel expectedLabel path diff : String} :
    check current expected currentLabel expectedLabel = .error (.goldenMismatch path diff) ↔
      path = expectedLabel ∧ unified current expected currentLabel expectedLabel = some diff := by
  unfold check
  cases unified current expected currentLabel expectedLabel with
  | none => simp
  | some text => simp [eq_comm]

/-- A mismatch of two files is the difference of the lines that are compared. -/
theorem compareFiles_eq_mismatch {files : Files} {rules : RuleSet}
    {current expected path diff : String} {exclude : Option String}
    (h : compareFiles files rules current expected exclude = .error (.goldenMismatch path diff)) :
    ∃ currentText expectedText, readUniversal files current = .ok currentText ∧
      readUniversal files expected = .ok expectedText ∧ path = expected ∧
      unified (normalizedLines rules exclude currentText) (keptLines expectedText) current expected =
        some diff := by
  unfold compareFiles at h
  cases hcurrent : readUniversal files current with
  | error failure =>
    rw [hcurrent] at h
    cases h
    exact absurd hcurrent readUniversal_ne_mismatch
  | ok currentText =>
    cases hexpected : readUniversal files expected with
    | error failure =>
      rw [hcurrent, hexpected] at h
      cases h
      exact absurd hexpected readUniversal_ne_mismatch
    | ok expectedText =>
      rw [hcurrent, hexpected] at h
      obtain ⟨hpath, hdiff⟩ := check_eq_mismatch_iff.1 h
      exact ⟨currentText, expectedText, rfl, rfl, hpath, hdiff⟩

theorem map_unended_keptLines (text : String) : (keptLines text).map unended = bareLines text := by
  rw [keptLines, bareLines, List.map_map]
  simp [Function.comp_def, unended]

/-- The difference between two files has the shape of a patch between their lines without line feeds
exactly if no path and no line that it shows has a line feed. -/
theorem compareFiles_shows_iff {files : Files} {rules : RuleSet}
    {current expected path diff : String} {exclude : Option String}
    (h : compareFiles files rules current expected exclude = .error (.goldenMismatch path diff)) :
    ∃ currentText expectedText, readUniversal files current = .ok currentText ∧
      readUniversal files expected = .ok expectedText ∧ path = expected ∧
      (ShowsPatch diff current expected ((normalizedLines rules exclude currentText).map unended)
          (bareLines expectedText) ↔
        Unbroken [current, expected] ∧
          ∀ hunk ∈ hunks (normalizedLines rules exclude currentText) (keptLines expectedText),
            Unbroken hunk.removed ∧ Unbroken hunk.added) := by
  obtain ⟨currentText, expectedText, hcurrent, hexpected, hpath, hdiff⟩ := compareFiles_eq_mismatch h
  refine ⟨currentText, expectedText, hcurrent, hexpected, hpath, ?_⟩
  rw [← map_unended_keptLines]
  exact unified_shows_iff hdiff

/-- Two files that differ in their unended last lines only. -/
theorem compareFiles_shows_unended :
    compareFiles (Files.pair "one\ntwo" "one\nTWO") .empty "current.txt" "expected.txt" none =
        .error (.goldenMismatch "expected.txt"
          "--- current.txt\n+++ expected.txt\n@@ -2 +2 @@\n-two\n+TWO\n") ∧
      ShowsPatch "--- current.txt\n+++ expected.txt\n@@ -2 +2 @@\n-two\n+TWO\n" "current.txt"
        "expected.txt" ["one", "two"] ["one", "TWO"] := by
  have hmismatch :
      compareFiles (Files.pair "one\ntwo" "one\nTWO") .empty "current.txt" "expected.txt" none =
        .error (.goldenMismatch "expected.txt"
          "--- current.txt\n+++ expected.txt\n@@ -2 +2 @@\n-two\n+TWO\n") := by
    decide +kernel
  obtain ⟨currentText, expectedText, hcurrent, hexpected, -, hshows⟩ :=
    compareFiles_shows_iff hmismatch
  rw [readUniversal_eq (Files.read_pair_current _ _)] at hcurrent
  rw [readUniversal_eq (Files.read_pair_expected _ _)] at hexpected
  cases hcurrent
  cases hexpected
  have hold : (normalizedLines .empty none (universal "one\ntwo")).map unended = ["one", "two"] := by
    decide +kernel
  have hnew : bareLines (universal "one\nTWO") = ["one", "TWO"] := by decide +kernel
  rw [hold, hnew] at hshows
  exact ⟨hmismatch, hshows.2 (by decide +kernel)⟩

/-- The difference between two files of one ended line has empty lines, which no patch has. -/
theorem compareFiles_not_shows :
    compareFiles (Files.pair "one\n" "two\n") .empty "current.txt" "expected.txt" none =
        .error (.goldenMismatch "expected.txt"
          "--- current.txt\n+++ expected.txt\n@@ -1 +1 @@\n-one\n\n+two\n\n") ∧
      ¬ ShowsPatch "--- current.txt\n+++ expected.txt\n@@ -1 +1 @@\n-one\n\n+two\n\n" "current.txt"
        "expected.txt" ["one"] ["two"] := by
  refine ⟨by decide +kernel, ?_⟩
  rintro ⟨hunkLines, -, hshows, hread⟩
  have hlines : terminatedLines?
      "--- current.txt\n+++ expected.txt\n@@ -1 +1 @@\n-one\n\n+two\n\n".toList =
        some ["--- current.txt".toList, "+++ expected.txt".toList, "@@ -1 +1 @@".toList,
          "-one".toList, [], "+two".toList, []] := by decide +kernel
  rw [hlines] at hread
  simp only [Option.some.injEq, List.cons.injEq] at hread
  rw [← hread.2.2] at hshows
  exact hshows.nil_not_mem (by simp)

end DeviceBench.Golden
