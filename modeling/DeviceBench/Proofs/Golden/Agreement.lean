/-
Ways to compare that agree. Comparing two files with their line feeds is comparing the lines without
them, since a line feed changes neither which lines carry a marker nor how a line is normalized. A
file that holds the very output it is compared with is read as the same lines exactly where none of
the characters occurs that only captured output is cut at.
-/
import DeviceBench.Proofs.Files.Created
import DeviceBench.Proofs.Golden.Sides
import DeviceBench.Proofs.Rules.LineEnds

namespace DeviceBench.Golden

open Text Diff RuleSet

/-! ## Lines with a line feed -/

theorem append_lf_injective : Function.Injective fun line : String => line ++ "\n" := by
  intro a b h
  apply String.toList_injective
  simpa using congrArg String.toList h

theorem withoutMarker_map_append_lf (marker : Option String) (lines : List String) :
    withoutMarker marker (lines.map (· ++ "\n")) =
      (lines.filter fun line => !hasMarker marker (line ++ "\n")).map (· ++ "\n") := by
  rw [withoutMarker, List.filter_map]
  rfl

/-- A marker without line ends is in a line with a line feed exactly if it is in the line. -/
theorem hasMarker_append_lf {marker : Option String} (h : ∀ m ∈ marker, OneLine m.toList)
    (line : String) : hasMarker marker (line ++ "\n") = hasMarker marker line := by
  cases marker with
  | none => rfl
  | some m =>
    have hlf : '\n' ∉ m.toList := (h m rfl).1
    have hoccurs : occurs m.toList (line ++ "\n").toList = occurs m.toList line.toList := by
      rw [Bool.eq_iff_iff, occurs_iff, occurs_iff, String.toList_append]
      refine (infix_append_cons_iff hlf line.toList []).trans (or_iff_left_of_imp fun hnil => ?_)
      rw [List.eq_nil_of_infix_nil hnil]
      exact List.nil_infix
    simp only [hasMarker, Option.any_some, hoccurs]

theorem applyLines_map_append_lf {s : RuleSet} (h : Layered s) (hone : ∀ r ∈ s.rules, r.OneLine)
    (lines : List String) :
    s.applyLines (lines.map (· ++ "\n")) = (s.applyLines lines).map (· ++ "\n") := by
  rw [applyLines, applyLines, List.map_map, List.map_map]
  exact List.map_congr_left fun line _ => applyLine_append_lf h hone line

/-! ## Files and output -/

/-- With the painted rules, or none, and further rules that lose bytes, none of them with a line end
in it, an ended result file compares as equal to an ended expected file exactly if its lines do as
output. -/
theorem compareFiles_iff_compareOutput {base s : RuleSet} {rules : List Rule}
    (hbase : base = empty ∨ base = paintedNodes) (hs : base.withRules rules = .ok s)
    (hlen : ∀ r ∈ rules, r.replacement.utf8ByteSize < r.pattern.utf8ByteSize)
    (hone : ∀ r ∈ rules, r.OneLine) {exclude : Option String}
    (hexclude : ∀ m ∈ exclude, OneLine m.toList) {files : Files}
    {current expected currentText expectedText : String}
    (hcurrent : files.read current = .ok (encode currentText))
    (hexpected : files.read expected = .ok (encode expectedText))
    (hcurrentText : Ended currentText.toList) (hexpectedText : Ended expectedText.toList) :
    compareFiles files s current expected exclude = .ok () ↔
      compareOutput files s (bareLines (universal currentText)) expected (.of exclude none []) =
        .ok () := by
  have hlayered : Layered s := layers_of_withRules hbase hs hlen
  have hrules := oneLine_of_withRules hbase hs hone
  obtain ⟨lines, hlines, htext⟩ := exists_terminated hcurrentText
  obtain ⟨wanted, hwanted, hwantedText⟩ := exists_terminated hexpectedText
  have hfilter : withoutMarker exclude (lines.map (· ++ "\n")) =
      (withoutMarker exclude lines).map (· ++ "\n") := by
    rw [withoutMarker_map_append_lf]
    simp only [hasMarker_append_lf hexclude, withoutMarker]
  -- an empty marker is none in both
  have hmarker : withoutMarker (exclude.filter (· ≠ "")) lines = withoutMarker exclude lines := by
    cases exclude with
    | none => rfl
    | some m => by_cases hm : m = "" <;> simp [withoutMarker, hasMarker, Option.filter, hm]
  have hfiles : compareFiles files s current expected exclude = .ok () ↔
      s.applyLines (withoutMarker exclude lines) = wanted := by
    rw [compareFiles_eq_ok_iff hcurrent hexpected, normalizedLines, htext, hwantedText,
      keptLines_terminated hlines, keptLines_terminated hwanted, hfilter,
      applyLines_map_append_lf hlayered hrules]
    exact append_lf_injective.list_map.eq_iff
  have houtput : compareOutput files s (bareLines (universal currentText)) expected
        (.of exclude none []) = .ok () ↔
      s.applyLines (withoutMarker exclude lines) = wanted := by
    rw [CompareOptions.of, Option.filter_none, compareOutput_eq_ok_iff hexpected, htext, hwantedText,
      bareLines_terminated hlines, bareLines_terminated hwanted, hmarker]
  rw [hfiles, houtput]

/-- A painted result with a line that is left out and line ends of two characters. -/
def paintedResult : String :=
  "A [fillcolor = \"gr(x)een\"];\r\n# generated 12:00\r\n\r\nB(x);\n"

/-- What is expected of it. -/
def cleanGolden : String := "A [fillcolor = \"white\"];\n\nB;\n"

/-- The painted result is accepted both ways. -/
theorem compareFiles_iff_compareOutput_painted :
    paintedNodes.withRules [⟨"(x)", ""⟩] = .ok ⟨paintedRules ++ [⟨"(x)", ""⟩]⟩ ∧
      (Files.pair paintedResult cleanGolden).read "current.txt" = .ok (encode paintedResult) ∧
      (Files.pair paintedResult cleanGolden).read "expected.txt" = .ok (encode cleanGolden) ∧
      Ended paintedResult.toList ∧ Ended cleanGolden.toList ∧
      compareFiles (Files.pair paintedResult cleanGolden) ⟨paintedRules ++ [⟨"(x)", ""⟩]⟩
        "current.txt" "expected.txt" (some "generated") = .ok () ∧
      compareOutput (Files.pair paintedResult cleanGolden) ⟨paintedRules ++ [⟨"(x)", ""⟩]⟩
        (bareLines (universal paintedResult)) "expected.txt" (.of (some "generated") none []) =
          .ok () := by
  have hs : paintedNodes.withRules [⟨"(x)", ""⟩] = .ok ⟨paintedRules ++ [⟨"(x)", ""⟩]⟩ := by
    decide +kernel
  have hcurrent := Files.read_pair_current paintedResult cleanGolden
  have hexpected := Files.read_pair_expected paintedResult cleanGolden
  have hfiles := (compareFiles_eq_ok_iff hcurrent hexpected ⟨paintedRules ++ [⟨"(x)", ""⟩]⟩
    (some "generated")).2 (by decide +kernel)
  refine ⟨hs, hcurrent, hexpected, by decide, by decide, hfiles, ?_⟩
  exact (compareFiles_iff_compareOutput (.inr rfl) hs (by decide) (by decide) (by decide) hcurrent
    hexpected (by decide) (by decide)).1 hfiles

/-! ## Output and a file that holds it -/

theorem applyLines_empty (lines : List String) : empty.applyLines lines = lines := by
  have hline (line : String) : empty.applyLine line = line := by
    rw [applyLine_eq_iterate, Function.iterate_fixed rfl, String.ofList_toList]
  rw [applyLines, funext hline]
  exact List.map_id _

/-- Output and a file of the same bytes fall into the same lines exactly where none of the characters
occurs that only output is cut at. -/
theorem splitLines_encode_eq_iff (text : String) :
    splitLines (encode text) = bareLines (universal text) ↔ ∀ c ∈ text.toList, c ∉ outputBreaks := by
  have hbare : bareLines (universal text) =
      ((keptLinesAfter (unifyNewlines text.toList) []).map dropLineFeed).map String.ofList := by
    rw [bareLines, universal, String.toList_ofList, List.map_map]
    rfl
  have hinjective : Function.Injective String.ofList :=
    Function.LeftInverse.injective fun _ => String.toList_ofList
  rw [← linesAfter_eq_iff, splitLines, decodeLossy_encode, hbare]
  exact hinjective.list_map.eq_iff

/-- Output compares as equal to a file that holds it, and falls into the same lines, exactly where
none of the characters occurs that only output is cut at. -/
theorem compareOutput_captured_iff {files : Files} {path text : String}
    (hfile : files.read path = .ok (encode text)) :
    (compareOutput files empty (splitLines (encode text)) path .exact = .ok () ↔
      ∀ c ∈ text.toList, c ∉ outputBreaks) ∧
    (splitLines (encode text) = bareLines (universal text) ↔
      ∀ c ∈ text.toList, c ∉ outputBreaks) := by
  refine ⟨?_, splitLines_encode_eq_iff text⟩
  rw [CompareOptions.exact, compareOutput_eq_ok_iff hfile, withoutMarker_none, applyLines_empty]
  exact splitLines_encode_eq_iff text

/-- Line ends of both kinds, an empty line and a last line that is not ended. -/
theorem compareOutput_captured_iff_mixed :
    (Files.pair "" "a\r\nb\rc\n\nd").read "expected.txt" = .ok (encode "a\r\nb\rc\n\nd") ∧
      compareOutput (Files.pair "" "a\r\nb\rc\n\nd") empty
        (splitLines (encode "a\r\nb\rc\n\nd")) "expected.txt" .exact = .ok () := by
  have hfile := Files.read_pair_expected "" "a\r\nb\rc\n\nd"
  exact ⟨hfile, (compareOutput_captured_iff hfile).1.2 (by simp [outputBreaks])⟩

/-- Output with a vertical tab is cut there, and the file that holds it is not. -/
theorem compareOutput_captured_ne :
    (Files.pair "" "a\x0bb").read "expected.txt" = .ok (encode "a\x0bb") ∧
      splitLines (encode "a\x0bb") = ["a", "b"] ∧ bareLines (universal "a\x0bb") = ["a\x0bb"] ∧
      compareOutput (Files.pair "" "a\x0bb") empty (splitLines (encode "a\x0bb")) "expected.txt"
        .exact ≠ .ok () := by
  have hfile := Files.read_pair_expected "" "a\x0bb"
  refine ⟨hfile, by decide +kernel, by decide +kernel, ?_⟩
  rw [CompareOptions.exact, Ne, compareOutput_eq_ok_iff hfile]
  decide +kernel

end DeviceBench.Golden
