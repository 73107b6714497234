/-
The two sides of a comparison. A comparison succeeds exactly if its two sides are the same lines.
What is read of a file is its text with universal newlines, and cutting lines that were put together
gives them back, with their line feeds or without.
-/
import DeviceBench.Golden
import DeviceBench.Proofs.Diff.Reading
import DeviceBench.Proofs.Text.Lines

namespace DeviceBench.Golden

open Text Diff

theorem check_eq_ok_iff {current expected : List String} {currentLabel expectedLabel : String} :
    check current expected currentLabel expectedLabel = .ok () ↔ current = expected := by
  unfold check unified
  by_cases h : current = expected
  · simp [h]
  · simp [h]

theorem withoutMarker_none (lines : List String) : withoutMarker none lines = lines := by
  simp [withoutMarker, hasMarker]

/-! ## Reading -/

/-- A text with universal newlines. -/
def universal (text : String) : String := String.ofList (unifyNewlines text.toList)

theorem readUniversal_eq {files : Files} {path text : String}
    (h : files.read path = .ok (encode text)) : readUniversal files path = .ok (universal text) := by
  rw [readUniversal, Files.readText, h]
  dsimp only
  rw [decode?_encode]
  rfl

/-- Two files compare as equal exactly if the lines of the one, filtered and normalized, are those
of the other. -/
theorem compareFiles_eq_ok_iff {files : Files} {current expected currentText expectedText : String}
    (hcurrent : files.read current = .ok (encode currentText))
    (hexpected : files.read expected = .ok (encode expectedText)) (rules : RuleSet)
    (exclude : Option String) :
    compareFiles files rules current expected exclude = .ok () ↔
      normalizedLines rules exclude (universal currentText) = keptLines (universal expectedText) := by
  unfold compareFiles
  rw [readUniversal_eq hcurrent, readUniversal_eq hexpected]
  simp only [bind, Except.bind, check_eq_ok_iff]

/-- Where nothing is deleted and no line is cut, output compares as equal to a file exactly if its
lines, filtered and normalized, are those of the file. -/
theorem compareOutput_eq_ok_iff {files : Files} {expected text : String}
    (hexpected : files.read expected = .ok (encode text)) (rules : RuleSet) (output : List String)
    (exclude : Option String) :
    compareOutput files rules output expected ⟨exclude, none, []⟩ = .ok () ↔
      rules.applyLines (withoutMarker exclude output) = bareLines (universal text) := by
  have houtput : outputSide rules ⟨exclude, none, []⟩ output =
      .ok (rules.applyLines (withoutMarker exclude output)) := by
    simp only [outputSide, deleteLines, cutLines, Except.map]
  have hexpectedSide : expectedSide ⟨exclude, none, []⟩ (universal text) =
      .ok (bareLines (universal text)) := by
    simp only [expectedSide, deleteLines, cutLines, Except.map]
  unfold compareOutput
  rw [readUniversal_eq hexpected, houtput]
  simp only [bind, Except.bind, hexpectedSide, check_eq_ok_iff]

/-! ## Lines put together -/

/-- An ended text is, with universal newlines, lines without line ends put together. -/
theorem exists_terminated {text : String} (h : Ended text.toList) :
    ∃ lines : List String, (∀ l ∈ lines, OneLine l.toList) ∧ universal text = terminated lines := by
  obtain ⟨lines, hlines, heq⟩ := exists_lines_of_ended h
  refine ⟨lines.map String.ofList, by simpa using hlines, ?_⟩
  apply String.toList_injective
  rw [universal, String.toList_ofList, toList_terminated, heq]
  simp [Function.comp_def]

section Lines

variable {lines : List String} (h : ∀ l ∈ lines, OneLine l.toList)

include h

theorem keptLinesAfter_terminated :
    keptLinesAfter (terminated lines).toList [] = lines.map fun l => l.toList ++ ['\n'] := by
  rw [toList_terminated, keptLinesAfter_lines, List.map_map]
  · rfl
  · intro l hl
    obtain ⟨s, hs, rfl⟩ := List.mem_map.1 hl
    exact (h s hs).1

theorem keptLines_terminated : keptLines (terminated lines) = lines.map (· ++ "\n") := by
  rw [keptLines, keptLinesAfter_terminated h, List.map_map]
  refine List.map_congr_left fun l _ => ?_
  apply String.toList_injective
  simp

theorem bareLines_terminated : bareLines (terminated lines) = lines := by
  rw [bareLines, keptLinesAfter_terminated h, List.map_map]
  simp [Function.comp_def, dropLineFeed_append]

/-- Lines without line ends put together are read as they are. -/
theorem universal_terminated : universal (terminated lines) = terminated lines := by
  rw [universal, unifyNewlines_of_not_mem, String.ofList_toList]
  rw [toList_terminated]
  intro hcr
  obtain ⟨l, hl, hmem⟩ := List.mem_flatMap.1 hcr
  obtain ⟨s, hs, rfl⟩ := List.mem_map.1 hl
  rcases List.mem_append.1 hmem with hmem | hmem
  · exact (h s hs).2 hmem
  · simp at hmem

end Lines

end DeviceBench.Golden
