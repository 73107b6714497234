/-
Regenerating an expected file. What a result is compared as, written out as a file, is read back as
the same lines and is at rest under the rules, so the result is accepted against it and the file is
accepted against itself.
-/
import DeviceBench.Proofs.Golden.Agreement

namespace DeviceBench.Golden

open Text Diff RuleSet

/-- The expected file that a result regenerates: its lines as they are compared, one after the
other. -/
def regenerated (rules : RuleSet) (exclude : Option String) (text : String) : String :=
  String.join (normalizedLines rules exclude (universal text))

section Regenerated

variable {s : RuleSet} (h : Layered s) (hone : ∀ r ∈ s.rules, r.OneLine)

include h hone

/-- The lines that an ended result is compared as are normalized lines without line ends, each
followed by a line feed, whatever the marker is. -/
theorem exists_normalizedLines (exclude : Option String) {text : String}
    (htext : Ended text.toList) :
    ∃ kept : List String, (∀ l ∈ kept, OneLine l.toList) ∧
      (∀ l ∈ kept, s.applyLine l = l) ∧
      normalizedLines s exclude (universal text) = kept.map (· ++ "\n") := by
  obtain ⟨lines, hlines, heq⟩ := exists_terminated htext
  refine ⟨s.applyLines (lines.filter fun line => !hasMarker exclude (line ++ "\n")), ?_, ?_, ?_⟩
  · intro l hl
    obtain ⟨k, hk, rfl⟩ := List.mem_map.1 hl
    exact oneLine_applyLine h hone (hlines k (List.mem_filter.1 hk).1)
  · intro l hl
    obtain ⟨k, -, rfl⟩ := List.mem_map.1 hl
    exact h.applyLine_applyLine k
  · rw [normalizedLines, heq, keptLines_terminated hlines, withoutMarker_map_append_lf,
      applyLines_map_append_lf h hone]

end Regenerated

/-- With the painted rules, or none, and further rules that lose bytes, none of them with a line end
in it, an ended result is accepted against the expected file that it regenerates, and that file is
accepted against itself. -/
theorem compareFiles_regenerated {base s : RuleSet} {rules : List Rule}
    (hbase : base = empty ∨ base = paintedNodes) (hs : base.withRules rules = .ok s)
    (hlen : ∀ r ∈ rules, r.replacement.utf8ByteSize < r.pattern.utf8ByteSize)
    (hone : ∀ r ∈ rules, r.OneLine) (exclude : Option String) {files : Files}
    {current expected text : String} (htext : Ended text.toList)
    (hcurrent : files.read current = .ok (encode text))
    (hexpected : files.read expected = .ok (encode (regenerated s exclude text))) :
    compareFiles files s current expected exclude = .ok () ∧
      compareFiles files s expected expected none = .ok () := by
  have hlayered : Layered s := layers_of_withRules hbase hs hlen
  have hrules := oneLine_of_withRules hbase hs hone
  obtain ⟨kept, hkept, hrest, hnormal⟩ := exists_normalizedLines hlayered hrules exclude htext
  have hwritten : regenerated s exclude text = terminated kept := by
    rw [regenerated, hnormal, terminated]
  have hread : keptLines (universal (regenerated s exclude text)) = kept.map (· ++ "\n") := by
    rw [hwritten, universal_terminated hkept, keptLines_terminated hkept]
  refine ⟨?_, ?_⟩
  · rw [compareFiles_eq_ok_iff hcurrent hexpected, hnormal, hread]
  · have hsame : s.applyLines kept = kept := by
      rw [applyLines]
      exact (List.map_congr_left hrest).trans (List.map_id kept)
    rw [compareFiles_eq_ok_iff hexpected hexpected, normalizedLines, hread, withoutMarker_none,
      applyLines_map_append_lf hlayered hrules, hsame]

/-- The painted result with a marker that holds a line feed, against what it regenerates. -/
theorem compareFiles_regenerated_painted :
    paintedNodes.withRules [⟨"(x)", ""⟩] = .ok ⟨paintedRules ++ [⟨"(x)", ""⟩]⟩ ∧
      Ended paintedResult.toList ∧
      regenerated ⟨paintedRules ++ [⟨"(x)", ""⟩]⟩ (some "12:00\n") paintedResult = cleanGolden ∧
      (Files.pair paintedResult cleanGolden).read "current.txt" = .ok (encode paintedResult) ∧
      (Files.pair paintedResult cleanGolden).read "expected.txt" = .ok (encode cleanGolden) ∧
      compareFiles (Files.pair paintedResult cleanGolden) ⟨paintedRules ++ [⟨"(x)", ""⟩]⟩
        "current.txt" "expected.txt" (some "12:00\n") = .ok () ∧
      compareFiles (Files.pair paintedResult cleanGolden) ⟨paintedRules ++ [⟨"(x)", ""⟩]⟩
        "expected.txt" "expected.txt" none = .ok () := by
  have hs : paintedNodes.withRules [⟨"(x)", ""⟩] = .ok ⟨paintedRules ++ [⟨"(x)", ""⟩]⟩ := by
    decide +kernel
  have hgolden : regenerated ⟨paintedRules ++ [⟨"(x)", ""⟩]⟩ (some "12:00\n") paintedResult =
      cleanGolden := by decide +kernel
  have hcurrent := Files.read_pair_current paintedResult cleanGolden
  have hexpected := Files.read_pair_expected paintedResult cleanGolden
  have htext : Ended paintedResult.toList := by decide
  refine ⟨hs, htext, hgolden, hcurrent, hexpected, ?_⟩
  exact compareFiles_regenerated (.inr rfl) hs (by decide) (by decide) (some "12:00\n") htext hcurrent
    (by rw [hgolden]; exact hexpected)

end DeviceBench.Golden
