/-
The journal of a log. Each entry is written as one line at the end of the file that was created for it, so
the file can be read back as the lines of the entries, in the order in which they were recorded.
-/
import DeviceBench.Proofs.Files.Created
import DeviceBench.Proofs.Json.Printable
import DeviceBench.Proofs.Text.Lines
import DeviceBench.Proofs.World.Runs

namespace DeviceBench

/-! ## The text of a journal -/

namespace CaptureLog

/-- The text of a journal with these entries. -/
def journalText (entries : List Entry) : String := String.join (entries.map journalLine)

theorem journalText_append (entries : List Entry) (e : Entry) :
    journalText (entries ++ [e]) = journalText entries ++ journalLine e := by
  apply String.toList_injective
  simp [journalText, String.toList_join]

theorem toList_journalText (entries : List Entry) :
    (journalText entries).toList =
      (entries.map fun e => e.toText.toList).flatMap (· ++ ['\n']) := by
  rw [journalText, String.toList_join, List.flatMap_map, List.flatMap_map]
  simp [journalLine]

theorem unbroken_lines (entries : List Entry) :
    ∀ line ∈ entries.map fun e => e.toText.toList, '\n' ∉ line := by
  intro line hline
  obtain ⟨e, -, rfl⟩ := List.mem_map.1 hline
  exact Json.not_mem_toText e.toJson

/-- Every entry becomes one line. -/
theorem keptLines_journalText (entries : List Entry) :
    Text.keptLines (journalText entries) = entries.map journalLine := by
  rw [Text.keptLines, toList_journalText, Text.keptLinesAfter_lines (unbroken_lines entries),
    List.map_map, List.map_map]
  refine List.map_congr_left fun e _ => ?_
  apply String.toList_injective
  simp [journalLine]

end CaptureLog

/-! ## The journal of a world -/

namespace World

open CaptureLog (journalText journalLine)

/-- The journal is the file at a path, it holds the lines of these entries, and the next goes to its
end. -/
structure Journals (w : World) (path : String) (entries : List Entry) (number : Nat) : Prop where
  journal : w.journal = some ⟨number, (Text.encode (journalText entries)).length⟩
  found : ∃ dir name found, w.files.resolve path = .ok (.file dir name number found false)
  content : w.files.contentOf number = Text.encode (journalText entries)

theorem Journals.stored {w : World} {path : String} {entries : List Entry} {number : Nat}
    (h : w.Journals path entries number) : number < w.files.contents.length := by
  obtain ⟨_, _, found, -⟩ := h.found
  exact w.files.numbered _ _ found

/-- A journal that has just been made holds nothing. -/
theorem journals_of_created {w w' : World} {path : String} (hopen : w.withJournaledLog path = .ok w') :
    w'.log = some (.empty true) ∧ ∃ number, w'.Journals path [] number := by
  unfold withJournaledLog at hopen
  cases hcreate : w.files.create path with
  | error e =>
    rw [hcreate] at hopen
    cases hopen
  | ok created =>
    obtain ⟨number, files⟩ := created
    rw [hcreate] at hopen
    cases hopen
    exact ⟨rfl, number, rfl, Files.resolve_create hcreate, Files.contentOf_create hcreate⟩

/-- A run that is recorded adds its line to the journal. -/
theorem Journals.record {w : World} {path : String} {entries : List Entry} {number : Nat}
    {log : CaptureLog} (h : w.Journals path entries number) (hlog : w.log = some log)
    (command : CommandLine) (outcome : Outcome) :
    (w.record command outcome).Journals path
      (entries ++ [log.nextEntry w.clock command outcome]) number := by
  have htext : Text.encode (journalText (entries ++ [log.nextEntry w.clock command outcome])) =
      Text.encode (journalText entries) ++
        Text.encode (journalLine (log.nextEntry w.clock command outcome)) := by
    rw [CaptureLog.journalText_append, Text.encode, String.toList_append, List.flatMap_append]
    rfl
  have hrecord : w.record command outcome =
      { w with
        files := w.files.write number (Text.encode (journalText entries)).length
          (Text.encode (journalLine (log.nextEntry w.clock command outcome)))
        journal := some ⟨number, (Text.encode (journalText entries)).length +
          (Text.encode (journalLine (log.nextEntry w.clock command outcome))).length⟩
        log := some (log.record w.clock command outcome).2 } := by
    simp only [World.record, hlog, writeJournal, h.journal]
  rw [hrecord]
  refine ⟨?_, h.found, ?_⟩
  · rw [htext, List.length_append]
  · rw [Files.contentOf_write h.stored, h.content, Files.overwrite_end, htext]

theorem Journals.read {w : World} {path : String} {entries : List Entry} {number : Nat}
    (h : w.Journals path entries number) :
    w.files.readText path = .ok (journalText entries) := by
  obtain ⟨_, _, _, hfound⟩ := h.found
  rw [Files.readText, Files.read_of_resolve hfound, h.content]
  dsimp only
  rw [Text.decode?_encode]

end World

end DeviceBench
