/-
The unified difference is a correct patch. Lines without line feeds differ exactly if there is a
text, and the text is read back as the two labels and at least one hunk: what a hunk takes out stands
at the old range that it announces, the ranges are in order and apart, and replacing each of them by
what its hunk puts in makes the expected lines of the current ones.
-/
import DeviceBench.Proofs.Diff.Hunks
import DeviceBench.Proofs.Diff.Reading

namespace DeviceBench.Diff

/-! ## Applying a patch -/

/-- How many old lines stand before a hunk. A header counts lines from one, and with an empty old
range it names the line before it. -/
def StatedHunk.position (h : StatedHunk) : Nat := if h.len = 0 then h.start else h.start - 1

/-- The lines after `position` of them with the old ranges of hunks replaced. -/
def replaced : Nat → List StatedHunk → List String → List String
  | _, [], lines => lines
  | position, h :: hs, lines =>
    lines.take (h.position - position) ++ h.added ++
      replaced (h.position + h.len) hs (lines.drop (h.position + h.len - position))

/-- Hunks that fit the current lines and turn them into the expected ones. -/
structure Transforms (hs : List StatedHunk) (current expected : List String) : Prop where
  /-- A header that announces old lines counts from one. -/
  counted : ∀ h ∈ hs, 0 < h.len → 0 < h.start
  /-- What a hunk takes out is what stands at its old range. -/
  removes : ∀ h ∈ hs, h.position + h.len ≤ current.length ∧
    h.removed = slice current h.position h.len
  /-- Old ranges are in order, with lines between them. -/
  ordered : hs.Pairwise fun h h' => h.position + h.len < h'.position
  /-- Replacing the old ranges gives the expected lines. -/
  result : replaced 0 hs current = expected

/-! ## The hunks of a difference -/

section Patching

variable {old new : List String} {p q : Nat} {hs : List Hunk}

theorem stated_position (h : Hunk) : h.stated.position = h.oldStart := by
  unfold StatedHunk.position Hunk.stated statedStart
  dsimp only
  split
  · rfl
  · rw [Nat.add_sub_cancel]

theorem Patches.mem (hpatches : Patches old new p q hs) {h : Hunk} (hmem : h ∈ hs) :
    ∃ i j n m, h.At old new i j n m ∧ i + n ≤ old.length ∧ j + m ≤ new.length := by
  induction hpatches with
  | done => cases hmem
  | hunk _ _ _ hat hold hnew _ ih =>
    rcases List.mem_cons.1 hmem with rfl | hmem
    · exact ⟨_, _, _, _, hat, hold, hnew⟩
    · exact ih hmem

theorem Patches.announced (hpatches : Patches old new p q hs) {h : Hunk} (hmem : h ∈ hs) :
    h.Announced := by
  obtain ⟨i, j, n, m, hat, hold, hnew⟩ := hpatches.mem hmem
  constructor
  · rw [hat.removed, hat.oldLen, length_slice hold]
  · rw [hat.added, hat.newLen, length_slice hnew]

/-- Lines that both keep stand before every hunk but the first. -/
theorem Patches.after (hpatches : Patches old new p q hs) (hpos : 0 < p + q) {h : Hunk}
    (hmem : h ∈ hs) : p < h.oldStart := by
  induction hpatches with
  | done => cases hmem
  | @hunk p q k n m h' hs hfirst hcovers _ hat _ _ _ ih =>
    rcases List.mem_cons.1 hmem with rfl | hmem
    · rw [hat.start]
      omega
    · have hlt := ih (by omega) hmem
      omega

theorem Patches.ordered (hpatches : Patches old new p q hs) :
    (hs.map Hunk.stated).Pairwise fun h h' => h.position + h.len < h'.position := by
  induction hpatches with
  | done => exact .nil
  | @hunk p q k n m h hs hfirst hcovers _ hat _ _ hrest ih =>
    refine List.pairwise_cons.2 ⟨?_, ih⟩
    intro h' hmem
    obtain ⟨h', hin, rfl⟩ := List.mem_map.1 hmem
    have hlt := hrest.after (by omega) hin
    rw [stated_position, stated_position, hat.start]
    show p + k + (h.oldStop - h.oldStart) < h'.oldStart
    rw [hat.oldLen]
    exact hlt

/-- Replacing the old ranges turns what is left of the old lines into what is left of the new. -/
theorem Patches.replaced (hpatches : Patches old new p q hs) :
    replaced p (hs.map Hunk.stated) (old.drop p) = new.drop q := by
  induction hpatches with
  | done h => exact h
  | @hunk p q k n m h hs _ _ hkept hat hold hnew _ ih =>
    have hlen : h.stated.len = n := hat.oldLen
    have hadded : h.stated.added = slice new (q + k) m := hat.added
    rw [List.map_cons, Diff.replaced, stated_position, hat.start, hlen, hadded, List.drop_drop,
      show p + k - p = k by omega, show p + (p + k + n - p) = p + k + n by omega, ih]
    calc
      slice old p k ++ slice new (q + k) m ++ new.drop (q + k + m)
        = slice new q k ++ (slice new (q + k) m ++ (new.drop (q + k)).drop m) := by
          rw [hkept, List.append_assoc, List.drop_drop]
      _ = slice new q k ++ (new.drop q).drop k := by
          rw [slice, slice, List.take_append_drop, List.drop_drop]
      _ = new.drop q := by rw [slice, List.take_append_drop]

theorem Patches.transforms (hpatches : Patches old new 0 0 hs) :
    Transforms (hs.map Hunk.stated) old new := by
  refine ⟨?_, ?_, hpatches.ordered, hpatches.replaced⟩
  · intro h hmem hpos
    obtain ⟨h, -, rfl⟩ := List.mem_map.1 hmem
    have hstart : h.stated.start = h.oldStart + 1 := if_neg (Nat.ne_of_gt hpos)
    rw [hstart]
    exact Nat.succ_pos _
  · intro h hmem
    obtain ⟨h, hin, rfl⟩ := List.mem_map.1 hmem
    obtain ⟨i, j, n, m, hat, hold, hnew⟩ := hpatches.mem hin
    have hlen : h.stated.len = n := hat.oldLen
    rw [stated_position, hat.start, hlen]
    exact ⟨hold, hat.removed⟩

end Patching

/-! ## Lines without line feeds -/

/-- A list of lines in which no line holds a line feed. -/
def Unbroken (lines : List String) : Prop := ∀ line ∈ lines, '\n' ∉ line.toList

instance (lines : List String) : Decidable (Unbroken lines) :=
  inferInstanceAs (Decidable (∀ line ∈ lines, '\n' ∉ line.toList))

theorem not_mem_toString (n : Nat) : '\n' ∉ (toString n).toList := by
  intro h
  exact absurd (Text.digits_toString n '\n' h) (by decide)

theorem not_mem_rangeText (start stop : Nat) : '\n' ∉ (rangeText start stop).toList := by
  have hstart := not_mem_toString start
  have hnext := not_mem_toString (start + 1)
  have hlen := not_mem_toString (stop - start)
  unfold rangeText
  dsimp only
  split
  · exact hnext
  split
  · show '\n' ∉ (toString start ++ ",0").toList
    rw [String.toList_append]
    exact List.not_mem_append hstart (by decide)
  · show '\n' ∉ (toString (start + 1) ++ "," ++ toString (stop - start)).toList
    rw [String.toList_append, String.toList_append]
    exact List.not_mem_append (List.not_mem_append hnext (by decide)) hlen

theorem Hunk.unbroken_lines {h : Hunk} (hremoved : Unbroken h.removed)
    (hadded : Unbroken h.added) : Unbroken h.lines := by
  intro line hline
  rcases List.mem_append.1 hline with hline | hline
  · rcases List.mem_cons.1 hline with rfl | hline
    · have hold := not_mem_rangeText h.oldStart h.oldStop
      have hnew := not_mem_rangeText h.newStart h.newStop
      simpa [String.toList_append] using ⟨hold, hnew⟩
    · obtain ⟨line, hmem, rfl⟩ := List.mem_map.1 hline
      simpa [String.toList_append] using hremoved line hmem
  · obtain ⟨line, hmem, rfl⟩ := List.mem_map.1 hline
    simpa [String.toList_append] using hadded line hmem

theorem unbroken_slice {lines : List String} (h : Unbroken lines) (i n : Nat) :
    Unbroken (slice lines i n) := fun line hmem =>
  h line (List.mem_of_mem_drop (List.mem_of_mem_take hmem))

theorem Patches.unbroken {old new : List String} {p q : Nat} {hs : List Hunk}
    (hpatches : Patches old new p q hs) (hold : Unbroken old) (hnew : Unbroken new) :
    Unbroken (hs.flatMap Hunk.lines) := by
  intro line hline
  obtain ⟨h, hmem, hline⟩ := List.mem_flatMap.1 hline
  obtain ⟨i, j, n, m, hat, -, -⟩ := hpatches.mem hmem
  refine Hunk.unbroken_lines ?_ ?_ line hline
  · rw [hat.removed]
    exact unbroken_slice hold i n
  · rw [hat.added]
    exact unbroken_slice hnew j m

theorem unbroken_labels {oldLabel newLabel : String} (h : Unbroken [oldLabel, newLabel]) :
    Unbroken ["--- " ++ oldLabel, "+++ " ++ newLabel] := by
  have hold := h oldLabel (by simp)
  have hnew := h newLabel (by simp)
  intro line hline
  rcases List.mem_pair.1 hline with rfl | rfl
  · simpa [String.toList_append] using hold
  · simpa [String.toList_append] using hnew

/-! ## The text -/

/-- Between lines without line feeds there is no text exactly if they are equal, and a text is read
back as its labels and hunks, at least one, that turn the current lines into the expected ones. -/
theorem unified_patch {current expected : List String} {currentLabel expectedLabel : String}
    (hcurrent : Unbroken current) (hexpected : Unbroken expected)
    (hlabels : Unbroken [currentLabel, expectedLabel]) :
    (unified current expected currentLabel expectedLabel = none ↔ current = expected) ∧
      ∀ text, unified current expected currentLabel expectedLabel = some text →
        ∃ hs, hs ≠ [] ∧ readPatch? text = some ⟨currentLabel, expectedLabel, hs⟩ ∧
          Transforms hs current expected := by
  unfold unified
  split
  · rename_i heq
    refine ⟨⟨fun _ => heq, fun _ => rfl⟩, ?_⟩
    intro text htext
    cases htext
  · rename_i hne
    refine ⟨⟨fun h => (nomatch h), fun h => absurd h hne⟩, ?_⟩
    intro text htext
    cases htext
    have hpatches := hunks_patches current expected
    have htransforms := hpatches.transforms
    refine ⟨(hunks current expected).map Hunk.stated, ?_, ?_, htransforms⟩
    · intro hnil
      rw [hnil] at htransforms
      exact hne htransforms.result
    · have hlines := hpatches.unbroken hcurrent hexpected
      refine readPatch?_terminated (fun h hmem => hpatches.announced hmem) ?_
      intro line hline
      rcases List.mem_append.1 hline with hline | hline
      · exact unbroken_labels hlabels line hline
      · exact hlines line hline

/-- A line put in at the start, one replaced and one taken out at the end, each in its hunk. -/
theorem unified_patch_three :
    let current := ["one", "two", "three", "four"]
    let expected := ["zero", "one", "TWO", "three"]
    let text := "--- current\n+++ expected\n@@ -0,0 +1 @@\n+zero\n@@ -2 +3 @@\n-two\n+TWO\n" ++
      "@@ -4 +4,0 @@\n-four\n"
    let hs : List StatedHunk :=
      [⟨0, 0, [], ["zero"]⟩, ⟨2, 1, ["two"], ["TWO"]⟩, ⟨4, 1, ["four"], []⟩]
    Unbroken current ∧ Unbroken expected ∧ Unbroken ["current", "expected"] ∧
      unified current expected "current" "expected" = some text ∧
      readPatch? text = some ⟨"current", "expected", hs⟩ ∧ Transforms hs current expected := by
  intro current expected text hs
  have hcurrent : Unbroken current := by decide
  have hexpected : Unbroken expected := by decide
  have hlabels : Unbroken ["current", "expected"] := by decide
  have htext : unified current expected "current" "expected" = some text := by decide +kernel
  have hread : readPatch? text = some ⟨"current", "expected", hs⟩ := by decide +kernel
  obtain ⟨hs', -, hread', htransforms⟩ :=
    (unified_patch hcurrent hexpected hlabels).2 text htext
  rw [hread] at hread'
  cases hread'
  exact ⟨hcurrent, hexpected, hlabels, htext, hread, htransforms⟩

end DeviceBench.Diff
