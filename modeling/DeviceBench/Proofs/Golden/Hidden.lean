/-
Text that is left out of a comparison. Lines with the exclusion marker, lines that are deleted by number
and what follows the first occurrence of the field marker never decide: outputs that differ in nothing
else are compared with the same result, down to the text of the difference, and so are expected files.
-/
import DeviceBench.Proofs.Files.Created
import DeviceBench.Proofs.Golden.Deletion
import DeviceBench.Proofs.Golden.Sides
import Mathlib.Data.List.GetD
import Mathlib.Data.List.InsertIdx

namespace DeviceBench

namespace Text

/-! ## First occurrences -/

/-- Nothing before matters, and nothing after: the first occurrence of a pattern ends where no earlier
one does. -/
theorem throughFirst?_append {pattern before : List Char}
    (h : ¬ pattern <:+: (before ++ pattern).dropLast) (after : List Char) :
    throughFirst? pattern (before ++ pattern ++ after) = some (before ++ pattern) := by
  have hne : pattern ≠ [] := by
    rintro rfl
    exact h List.nil_infix
  induction before with
  | nil =>
    obtain ⟨c, cs, rfl⟩ := List.exists_cons_of_ne_nil hne
    have hstart : (c :: cs).isPrefixOf (c :: (cs ++ after)) = true :=
      List.isPrefixOf_iff_prefix.2 (List.prefix_append (c :: cs) after)
    simp only [List.nil_append, List.cons_append]
    rw [throughFirst?, if_pos hstart]
  | cons c cs ih =>
    have hlast : (c :: cs ++ pattern).dropLast = c :: (cs ++ pattern).dropLast := by
      rw [List.cons_append, List.dropLast_cons_of_ne_nil (by simp [hne])]
    rw [hlast] at h
    have hlater : ¬ pattern <:+: (cs ++ pattern).dropLast := fun hi => h (List.infix_cons hi)
    -- an occurrence at the very start would end before the one that is there
    have hstart : ¬ pattern <+: c :: (cs ++ pattern ++ after) := by
      intro hp
      have hfront : c :: (cs ++ pattern).dropLast <+: c :: (cs ++ pattern ++ after) := by
        rw [List.prefix_cons_inj]
        exact (List.dropLast_prefix _).trans (List.prefix_append _ _)
      have hle : pattern.length ≤ (c :: (cs ++ pattern).dropLast).length := by
        simp only [List.length_cons, List.length_dropLast, List.length_append]
        omega
      exact h (List.prefix_of_prefix_length_le hp hfront hle).isInfix
    rw [List.cons_append, List.cons_append, throughFirst?,
      if_neg (by rwa [List.isPrefixOf_iff_prefix]), ih hlater]
    rfl

end Text

namespace Golden

open Text

/-! ## What is alike -/

/-- Two lines are the same up to the end of the first occurrence of a marker. -/
def AgreeThrough (marker line line' : String) : Prop :=
  ∃ before after after' : List Char,
    line.toList = before ++ marker.toList ++ after ∧
    line'.toList = before ++ marker.toList ++ after' ∧
    -- no occurrence ends earlier, also none that overlaps this one
    ¬ marker.toList <:+: (before ++ marker.toList).dropLast

/-- Two lines are the same, or the same as far as they are compared. -/
def AgreeUpTo (marker : Option String) (line line' : String) : Prop :=
  line = line' ∨ ∃ m ∈ marker, AgreeThrough m line line'

/-- The positions among so many lines that deleting by number leaves. -/
def positionsLeft (lines : Nat) (delete : List Nat) : List Nat :=
  delete.foldl List.eraseIdx (List.range lines)

/-- As many lines on both sides, and they agree wherever no line is deleted. -/
structure Alike (options : CompareOptions) (lines lines' : List String) : Prop where
  length_eq : lines.length = lines'.length
  agree : ∀ i ∈ positionsLeft lines.length options.delete, ∀ line ∈ lines[i]?, ∀ line' ∈ lines'[i]?,
    AgreeUpTo options.excludeField line line'

/-! ## The filters -/

theorem AgreeUpTo.cut {marker : String} {line line' : String} (h : AgreeUpTo (some marker) line line') :
    cutAfter marker line = cutAfter marker line' := by
  rcases h with rfl | ⟨m, hm, before, after, after', hline, hline', hfirst⟩
  · rfl
  · obtain rfl : marker = m := by simpa using hm
    unfold cutAfter
    rw [hline, hline', throughFirst?_append hfirst, throughFirst?_append hfirst]

theorem cutLines_congr {marker : Option String} {positions : List Nat} {f g : Nat → String}
    (h : ∀ i ∈ positions, AgreeUpTo marker (f i) (g i)) :
    cutLines marker (positions.map f) = cutLines marker (positions.map g) := by
  cases marker with
  | none =>
    refine List.map_congr_left fun i hi => ?_
    rcases h i hi with heq | ⟨m, hm, -⟩
    · exact heq
    · cases hm
  | some marker =>
    simp only [cutLines, List.map_map]
    exact List.map_congr_left fun i hi => (h i hi).cut

/-- Deleting by number looks at no line: it fails for all lines at these positions, or leaves those at
the positions that are left. -/
theorem deleteLines_map (positions delete : List Nat) :
    (∃ failure, ∀ f : Nat → String, deleteLines (positions.map f) delete = .error failure) ∨
      ∀ f : Nat → String,
        deleteLines (positions.map f) delete = .ok ((delete.foldl List.eraseIdx positions).map f) := by
  induction delete generalizing positions with
  | nil => exact .inr fun f => rfl
  | cons i delete ih =>
    have hstep (f : Nat → String) : deleteLines (positions.map f) (i :: delete) =
        if i < positions.length then deleteLines ((positions.eraseIdx i).map f) delete
        else .error (.lineIndex i positions.length) := by
      rw [deleteLines, List.length_map, List.eraseIdx_map]
    by_cases hi : i < positions.length
    · rcases ih (positions.eraseIdx i) with ⟨failure, hfailure⟩ | hleft
      · exact .inl ⟨failure, fun f => by rw [hstep, if_pos hi, hfailure]⟩
      · exact .inr fun f => by rw [hstep, if_pos hi, hleft]; rfl
    · exact .inl ⟨_, fun f => by rw [hstep, if_neg hi]⟩

/-- What is compared of lines that are alike is the same. -/
theorem Alike.cut_deleteLines {options : CompareOptions} {lines lines' : List String}
    (h : Alike options lines lines') :
    (deleteLines lines options.delete).map (cutLines options.excludeField) =
      (deleteLines lines' options.delete).map (cutLines options.excludeField) := by
  have hlines' : lines' = (List.range lines.length).map (fun i => lines'.getD i "") := by
    rw [h.length_eq, map_range_getD]
  have hagree : ∀ i ∈ positionsLeft lines.length options.delete,
      AgreeUpTo options.excludeField (lines.getD i "") (lines'.getD i "") := by
    intro i hi
    by_cases hlt : i < lines.length
    · have hlt' : i < lines'.length := h.length_eq ▸ hlt
      simp only [List.getD_eq_getElem?_getD, List.getElem?_eq_getElem hlt,
        List.getElem?_eq_getElem hlt', Option.getD_some]
      exact h.agree i hi _ (List.getElem?_eq_getElem hlt) _ (List.getElem?_eq_getElem hlt')
    · have hge : lines.length ≤ i := Nat.not_lt.1 hlt
      have hge' : lines'.length ≤ i := h.length_eq ▸ hge
      exact .inl (by rw [List.getD_eq_default _ _ hge, List.getD_eq_default _ _ hge'])
  rw [← map_range_getD lines, hlines']
  rcases deleteLines_map (List.range lines.length) options.delete with ⟨failure, hfailure⟩ | hleft
  · rw [hfailure, hfailure]
  · rw [hleft, hleft]
    exact congrArg Except.ok (cutLines_congr hagree)

theorem outputSide_eq (rules : RuleSet) (options : CompareOptions) (output : List String) :
    outputSide rules options output =
      ((deleteLines (withoutMarker options.exclude output) options.delete).map
        (cutLines options.excludeField)).map rules.applyLines := by
  unfold outputSide
  cases deleteLines (withoutMarker options.exclude output) options.delete <;> rfl

/-! ## Comparisons -/

/-- Whatever the rules and options, neither the hidden parts of an output nor those of an expected file
change the result of comparing them. -/
theorem compareOutput_hidden (rules : RuleSet) (exclude field : Option String) (delete : List Nat)
    (path : String) :
    (∀ (files : Files) (output output' : List String),
      Alike (.of exclude field delete)
        (withoutMarker (CompareOptions.of exclude field delete).exclude output)
        (withoutMarker (CompareOptions.of exclude field delete).exclude output') →
      compareOutput files rules output path (.of exclude field delete) =
        compareOutput files rules output' path (.of exclude field delete)) ∧
    (∀ (files files' : Files) (text text' : String) (output : List String),
      files.read path = .ok (encode text) → files'.read path = .ok (encode text') →
      Alike (.of exclude field delete) (bareLines (universal text)) (bareLines (universal text')) →
      compareOutput files rules output path (.of exclude field delete) =
        compareOutput files' rules output path (.of exclude field delete)) := by
  constructor
  · intro files output output' halike
    have hside : outputSide rules (.of exclude field delete) output =
        outputSide rules (.of exclude field delete) output' := by
      rw [outputSide_eq, outputSide_eq, halike.cut_deleteLines]
    unfold compareOutput
    rw [hside]
  · intro files files' text text' output htext htext' halike
    have hside : expectedSide (.of exclude field delete) (universal text) =
        expectedSide (.of exclude field delete) (universal text') := halike.cut_deleteLines
    unfold compareOutput
    rw [readUniversal_eq htext, readUniversal_eq htext']
    simp only [bind, Except.bind, hside]

/-! ## Hidden text of every kind -/

/-- A marker that overlaps itself, a line to leave out and a number to delete. -/
def hidingOptions : CompareOptions := .of (some "#") (some "aba") [2]

/-- The lines agree up to the first of two occurrences that overlap, and the last is deleted. -/
theorem alike_hiding : Alike hidingOptions ["xababa1", "same", "12:00"] ["xabaz", "same", "13:30"] := by
  refine ⟨rfl, ?_⟩
  have hleft : positionsLeft ["xababa1", "same", "12:00"].length hidingOptions.delete = [0, 1] := by
    decide
  intro i hi line hline line' hline'
  rw [hleft] at hi
  rcases List.mem_pair.1 hi with rfl | rfl
  · obtain rfl : "xababa1" = line := by simpa using hline
    obtain rfl : "xabaz" = line' := by simpa using hline'
    exact .inr ⟨"aba", rfl, ['x'], ['b', 'a', '1'], ['z'], rfl, rfl, by decide⟩
  · obtain rfl : "same" = line := by simpa using hline
    obtain rfl : "same" = line' := by simpa using hline'
    exact .inl rfl

/-- Two outputs with different lines to leave out, and two expected files. -/
theorem compareOutput_hidden_overlapping :
    Alike hidingOptions
        (withoutMarker hidingOptions.exclude ["# one", "xababa1", "same", "12:00"])
        (withoutMarker hidingOptions.exclude ["xabaz", "same", "#", "# two", "13:30"]) ∧
      compareOutput (Files.pair "" "xaba\nsame\n") .empty ["# one", "xababa1", "same", "12:00"]
          "expected.txt" hidingOptions =
        compareOutput (Files.pair "" "xaba\nsame\n") .empty ["xabaz", "same", "#", "# two", "13:30"]
          "expected.txt" hidingOptions ∧
      Alike hidingOptions (bareLines (universal "xababa1\r\nsame\n12:00\n"))
        (bareLines (universal "xabaz\nsame\n13:30")) ∧
      compareOutput (Files.pair "" "xababa1\r\nsame\n12:00\n") .paintedNodes ["xaba", "", "z"]
          "expected.txt" hidingOptions =
        compareOutput (Files.pair "" "xabaz\nsame\n13:30") .paintedNodes ["xaba", "", "z"]
          "expected.txt" hidingOptions := by
  have houtput : Alike hidingOptions
      (withoutMarker hidingOptions.exclude ["# one", "xababa1", "same", "12:00"])
      (withoutMarker hidingOptions.exclude ["xabaz", "same", "#", "# two", "13:30"]) := alike_hiding
  have hexpected : Alike hidingOptions (bareLines (universal "xababa1\r\nsame\n12:00\n"))
      (bareLines (universal "xabaz\nsame\n13:30")) := by
    have hread : bareLines (universal "xababa1\r\nsame\n12:00\n") = ["xababa1", "same", "12:00"] := by
      decide +kernel
    have hread' : bareLines (universal "xabaz\nsame\n13:30") = ["xabaz", "same", "13:30"] := by
      decide +kernel
    rw [hread, hread']
    exact alike_hiding
  exact ⟨houtput, (compareOutput_hidden .empty (some "#") (some "aba") [2] "expected.txt").1 _ _ _ houtput,
    hexpected,
    (compareOutput_hidden .paintedNodes (some "#") (some "aba") [2] "expected.txt").2 _ _ _ _ _
      (Files.read_pair_expected _ _) (Files.read_pair_expected _ _) hexpected⟩

end Golden

end DeviceBench
