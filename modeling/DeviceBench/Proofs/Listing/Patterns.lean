/-
Which patterns a listing names. The reader of a listing is asked for one pattern after the other and
remembers only whether it has seen the header. What it gives is what the listing says as a whole: of
the lines after the first that mentions the header, each with a word names a pattern by its first
word. Asking so often gives so many of these, from the first on.
-/
import DeviceBench.Listing
import DeviceBench.Proofs.Text.Search
import Mathlib.Data.List.TakeWhile

namespace DeviceBench

/-! ## Words -/

namespace Text

/-- A word is the first of a line: only blanks stand before it, none is in it, and it reaches to a
blank or to the end. -/
def FirstWord (word line : List Char) : Prop :=
  ∃ before after, line = before ++ word ++ after ∧ (∀ c ∈ before, isBlank c) ∧ word ≠ [] ∧
    (∀ c ∈ word, ¬ isBlank c) ∧ ∀ c ∈ after.head?, isBlank c

theorem dropBlank_eq_nil_iff {line : List Char} : dropBlank line = [] ↔ ∀ c ∈ line, isBlank c :=
  List.dropWhile_eq_nil_iff

theorem firstWord?_eq_none_iff {line : List Char} :
    firstWord? line = none ↔ ∀ c ∈ line, isBlank c := by
  rw [← dropBlank_eq_nil_iff, firstWord?]
  cases dropBlank line <;> simp

theorem firstWord?_append {before word after : List Char} (hbefore : ∀ c ∈ before, isBlank c)
    (hword : word ≠ []) (hletters : ∀ c ∈ word, ¬ isBlank c) (hafter : ∀ c ∈ after.head?, isBlank c) :
    firstWord? (before ++ word ++ after) = some word := by
  obtain ⟨c, cs, rfl⟩ := List.exists_cons_of_ne_nil hword
  have hdrop : dropBlank (before ++ (c :: cs) ++ after) = c :: cs ++ after := by
    rw [dropBlank, List.append_assoc, List.dropWhile_append_of_pos hbefore, List.cons_append,
      List.dropWhile_cons_of_neg (hletters c List.mem_cons_self)]
  have htake : (after.takeWhile fun c => !isBlank c) = [] := by
    cases after with
    | nil => rfl
    | cons d ds => simp [hafter d rfl]
  rw [firstWord?, hdrop]
  show some ((c :: cs ++ after).takeWhile fun c => !isBlank c) = _
  rw [List.takeWhile_append_of_pos (by simpa using hletters), htake, List.append_nil]

theorem firstWord?_eq_some_iff {word line : List Char} :
    firstWord? line = some word ↔ FirstWord word line := by
  constructor
  · intro h
    have hline : line.takeWhile isBlank ++ dropBlank line = line := List.takeWhile_append_dropWhile
    rw [firstWord?] at h
    split at h
    · cases h
    · rename_i hne
      cases h
      have hsplit := (dropBlank line).takeWhile_append_dropWhile (p := fun c => !isBlank c)
      refine ⟨line.takeWhile isBlank, (dropBlank line).dropWhile fun c => !isBlank c, ?_, ?_, ?_, ?_,
        ?_⟩
      · rw [List.append_assoc, hsplit, hline]
      · exact fun c hc => List.mem_takeWhile_imp hc
      · -- the first character that is left is no blank
        obtain ⟨c, cs, hcs⟩ := List.exists_cons_of_ne_nil hne
        have hc : ¬ isBlank c := by
          have hhead := List.head?_dropWhile_not isBlank line
          rw [show line.dropWhile isBlank = c :: cs from hcs] at hhead
          simpa using hhead
        rw [hcs, List.takeWhile_cons_of_pos (by simpa using hc)]
        exact List.cons_ne_nil c _
      · intro c hc
        simpa using List.mem_takeWhile_imp hc
      · intro c hc
        have hhead := List.head?_dropWhile_not (fun c => !isBlank c) (dropBlank line)
        rw [Option.mem_def.1 hc] at hhead
        simpa using hhead
  · rintro ⟨before, after, rfl, hbefore, hword, hletters, hafter⟩
    exact firstWord?_append hbefore hword hletters hafter

end Text

namespace Listing

/-! ## What a listing says -/

/-- The names in the lines of a section: a line with a word gives its first, a blank line none. -/
inductive Names : List String → List String → Prop
  | done : Names [] []
  | word {line name : String} {lines names : List String} :
      Text.FirstWord name.toList line.toList → Names lines names →
      Names (line :: lines) (name :: names)
  | blank {line : String} {lines names : List String} :
      (∀ c ∈ line.toList, Text.isBlank c) → Names lines names → Names (line :: lines) names

/-- A line mentions the header. -/
def Mentions (line : String) : Prop := header.toList <:+: line.toList

/-- The patterns that a listing lists: those of the lines after the first that mentions the header,
and none without such a line. -/
inductive Lists : List String → List String → Prop
  | nothing {lines : List String} : (∀ line ∈ lines, ¬ Mentions line) → Lists lines []
  | listed {before after names : List String} {line : String} :
      (∀ line ∈ before, ¬ Mentions line) → Mentions line → Names after names →
      Lists (before ++ line :: after) names

theorem patternIn?_eq_some_iff {line name : String} :
    patternIn? line = some name ↔ Text.FirstWord name.toList line.toList := by
  rw [← Text.firstWord?_eq_some_iff, patternIn?, Option.map_eq_some_iff]
  constructor
  · rintro ⟨word, hword, rfl⟩
    rw [hword, String.toList_ofList]
  · intro h
    exact ⟨_, h, String.ofList_toList⟩

theorem patternIn?_eq_none_iff {line : String} :
    patternIn? line = none ↔ ∀ c ∈ line.toList, Text.isBlank c := by
  rw [patternIn?, Option.map_eq_none_iff, Text.firstWord?_eq_none_iff]

theorem names_iff {lines names : List String} :
    Names lines names ↔ names = lines.filterMap patternIn? := by
  constructor
  · intro h
    induction h with
    | done => rfl
    | word hword _ ih => rw [List.filterMap_cons_some (patternIn?_eq_some_iff.2 hword), ih]
    | blank hblank _ ih => rw [List.filterMap_cons_none (patternIn?_eq_none_iff.2 hblank), ih]
  · rintro rfl
    induction lines with
    | nil => exact .done
    | cons line lines ih =>
      cases hline : patternIn? line with
      | none =>
        rw [List.filterMap_cons_none hline]
        exact .blank (patternIn?_eq_none_iff.1 hline) ih
      | some name =>
        rw [List.filterMap_cons_some hline]
        exact .word (patternIn?_eq_some_iff.1 hline) ih

/-! ## What the reader gives -/

theorem Lists.length_le {lines names : List String} (h : Lists lines names) :
    names.length ≤ lines.length := by
  cases h with
  | nothing => exact Nat.zero_le _
  | @listed before after names line _ _ hnames =>
    have hle := List.length_filterMap_le patternIn? after
    rw [names_iff.1 hnames, List.length_append, List.length_cons]
    omega

end Listing

end DeviceBench
