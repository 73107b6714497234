/-
The shape of a difference as text. A text has the shape of a patch if cutting it at line feeds gives
two lines with labels and after them hunks only: each header is followed by exactly as many removed
and then added lines as it announces, and these are the lines of the announced ranges. The text of a
difference puts a line feed behind every line that it shows, so it has this shape exactly if no label
and no line that it shows has a line feed of its own.
-/
import DeviceBench.Proofs.Diff.Patch
import DeviceBench.Proofs.Text.Lines

namespace DeviceBench.Diff

/-! ## Shape -/

/-- A line without the line feed at its end. -/
def unended (line : String) : String := String.ofList (Text.dropLineFeed line.toList)

/-- The lines that the range of a header announces: so many, from the announced one on, counted from
one. -/
structure Announces (range : Nat × Nat) (lines shown : List String) : Prop where
  counted : 0 < range.2 → 0 < range.1
  length : shown.length = range.2
  shown : shown = slice lines (range.1 - 1) range.2

/-- Lines with a mark before each. -/
def marked (mark : Char) (lines : List String) : List (List Char) :=
  lines.map fun line => mark :: line.toList

/-- Lines of text that are hunks between old and new lines and nothing else. -/
inductive ShowsHunks (old new : List String) : List (List Char) → Prop
  | done : ShowsHunks old new []
  | hunk {header : List Char} {oldRange newRange : Nat × Nat} {removed added : List String}
      {rest : List (List Char)} :
      readHeader? header = some (oldRange, newRange) → Announces oldRange old removed →
      Announces newRange new added → ShowsHunks old new rest →
      ShowsHunks old new (header :: (marked '-' removed ++ (marked '+' added ++ rest)))

/-- A text that is the two labels and at least one hunk between old and new lines, line by line. -/
def ShowsPatch (text oldLabel newLabel : String) (old new : List String) : Prop :=
  ∃ hunkLines, hunkLines ≠ [] ∧ ShowsHunks old new hunkLines ∧
    terminatedLines? text.toList =
      some (("--- " ++ oldLabel).toList :: ("+++ " ++ newLabel).toList :: hunkLines)

theorem unended_of_not_mem {line : String} (h : '\n' ∉ line.toList) : unended line = line := by
  rw [unended, Text.dropLineFeed_of_not_mem h, String.ofList_toList]

theorem map_unended {lines : List String} (h : Unbroken lines) : lines.map unended = lines :=
  (List.map_congr_left fun line hmem => unended_of_not_mem (h line hmem)).trans (List.map_id _)

/-- A line has at most one line feed more than without that at its end. -/
theorem unended_cases (line : String) :
    line.toList = (unended line).toList ∨ line.toList = (unended line).toList ++ ['\n'] := by
  rw [unended, String.toList_ofList, Text.dropLineFeed]
  split
  · rename_i hlast
    obtain ⟨front, hfront⟩ := List.getLast?_eq_some_iff.1 hlast
    right
    rw [hfront, List.dropLast_concat]
  · exact .inl rfl

theorem Announces.map {range : Nat × Nat} {lines shown : List String}
    (h : Announces range lines shown) (f : String → String) :
    Announces range (lines.map f) (shown.map f) := by
  refine ⟨h.counted, by rw [List.length_map, h.length], ?_⟩
  have hshown := congrArg (List.map f) h.shown
  rwa [slice, List.map_take, List.map_drop] at hshown

/-- A hunk has a header, and every line that is shown has a mark. -/
theorem ShowsHunks.nil_not_mem {old new : List String} {hunkLines : List (List Char)}
    (h : ShowsHunks old new hunkLines) : [] ∉ hunkLines := by
  induction h with
  | done => exact List.not_mem_nil
  | @hunk header _ _ _ _ _ hheader _ _ _ ih =>
    intro hmem
    rcases List.mem_cons.1 hmem with rfl | hmem
    · cases hheader
    rcases List.mem_append.1 hmem with hmem | hmem
    · simp [marked] at hmem
    rcases List.mem_append.1 hmem with hmem | hmem
    · simp [marked] at hmem
    · exact ih hmem

/-! ## Where hunks stand -/

/-- The lines that a hunk shows are those of the ranges in its header. -/
structure Hunk.Stands (h : Hunk) (old new : List String) : Prop where
  removed : Announces (statedStart h.oldStart h.oldStop, h.oldStop - h.oldStart) old h.removed
  added : Announces (statedStart h.newStart h.newStop, h.newStop - h.newStart) new h.added

theorem announces_slice {lines : List String} {start stop i n : Nat} (hlen : stop - start = n)
    (hstart : 0 < n → start = i) (hle : i + n ≤ lines.length) :
    Announces (statedStart start stop, stop - start) lines (slice lines i n) := by
  refine ⟨fun hpos => ?_, by rw [length_slice hle, hlen], ?_⟩
  · have hpos : stop - start ≠ 0 := Nat.ne_of_gt hpos
    rw [statedStart, if_neg hpos]
    exact Nat.succ_pos start
  · rcases Nat.eq_zero_or_pos n with rfl | hpos
    · rw [hlen, slice_zero, slice_zero]
    · rw [hlen, statedStart, if_neg (by omega), Nat.add_sub_cancel, hstart hpos]

theorem hunks_stand {old new : List String} {h : Hunk} (hmem : h ∈ hunks old new) :
    h.Stands old new := by
  obtain ⟨i, j, n, m, hat, hold, hnew⟩ := (hunks_patches old new).mem hmem
  constructor
  · rw [hat.removed]
    exact announces_slice hat.oldLen (fun _ => hat.start) hold
  · rw [hat.added]
    exact announces_slice hat.newLen hat.newStart hnew

/-! ## Lines without line feeds -/

/-- The header of a hunk. -/
def Hunk.header (h : Hunk) : String :=
  "@@ -" ++ rangeText h.oldStart h.oldStop ++ " +" ++ rangeText h.newStart h.newStop ++ " @@"

theorem Hunk.toList_lines (h : Hunk) :
    h.lines.map String.toList =
      h.header.toList :: (marked '-' h.removed ++ marked '+' h.added) := by
  simp [Hunk.lines, Hunk.header, marked, Function.comp_def]

theorem showsHunks_of_unbroken {old new : List String} {hs : List Hunk}
    (hstands : ∀ h ∈ hs, h.Stands old new)
    (hunbroken : ∀ h ∈ hs, Unbroken h.removed ∧ Unbroken h.added) :
    ShowsHunks (old.map unended) (new.map unended)
      ((hs.flatMap Hunk.lines).map String.toList) := by
  induction hs with
  | nil => exact .done
  | cons h hs ih =>
    obtain ⟨hremoved, hadded⟩ := hunbroken h List.mem_cons_self
    have hold := (hstands h List.mem_cons_self).removed.map unended
    have hnew := (hstands h List.mem_cons_self).added.map unended
    rw [map_unended hremoved] at hold
    rw [map_unended hadded] at hnew
    have hrest := ih (fun h hmem => hstands h (List.mem_cons_of_mem _ hmem))
      fun h hmem => hunbroken h (List.mem_cons_of_mem _ hmem)
    rw [List.flatMap_cons, List.map_append, Hunk.toList_lines, List.cons_append, List.append_assoc]
    exact .hunk (readHeader?_header _ _ _ _) hold hnew hrest

/-! ## Lines with line feeds -/

theorem terminatedLines?_eq_some_iff {text : List Char} {lines : List (List Char)} :
    terminatedLines? text = some lines ↔ text.splitOn '\n' = lines ++ [[]] := by
  unfold terminatedLines?
  dsimp only
  split
  · rename_i hlast
    obtain ⟨front, hfront⟩ := List.getLast?_eq_some_iff.1 hlast
    rw [hfront, List.dropLast_concat]
    simp
  · rename_i hlast
    refine ⟨fun h => (nomatch h), fun h => absurd ?_ hlast⟩
    rw [h, List.getLast?_concat]

/-- A text that a line feed ends is cut after what stands before its first line feed. -/
theorem splitOn_line (line rest : List Char) :
    ('\n' ∉ line ∧ (line ++ '\n' :: rest).splitOn '\n' = line :: rest.splitOn '\n') ∨
      ∃ front back, line = front ++ '\n' :: back ∧ '\n' ∉ front ∧
        (line ++ '\n' :: rest).splitOn '\n' = front :: (back ++ '\n' :: rest).splitOn '\n' := by
  by_cases h : '\n' ∈ line
  · obtain ⟨front, back, rfl, hfront⟩ := List.eq_append_cons_of_mem h
    refine .inr ⟨front, back, rfl, hfront, ?_⟩
    rw [List.append_assoc, List.cons_append, List.splitOn_append_cons_self_of_not_mem hfront]
  · exact .inl ⟨h, List.splitOn_append_cons_self_of_not_mem h _⟩

/-- A line that is cut off whole holds no line feed. -/
theorem not_mem_of_splitOn (line : List Char) {rest : List Char} {pieces : List (List Char)}
    (h : (line ++ '\n' :: rest).splitOn '\n' = line :: pieces) :
    '\n' ∉ line ∧ rest.splitOn '\n' = pieces := by
  rcases splitOn_line line rest with ⟨hline, hsplit⟩ | ⟨front, back, hline, -, hsplit⟩
  · rw [hsplit, List.cons.injEq] at h
    exact ⟨hline, h.2⟩
  · rw [hsplit, List.cons.injEq] at h
    have hlen := congrArg List.length hline
    rw [h.1, List.length_append, List.length_cons] at hlen
    omega

/-- Marked lines that are cut off without the line feeds at their ends had none, unless an empty
line follows. -/
theorem unbroken_of_splitOn_marked {mark : Char} {lines : List String} {rest : List Char}
    {pieces : List (List Char)} (hpieces : pieces.head? = some [] → pieces = [[]])
    (h : ((marked mark lines).flatMap (· ++ ['\n']) ++ rest).splitOn '\n' =
      marked mark (lines.map unended) ++ pieces) :
    Unbroken lines ∧ rest.splitOn '\n' = pieces := by
  induction lines with
  | nil => exact ⟨by simp [Unbroken], h⟩
  | cons line lines ih =>
    simp only [marked, List.map_cons, List.flatMap_cons, List.append_assoc, List.cons_append,
      List.nil_append] at h ih
    -- either the line has no line feed, or what follows its own is an empty line
    rcases unended_cases line with hline | hline
    · rw [← hline] at h
      obtain ⟨hunbroken, hrest⟩ := not_mem_of_splitOn (mark :: line.toList) h
      obtain ⟨hlines, hsplit⟩ := ih hrest
      refine ⟨?_, hsplit⟩
      intro l hl
      rcases List.mem_cons.1 hl with rfl | hl
      · exact fun hmem => hunbroken (List.mem_cons_of_mem mark hmem)
      · exact hlines l hl
    · rw [hline, List.append_assoc, List.singleton_append] at h
      obtain ⟨-, hrest⟩ := not_mem_of_splitOn (mark :: (unended line).toList) h
      have hempty (text : List Char) : ('\n' :: text).splitOn '\n' = [] :: text.splitOn '\n' :=
        List.splitOn_append_cons_self_of_not_mem List.not_mem_nil text
      rw [hempty] at hrest
      exfalso
      cases lines with
      | nil =>
        simp only [List.map_nil, List.flatMap_nil, List.nil_append] at hrest
        have hend := hpieces (by rw [← hrest]; rfl)
        rw [hend, List.cons.injEq] at hrest
        exact List.splitOn_ne_nil _ _ hrest.2
      | cons next lines => simp at hrest

theorem not_mem_header (h : Hunk) : '\n' ∉ h.header.toList := by
  have hold := not_mem_rangeText h.oldStart h.oldStop
  have hnew := not_mem_rangeText h.newStart h.newStop
  simpa [Hunk.header, String.toList_append] using ⟨hold, hnew⟩

theorem head?_append_nil {hunkLines : List (List Char)} (h : [] ∉ hunkLines)
    (hhead : (hunkLines ++ [[]]).head? = some []) : hunkLines ++ [[]] = [[]] := by
  cases hunkLines with
  | nil => rfl
  | cons line hunkLines =>
    cases hhead
    exact absurd List.mem_cons_self h

/-- Where the text of hunks is hunks line by line, no line that they show has a line feed. -/
theorem unbroken_of_showsHunks {old new : List String} {hs : List Hunk}
    (hstands : ∀ h ∈ hs, h.Stands old new) {hunkLines : List (List Char)}
    (hshows : ShowsHunks (old.map unended) (new.map unended) hunkLines)
    (hsplit : ((hs.flatMap fun h => h.lines.map String.toList).flatMap (· ++ ['\n'])).splitOn '\n' =
      hunkLines ++ [[]]) :
    ∀ h ∈ hs, Unbroken h.removed ∧ Unbroken h.added := by
  induction hs generalizing hunkLines with
  | nil => simp
  | cons h hs ih =>
    rw [List.flatMap_cons, Hunk.toList_lines, List.cons_append, List.flatMap_cons, List.append_assoc,
      List.singleton_append, List.splitOn_append_cons_self_of_not_mem (not_mem_header h)] at hsplit
    cases hshows with
    | done =>
      rw [List.nil_append, List.cons.injEq] at hsplit
      simp [Hunk.header] at hsplit
    | @hunk header oldRange newRange removed added rest hheader hremoved hadded hrest =>
      rw [List.cons_append, List.cons.injEq] at hsplit
      obtain ⟨rfl, hsplit⟩ := hsplit
      have hranges := hheader.symm.trans (readHeader?_header _ _ _ _)
      cases hranges
      have hstand := hstands h List.mem_cons_self
      have hold : removed = h.removed.map unended :=
        hremoved.shown.trans (hstand.removed.map unended).shown.symm
      have hnew : added = h.added.map unended :=
        hadded.shown.trans (hstand.added.map unended).shown.symm
      rw [hold, hnew, List.flatMap_append, List.flatMap_append, List.append_assoc,
        List.append_assoc, List.append_assoc] at hsplit
      have hnil := hrest.nil_not_mem
      have hmarked : [] ∉ marked '+' (h.added.map unended) ++ rest := by
        rw [List.mem_append, not_or]
        exact ⟨by simp [marked], hnil⟩
      have hhead := head?_append_nil hmarked
      rw [List.append_assoc] at hhead
      obtain ⟨hunbroken, hsplit⟩ := unbroken_of_splitOn_marked hhead hsplit
      obtain ⟨hunbroken', hsplit⟩ := unbroken_of_splitOn_marked (head?_append_nil hnil) hsplit
      intro k hk
      rcases List.mem_cons.1 hk with rfl | hk
      · exact ⟨hunbroken, hunbroken'⟩
      · exact ih (fun k hmem => hstands k (List.mem_cons_of_mem _ hmem)) hrest hsplit k hk

/-! ## The text -/

/-- The text of a difference has the shape of a patch between the lines without line feeds at their
ends exactly if no label and no line that it shows holds a line feed. -/
theorem unified_shows_iff {current expected : List String} {currentLabel expectedLabel text : String}
    (h : unified current expected currentLabel expectedLabel = some text) :
    ShowsPatch text currentLabel expectedLabel (current.map unended) (expected.map unended) ↔
      Unbroken [currentLabel, expectedLabel] ∧
        ∀ hunk ∈ hunks current expected, Unbroken hunk.removed ∧ Unbroken hunk.added := by
  unfold unified at h
  split at h
  · cases h
  rename_i hne
  cases h
  have hstands : ∀ hunk ∈ hunks current expected, hunk.Stands current expected := fun _ hmem =>
    hunks_stand hmem
  constructor
  · rintro ⟨hunkLines, -, hshows, hread⟩
    rw [terminatedLines?_eq_some_iff, toList_terminated] at hread
    simp only [List.cons_append, List.nil_append, List.map_cons, List.flatMap_cons,
      List.append_assoc, List.map_flatMap] at hread
    obtain ⟨hcurrent, hread⟩ := not_mem_of_splitOn _ hread
    obtain ⟨hexpected, hread⟩ := not_mem_of_splitOn _ hread
    refine ⟨?_, unbroken_of_showsHunks hstands hshows hread⟩
    intro label hlabel
    rcases List.mem_pair.1 hlabel with rfl | rfl
    · simpa [String.toList_append] using hcurrent
    · simpa [String.toList_append] using hexpected
  · rintro ⟨hlabels, hunbroken⟩
    refine ⟨((hunks current expected).flatMap Hunk.lines).map String.toList, ?_,
      showsHunks_of_unbroken hstands hunbroken, ?_⟩
    · -- without a hunk both sides would be the same
      intro hnil
      have hresult := (hunks_patches current expected).transforms.result
      cases hhunks : hunks current expected with
      | nil =>
        rw [hhunks] at hresult
        exact hne hresult
      | cons hunk hs =>
        rw [hhunks, List.flatMap_cons, List.map_append, Hunk.toList_lines] at hnil
        cases hnil
    · refine terminatedLines?_terminated fun line hline => ?_
      rcases List.mem_append.1 hline with hline | hline
      · exact unbroken_labels hlabels line hline
      · obtain ⟨hunk, hmem, hline⟩ := List.mem_flatMap.1 hline
        exact Hunk.unbroken_lines (hunbroken hunk hmem).1 (hunbroken hunk hmem).2 line hline

end DeviceBench.Diff
