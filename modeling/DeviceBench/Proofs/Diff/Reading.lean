/-
Reading a patch without context from its text. A hunk is read by what its header announces: exactly
so many lines that are taken out and then so many that are put in. What the text of a difference
shows is read back as the hunks it was made from.
-/
import DeviceBench.Diff.Hunk
import DeviceBench.Proofs.Text.Digits
import DeviceBench.Proofs.Text.Pieces

namespace DeviceBench.Diff

/-! ## The reader -/

/-- A hunk as a patch states it: the announced old range, what is taken out and what is put in. -/
structure StatedHunk where
  start : Nat
  len : Nat
  removed : List String
  added : List String
  deriving DecidableEq, Repr

/-- A patch as its text states it. -/
structure StatedPatch where
  oldLabel : String
  newLabel : String
  hunks : List StatedHunk
  deriving DecidableEq, Repr

/-- The lines of a text whose every line is ended by a line feed. -/
def terminatedLines? (text : List Char) : Option (List (List Char)) :=
  let lines := text.splitOn '\n'
  if lines.getLast? = some [] then some lines.dropLast else none

/-- What follows a known start of a line. -/
def after? (start : String) (line : List Char) : Option (List Char) :=
  if start.toList.isPrefixOf line then some (line.drop start.toList.length) else none

/-- A number in decimal digits and what follows it. -/
def readNumber? (line : List Char) : Option (Nat × List Char) :=
  let digits := line.takeWhile Char.isDigit
  if digits = [] then none
  else some (Nat.ofDigitChars 10 digits 0, line.dropWhile Char.isDigit)

/-- A range, with its start and its length, and what follows it. A range without a length is one
line. -/
def readRange? (line : List Char) : Option ((Nat × Nat) × List Char) :=
  match readNumber? line with
  | none => none
  | some (start, ',' :: rest) => (readNumber? rest).map fun (len, rest) => ((start, len), rest)
  | some (start, rest) => some ((start, 1), rest)

/-- The old and the new range of a header. -/
def readHeader? (line : List Char) : Option ((Nat × Nat) × (Nat × Nat)) := do
  let (old, rest) ← readRange? (← after? "@@ -" line)
  let (new, rest) ← readRange? (← after? " +" rest)
  if rest = " @@".toList then some (old, new) else none

/-- Exactly so many lines that start with a mark, without it, and the lines after them. -/
def readMarked? (mark : Char) : Nat → List (List Char) → Option (List String × List (List Char))
  | 0, lines => some ([], lines)
  | n + 1, (c :: line) :: lines =>
    if c = mark then
      (readMarked? mark n lines).map fun (taken, rest) => (String.ofList line :: taken, rest)
    else none
  | _ + 1, _ => none

/-- A hunk whose header is the first line, and the lines after it. -/
def readHunk? (header : List Char) (lines : List (List Char)) :
    Option (StatedHunk × List (List Char)) := do
  let (old, new) ← readHeader? header
  let (removed, rest) ← readMarked? '-' old.2 lines
  let (added, rest) ← readMarked? '+' new.2 rest
  some (⟨old.1, old.2, removed, added⟩, rest)

theorem length_of_readMarked? {mark : Char} {n : Nat} {lines rest : List (List Char)}
    {taken : List String} (h : readMarked? mark n lines = some (taken, rest)) :
    rest.length ≤ lines.length := by
  fun_induction readMarked? mark n lines generalizing taken rest with
  | case1 lines =>
    cases h
    exact Nat.le_refl _
  | case2 n line lines ih =>
    obtain ⟨⟨taken', rest'⟩, h, heq⟩ := Option.map_eq_some_iff.1 h
    cases heq
    exact Nat.le_succ_of_le (ih h)
  | case3 => cases h
  | case4 => cases h

theorem length_of_readHunk? {header : List Char} {lines rest : List (List Char)} {hunk : StatedHunk}
    (h : readHunk? header lines = some (hunk, rest)) : rest.length ≤ lines.length := by
  simp only [readHunk?, Option.bind_eq_bind, Option.bind_eq_some_iff] at h
  obtain ⟨⟨old, new⟩, -, ⟨removed, rest'⟩, hremoved, ⟨added, rest''⟩, hadded, heq⟩ := h
  cases heq
  exact Nat.le_trans (length_of_readMarked? hadded) (length_of_readMarked? hremoved)

/-- Hunks up to the end of the text. -/
def readHunks? : List (List Char) → Option (List StatedHunk)
  | [] => some []
  | header :: lines =>
    match _read : readHunk? header lines with
    | none => none
    | some (hunk, rest) => (readHunks? rest).map (hunk :: ·)
  termination_by lines => lines.length
  decreasing_by exact Nat.lt_succ_of_le (length_of_readHunk? _read)

/-- A patch: two lines with labels, then hunks. -/
def readPatch? (text : String) : Option StatedPatch := do
  match ← terminatedLines? text.toList with
  | oldLine :: newLine :: lines =>
    some ⟨String.ofList (← after? "--- " oldLine), String.ofList (← after? "+++ " newLine),
      ← readHunks? lines⟩
  | _ => none

/-! ## Lines -/

theorem toList_terminated (lines : List String) :
    (terminated lines).toList = (lines.map String.toList).flatMap (· ++ ['\n']) := by
  rw [terminated, String.toList_join, List.flatMap_map, List.flatMap_map]
  simp

theorem splitOn_terminated {lines : List String} (h : ∀ line ∈ lines, '\n' ∉ line.toList) :
    (terminated lines).toList.splitOn '\n' = lines.map String.toList ++ [[]] := by
  have hlines : ∀ line ∈ lines.map String.toList, '\n' ∉ line := List.forall_mem_map.2 h
  rw [toList_terminated, splitOn_ended hlines]

theorem terminatedLines?_terminated {lines : List String}
    (h : ∀ line ∈ lines, '\n' ∉ line.toList) :
    terminatedLines? (terminated lines).toList = some (lines.map String.toList) := by
  rw [terminatedLines?, splitOn_terminated h]
  simp

theorem after?_append (start : String) (rest : List Char) :
    after? start (start.toList ++ rest) = some rest := by
  rw [after?, if_pos (List.isPrefixOf_iff_prefix.2 (List.prefix_append _ _)), List.drop_left]

/-! ## Headers -/

theorem readNumber?_append (n : Nat) {rest : List Char}
    (h : ∀ c ∈ rest.head?, c.isDigit = false) :
    readNumber? ((toString n).toList ++ rest) = some (n, rest) := by
  have hdigits := Text.digits_toDigits n
  have hstop : rest.takeWhile Char.isDigit = [] ∧ rest.dropWhile Char.isDigit = rest := by
    cases rest with
    | nil => exact ⟨rfl, rfl⟩
    | cons c rest => simp [h c rfl]
  rw [Nat.toString_eq_repr, Nat.toList_repr, readNumber?, List.takeWhile_append_of_pos hdigits,
    List.dropWhile_append_of_pos hdigits, hstop.1, hstop.2, List.append_nil,
    if_neg Nat.toDigits_ne_nil, Nat.ofDigitChars_ten_toDigits]

/-- The start of a range as a header shows it. -/
def statedStart (start stop : Nat) : Nat := if stop - start = 0 then start else start + 1

theorem readRange?_append (start stop : Nat) {rest : List Char} (h : rest.head? = some ' ') :
    readRange? ((rangeText start stop).toList ++ rest) =
      some ((statedStart start stop, stop - start), rest) := by
  obtain ⟨rest, rfl⟩ := List.head?_eq_some_iff.1 h
  have hpair (n len : Nat) :
      readRange? ((toString n ++ "," ++ toString len).toList ++ ' ' :: rest) =
        some ((n, len), ' ' :: rest) := by
    have hcomma : (toString n ++ "," ++ toString len).toList ++ ' ' :: rest =
        (toString n).toList ++ ',' :: ((toString len).toList ++ ' ' :: rest) := by
      simp [String.toList_append]
    rw [hcomma, readRange?, readNumber?_append n (by simp)]
    show (readNumber? ((toString len).toList ++ ' ' :: rest)).map _ = _
    rw [readNumber?_append len (by simp)]
    rfl
  unfold rangeText statedStart
  dsimp only
  split
  · rename_i hone
    rw [if_neg (by omega), hone, readRange?, readNumber?_append (start + 1) (by simp)]
    rfl
  split
  · rename_i hzero
    have hread := hpair start 0
    rw [String.append_assoc] at hread
    rw [hzero]
    exact hread
  · exact hpair (start + 1) (stop - start)

theorem readHeader?_header (a b c d : Nat) :
    readHeader? ("@@ -" ++ rangeText a b ++ " +" ++ rangeText c d ++ " @@").toList =
      some ((statedStart a b, b - a), (statedStart c d, d - c)) := by
  have hheader : ("@@ -" ++ rangeText a b ++ " +" ++ rangeText c d ++ " @@").toList =
      "@@ -".toList ++ ((rangeText a b).toList ++
        (" +".toList ++ ((rangeText c d).toList ++ " @@".toList))) := by
    simp only [String.toList_append, List.append_assoc]
  rw [hheader, readHeader?, after?_append]
  dsimp only [Option.bind_eq_bind, Option.bind_some]
  rw [readRange?_append a b rfl]
  dsimp only [Option.bind_eq_bind, Option.bind_some]
  rw [after?_append]
  dsimp only [Option.bind_eq_bind, Option.bind_some]
  rw [readRange?_append c d rfl]
  rfl

/-! ## Hunks -/

/-- What a hunk states in the text of a patch. -/
def Hunk.stated (h : Hunk) : StatedHunk :=
  ⟨statedStart h.oldStart h.oldStop, h.oldStop - h.oldStart, h.removed, h.added⟩

/-- The lines that a hunk shows are as many as its header announces. -/
structure Hunk.Announced (h : Hunk) : Prop where
  removed : h.removed.length = h.oldStop - h.oldStart
  added : h.added.length = h.newStop - h.newStart

theorem readMarked?_append (mark : Char) (taken : List String) (rest : List (List Char)) :
    readMarked? mark taken.length (taken.map (fun line => mark :: line.toList) ++ rest) =
      some (taken, rest) := by
  induction taken with
  | nil => rfl
  | cons line taken ih =>
    rw [List.length_cons, List.map_cons, List.cons_append, readMarked?, if_pos rfl, ih]
    simp

theorem readHunk?_lines {h : Hunk} (hannounced : h.Announced) (rest : List (List Char)) :
    ∃ header lines, h.lines.map String.toList = header :: lines ∧
      readHunk? header (lines ++ rest) = some (h.stated, rest) := by
  refine ⟨("@@ -" ++ rangeText h.oldStart h.oldStop ++ " +" ++
    rangeText h.newStart h.newStop ++ " @@").toList,
    h.removed.map (fun line => '-' :: line.toList) ++
      h.added.map (fun line => '+' :: line.toList), ?_, ?_⟩
  · simp only [Hunk.lines, List.cons_append, List.map_cons, List.map_append, List.map_map,
      Function.comp_def, String.toList_append]
    rfl
  · have hremoved := readMarked?_append '-' h.removed
      (h.added.map (fun line => '+' :: line.toList) ++ rest)
    have hadded := readMarked?_append '+' h.added rest
    rw [hannounced.removed] at hremoved
    rw [hannounced.added] at hadded
    rw [readHunk?, readHeader?_header, List.append_assoc]
    dsimp only [Option.bind_eq_bind, Option.bind_some]
    rw [hremoved]
    dsimp only [Option.bind_eq_bind, Option.bind_some]
    rw [hadded]
    rfl

theorem readHunks?_lines {hs : List Hunk} (h : ∀ hunk ∈ hs, hunk.Announced) :
    readHunks? ((hs.flatMap Hunk.lines).map String.toList) = some (hs.map Hunk.stated) := by
  induction hs with
  | nil =>
    rw [List.flatMap_nil, List.map_nil, readHunks?]
    rfl
  | cons hunk hs ih =>
    obtain ⟨header, lines, hlines, hread⟩ := readHunk?_lines (h hunk List.mem_cons_self)
      ((hs.flatMap Hunk.lines).map String.toList)
    rw [List.flatMap_cons, List.map_append, hlines, List.cons_append, readHunks?]
    -- the function matches with a proof, which only a case split can open
    split
    · rename_i hnone
      rw [hread] at hnone
      cases hnone
    · rename_i hunk' rest hsome
      rw [hread] at hsome
      cases hsome
      rw [ih fun hunk hmem => h hunk (List.mem_cons_of_mem _ hmem)]
      rfl

/-- The text of a difference is read back. -/
theorem readPatch?_terminated {hs : List Hunk} {oldLabel newLabel : String}
    (hannounced : ∀ h ∈ hs, h.Announced)
    (hlines : ∀ line ∈ ["--- " ++ oldLabel, "+++ " ++ newLabel] ++ hs.flatMap Hunk.lines,
      '\n' ∉ line.toList) :
    readPatch? (terminated (["--- " ++ oldLabel, "+++ " ++ newLabel] ++ hs.flatMap Hunk.lines)) =
      some ⟨oldLabel, newLabel, hs.map Hunk.stated⟩ := by
  rw [readPatch?, terminatedLines?_terminated hlines]
  simp only [List.cons_append, List.nil_append, List.map_cons, String.toList_append,
    Option.bind_eq_bind, Option.bind_some, after?_append, readHunks?_lines hannounced,
    String.ofList_toList]

end DeviceBench.Diff
