/-
Lines of a text. Universal newlines touch nothing but line ends, so a text whose
last line is ended is a list of lines without line ends, each followed by a line feed, and cutting it
gives those lines back. Captured output is cut at eight further characters: it falls into the same
lines as the text of a file exactly where none of them occurs.
-/
import DeviceBench.Proofs.Text.Search
import DeviceBench.Proofs.Text.Utf8
import DeviceBench.Text.Lines

namespace DeviceBench.Text

/-! ## Universal newlines -/

@[simp] theorem unifyNewlines_nil : unifyNewlines [] = [] := rfl

theorem unifyNewlines_crlf (cs : List Char) :
    unifyNewlines ('\r' :: '\n' :: cs) = '\n' :: unifyNewlines cs := by
  have hpair := replaceAll_found ['\n'] (List.cons_ne_nil '\r' ['\n']) cs
  rw [unifyNewlines]
  refine (congrArg _ hpair).trans ?_
  exact replaceAll_passed ['\n'] (by simp)

theorem unifyNewlines_cr {cs : List Char} (h : cs.head? ≠ some '\n') :
    unifyNewlines ('\r' :: cs) = '\n' :: unifyNewlines cs := by
  have hpair : ¬ ['\r', '\n'] <+: '\r' :: cs := by
    rintro ⟨rest, hrest⟩
    cases hrest
    exact h rfl
  rw [unifyNewlines, replaceAll_passed ['\n'] hpair]
  exact replaceAll_found ['\n'] (List.cons_ne_nil '\r' []) _

theorem unifyNewlines_cons {c : Char} (h : c ≠ '\r') (cs : List Char) :
    unifyNewlines (c :: cs) = c :: unifyNewlines cs := by
  have hpair : ¬ ['\r', '\n'] <+: c :: cs := by
    rintro ⟨rest, hrest⟩
    cases hrest
    exact h rfl
  rw [unifyNewlines, replaceAll_passed ['\n'] hpair]
  refine replaceAll_passed ['\n'] ?_
  rintro ⟨rest, hrest⟩
  cases hrest
  exact h rfl

/-- The induction that universal newlines follow: at the end, at a pair, at a carriage return alone,
and at any other character. -/
theorem newline_induction {motive : List Char → Prop} (nil : motive [])
    (crlf : ∀ cs, motive cs → motive ('\r' :: '\n' :: cs))
    (cr : ∀ cs, cs.head? ≠ some '\n' → motive cs → motive ('\r' :: cs))
    (other : ∀ c cs, c ≠ '\r' → motive cs → motive (c :: cs)) (text : List Char) : motive text := by
  induction hn : text.length using Nat.strong_induction_on generalizing text with
  | _ n ih =>
    subst hn
    cases text with
    | nil => exact nil
    | cons c cs =>
      have hcs : motive cs := ih cs.length (by simp) cs rfl
      by_cases hc : c = '\r'
      · subst hc
        by_cases hhead : cs.head? = some '\n'
        · obtain ⟨rest, rfl⟩ := List.head?_eq_some_iff.1 hhead
          have hlt : rest.length < rest.length + 1 + 1 := by omega
          exact crlf rest (ih rest.length hlt rest rfl)
        · exact cr cs hhead hcs
      · exact other c cs hc hcs

theorem unifyNewlines_of_not_mem {text : List Char} (h : '\r' ∉ text) : unifyNewlines text = text := by
  induction text with
  | nil => rfl
  | cons c cs ih =>
    rw [List.mem_cons, not_or] at h
    rw [unifyNewlines_cons (Ne.symm h.1), ih h.2]

/-- Characters that end no line stay. -/
theorem mem_unifyNewlines {c : Char} (hlf : c ≠ '\n') (hcr : c ≠ '\r') {text : List Char} :
    c ∈ unifyNewlines text ↔ c ∈ text := by
  induction text using newline_induction with
  | nil => simp
  | crlf cs ih => rw [unifyNewlines_crlf]; simp [ih, hlf, hcr]
  | cr cs h ih => rw [unifyNewlines_cr h]; simp [ih, hlf, hcr]
  | other d cs h ih => rw [unifyNewlines_cons h]; simp [ih]

theorem unifyNewlines_eq_nil_iff {text : List Char} : unifyNewlines text = [] ↔ text = [] := by
  induction text using newline_induction with
  | nil => simp
  | crlf cs ih => rw [unifyNewlines_crlf]; simp
  | cr cs h ih => rw [unifyNewlines_cr h]; simp
  | other c cs h ih => rw [unifyNewlines_cons h]; simp

/-! ## Ended texts -/

/-- The last line of the text is ended by a line feed or a carriage return, if there is a line. -/
def Ended (text : List Char) : Prop := ∀ c ∈ text.getLast?, c = '\n' ∨ c = '\r'

instance (text : List Char) : Decidable (Ended text) :=
  decidable_of_iff (text.getLast?.all fun c => c = '\n' ∨ c = '\r') <| by
    rw [Option.all_eq_true]
    simp [Ended]

/-- Neither a line feed nor a carriage return is in the text. -/
def OneLine (text : List Char) : Prop := '\n' ∉ text ∧ '\r' ∉ text

instance (text : List Char) : Decidable (OneLine text) := inferInstanceAs (Decidable (_ ∧ _))

theorem Ended.tail {c : Char} {cs : List Char} (h : Ended (c :: cs)) : Ended cs := by
  intro d hd
  apply h
  rw [List.getLast?_cons, Option.mem_def.1 hd]
  rfl

/-- With universal newlines an ended text is lines without line ends, each followed by a line feed. -/
theorem exists_lines_of_ended {text : List Char} (h : Ended text) :
    ∃ lines : List (List Char), (∀ l ∈ lines, OneLine l) ∧
      unifyNewlines text = lines.flatMap (· ++ ['\n']) := by
  induction text using newline_induction with
  | nil => exact ⟨[], by simp, rfl⟩
  | crlf cs ih =>
    obtain ⟨lines, hlines, heq⟩ := ih h.tail.tail
    exact ⟨[] :: lines, by simpa [OneLine] using hlines, by rw [unifyNewlines_crlf, heq]; rfl⟩
  | cr cs hhead ih =>
    obtain ⟨lines, hlines, heq⟩ := ih h.tail
    exact ⟨[] :: lines, by simpa [OneLine] using hlines, by rw [unifyNewlines_cr hhead, heq]; rfl⟩
  | other c cs hc ih =>
    obtain ⟨lines, hlines, heq⟩ := ih h.tail
    by_cases hlf : c = '\n'
    · subst hlf
      exact ⟨[] :: lines, by simpa [OneLine] using hlines, by rw [unifyNewlines_cons hc, heq]; rfl⟩
    · -- the character belongs to the line behind it, which is there because the text is ended
      cases lines with
      | nil =>
        have hcs : cs = [] := unifyNewlines_eq_nil_iff.1 heq
        subst hcs
        rcases h c rfl with hend | hend
        · exact absurd hend hlf
        · exact absurd hend hc
      | cons l ls =>
        refine ⟨(c :: l) :: ls, ?_, by rw [unifyNewlines_cons hc, heq]; rfl⟩
        intro k hk
        rcases List.mem_cons.1 hk with rfl | hk
        · have hl := hlines l List.mem_cons_self
          exact ⟨by simp [hl.1, Ne.symm hlf], by simp [hl.2, Ne.symm hc]⟩
        · exact hlines k (List.mem_cons_of_mem l hk)

/-! ## Cutting at line feeds -/

theorem keptLinesAfter_append {line : List Char} (h : '\n' ∉ line) (rest read : List Char) :
    keptLinesAfter (line ++ '\n' :: rest) read =
      (read.reverse ++ line ++ ['\n']) :: keptLinesAfter rest [] := by
  induction line generalizing read with
  | nil => simp [keptLinesAfter]
  | cons c cs ih =>
    rw [List.mem_cons, not_or] at h
    rw [List.cons_append, keptLinesAfter, if_neg (Ne.symm h.1), ih h.2]
    simp

/-- Cutting a text gives the lines that it was made of. -/
theorem keptLinesAfter_lines {lines : List (List Char)} (h : ∀ l ∈ lines, '\n' ∉ l) :
    keptLinesAfter (lines.flatMap (· ++ ['\n'])) [] = lines.map (· ++ ['\n']) := by
  induction lines with
  | nil => rfl
  | cons l ls ih =>
    have hls := ih fun k hk => h k (List.mem_cons_of_mem l hk)
    rw [List.flatMap_cons, List.append_assoc, List.singleton_append,
      keptLinesAfter_append (h l List.mem_cons_self), hls]
    rfl

theorem dropLineFeed_append (line : List Char) : dropLineFeed (line ++ ['\n']) = line := by
  simp [dropLineFeed]

theorem dropLineFeed_of_not_mem {line : List Char} (h : '\n' ∉ line) : dropLineFeed line = line := by
  rw [dropLineFeed, if_neg]
  intro hlast
  exact h (List.mem_of_getLast? hlast)

theorem mem_dropLineFeed {c : Char} (hc : c ≠ '\n') {line : List Char} (h : c ∈ line) :
    c ∈ dropLineFeed line := by
  rw [dropLineFeed]
  split
  · rename_i hlast
    obtain ⟨front, rfl⟩ := List.getLast?_eq_some_iff.1 hlast
    rw [List.mem_append, List.mem_singleton] at h
    rw [List.dropLast_concat]
    exact h.resolve_right hc
  · exact h

/-- Every character of a text stands in one of its lines. -/
theorem exists_mem_keptLinesAfter {c : Char} (text read : List Char) (h : c ∈ text ∨ c ∈ read) :
    ∃ line ∈ keptLinesAfter text read, c ∈ line := by
  fun_induction keptLinesAfter text read with
  | case1 read hread =>
    have : read = [] := List.isEmpty_iff.1 hread
    simp [this] at h
  | case2 read hread => exact ⟨read.reverse, by simp, by simpa using h⟩
  | case3 cs read ih =>
    rcases h with h | h
    · rcases List.mem_cons.1 h with rfl | h
      · exact ⟨_, List.mem_cons_self, by simp⟩
      · obtain ⟨line, hline, hc⟩ := ih (.inl h)
        exact ⟨line, List.mem_cons_of_mem _ hline, hc⟩
    · exact ⟨_, List.mem_cons_self, by simp [h]⟩
  | case4 d cs read hd ih =>
    apply ih
    rcases h with h | h
    · rcases List.mem_cons.1 h with rfl | h
      · exact .inr List.mem_cons_self
      · exact .inl h
    · exact .inr (List.mem_cons_of_mem d h)

/-! ## Captured output -/

/-- The characters that end a line of captured output and no line of a file. -/
def outputBreaks : List Char :=
  ['\x0b', '\x0c', '\x1c', '\x1d', '\x1e', '\u0085', '\u2028', '\u2029']

theorem isLineBreak_iff {c : Char} : isLineBreak c = true ↔ c = '\n' ∨ c ∈ outputBreaks := by
  simp [isLineBreak, outputBreaks, or_assoc]

theorem cr_not_mem_outputBreaks : '\r' ∉ outputBreaks := by decide

theorem lf_not_mem_outputBreaks : '\n' ∉ outputBreaks := by decide

/-- Without the further characters, output is cut as the text of a file is. -/
theorem linesAfter_eq_keptLinesAfter (text read : List Char) (htext : ∀ c ∈ text, c ∉ outputBreaks)
    (hread : '\n' ∉ read) :
    linesAfter text read = (keptLinesAfter (unifyNewlines text) read).map dropLineFeed := by
  have hdrop (line : List Char) : dropLineFeed ('\n' :: line).reverse = line.reverse := by
    rw [List.reverse_cons, dropLineFeed_append]
  fun_induction linesAfter text read with
  | case1 read hempty => simp [keptLinesAfter, hempty]
  | case2 read hempty =>
    rw [unifyNewlines_nil, keptLinesAfter, if_neg hempty, List.map_singleton,
      dropLineFeed_of_not_mem (by simpa using hread)]
  | case3 cs read ih =>
    rw [unifyNewlines_crlf, keptLinesAfter, if_pos rfl, List.map_cons, hdrop,
      ih (fun c hc => htext c (by simp [hc])) (by simp)]
  | case4 c cs read hpair hc ih =>
    have hrest := ih (fun d hd => htext d (List.mem_cons_of_mem c hd)) (by simp)
    have hend : unifyNewlines (c :: cs) = '\n' :: unifyNewlines cs := by
      rcases hc with rfl | hc
      · apply unifyNewlines_cr
        intro hhead
        obtain ⟨rest, rfl⟩ := List.head?_eq_some_iff.1 hhead
        exact hpair rest rfl rfl
      · have hlf : c = '\n' := (isLineBreak_iff.1 hc).resolve_right (htext c List.mem_cons_self)
        rw [hlf, unifyNewlines_cons (by decide)]
    rw [hend, keptLinesAfter, if_pos rfl, List.map_cons, hdrop, hrest]
  | case5 c cs read hpair hc ih =>
    rw [not_or] at hc
    have hlf : c ≠ '\n' := fun he => hc.2 (isLineBreak_iff.2 (.inl he))
    rw [unifyNewlines_cons hc.1, keptLinesAfter, if_neg hlf]
    exact ih (fun d hd => htext d (List.mem_cons_of_mem c hd)) (by simp [hread, Ne.symm hlf])

/-- No line of output holds one of the further characters. -/
theorem not_mem_outputBreaks_of_mem_linesAfter (text read : List Char)
    (hread : ∀ c ∈ read, c ∉ outputBreaks) :
    ∀ line ∈ linesAfter text read, ∀ c ∈ line, c ∉ outputBreaks := by
  fun_induction linesAfter text read with
  | case1 read hempty => simp
  | case2 read hempty => simpa using hread
  | case3 cs read ih =>
    intro line hline
    rcases List.mem_cons.1 hline with rfl | hline
    · simpa using hread
    · exact ih (by simp) line hline
  | case4 c cs read hpair hc ih =>
    intro line hline
    rcases List.mem_cons.1 hline with rfl | hline
    · simpa using hread
    · exact ih (by simp) line hline
  | case5 c cs read hpair hc ih =>
    apply ih
    intro d hd
    rcases List.mem_cons.1 hd with rfl | hd
    · exact fun hbreak => hc (.inr (isLineBreak_iff.2 (.inr hbreak)))
    · exact hread d hd

/-- Output falls into the same lines as the text of a file exactly where none of the further
characters occurs. -/
theorem linesAfter_eq_iff {text : List Char} :
    linesAfter text [] = (keptLinesAfter (unifyNewlines text) []).map dropLineFeed ↔
      ∀ c ∈ text, c ∉ outputBreaks := by
  refine ⟨fun heq c hc hbreak => ?_, fun h => linesAfter_eq_keptLinesAfter text [] h (by simp)⟩
  have hcr : c ≠ '\r' := fun he => cr_not_mem_outputBreaks (he ▸ hbreak)
  have hlf : c ≠ '\n' := fun he => lf_not_mem_outputBreaks (he ▸ hbreak)
  -- a line of the file holds the character, and no line of output does
  obtain ⟨line, hline, hmem⟩ :=
    exists_mem_keptLinesAfter _ [] (.inl ((mem_unifyNewlines hlf hcr).2 hc))
  have hbare : dropLineFeed line ∈ linesAfter text [] := by
    rw [heq]
    exact List.mem_map_of_mem hline
  exact not_mem_outputBreaks_of_mem_linesAfter text [] (by simp) _ hbare c
    (mem_dropLineFeed hlf hmem) hbreak

theorem linesAfter_eq_nil_iff (text read : List Char) :
    linesAfter text read = [] ↔ text = [] ∧ read = [] := by
  fun_induction linesAfter text read with
  | case1 read hempty => simpa using hempty
  | case2 read hempty => simpa using hempty
  | case3 cs read ih => simp
  | case4 c cs read hpair hc ih => simp
  | case5 c cs read hpair hc ih => simp [ih]

/-- Only an empty stream has no lines. -/
theorem splitLines_eq_nil_iff {bytes : Bytes} : splitLines bytes = [] ↔ bytes = [] := by
  rw [splitLines, List.map_eq_nil_iff, linesAfter_eq_nil_iff, decodeLossy_eq_nil_iff]
  simp

end DeviceBench.Text
