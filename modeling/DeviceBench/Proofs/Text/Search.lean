/-
Laws of exact search and replacement, for every pattern and text. `occurs` is the infix relation.
Replacing takes the text apart from left to right into occurrences and characters that start none,
so each law follows by that induction: without an occurrence nothing changes, the size changes by
what each occurrence gains or loses, and a replacement that keeps clear of a pattern brings no new
occurrence of it.
-/
import DeviceBench.Text.Search
import Mathlib.Data.List.Infix

namespace DeviceBench.Text

/-! ## Occurrences -/

theorem occurs_iff {pattern text : List Char} : occurs pattern text = true ↔ pattern <:+: text := by
  induction text with
  | nil => simp [occurs]
  | cons c cs ih => rw [occurs, Bool.or_eq_true, List.isPrefixOf_iff_prefix, ih, List.infix_cons_iff]

theorem occurs_eq_false_iff {pattern text : List Char} :
    occurs pattern text = false ↔ ¬ pattern <:+: text := by
  rw [← occurs_iff, Bool.not_eq_true]

/-! ## Replacing without an accumulator -/

/-- Replacing as it reads, with the count of characters that are still skipped. -/
def replaceFrom (pattern replacement : List Char) : Nat → List Char → List Char
  | _, [] => []
  | skip + 1, _ :: cs => replaceFrom pattern replacement skip cs
  | 0, c :: cs =>
    if pattern.isPrefixOf (c :: cs) then
      replacement ++ replaceFrom pattern replacement (pattern.length - 1) cs
    else c :: replaceFrom pattern replacement 0 cs

theorem replaceOnto_eq (pattern replacement : List Char) (skip : Nat) (text written : List Char) :
    replaceOnto pattern replacement skip text written =
      (replaceFrom pattern replacement skip text).reverse ++ written := by
  fun_induction replaceOnto pattern replacement skip text written with
  | case1 => simp [replaceFrom]
  | case2 written skip c cs ih => rw [ih, replaceFrom]
  | case3 written c cs h ih => rw [ih, replaceFrom, if_pos h]; simp [List.reverseAux_eq]
  | case4 written c cs h ih => rw [ih, replaceFrom, if_neg h]; simp

theorem replaceAll_eq_replaceFrom (pattern replacement text : List Char) :
    replaceAll pattern replacement text = replaceFrom pattern replacement 0 text := by
  rw [replaceAll, replaceOnto_eq]; simp

theorem replaceFrom_skip (pattern replacement : List Char) :
    ∀ (skip : Nat) (text : List Char),
      replaceFrom pattern replacement skip text =
        replaceFrom pattern replacement 0 (text.drop skip)
  | 0, _ => rfl
  | skip + 1, [] => by simp [replaceFrom]
  | skip + 1, c :: cs => by
    rw [replaceFrom, replaceFrom_skip pattern replacement skip cs, List.drop_succ_cons]

section Replacing

variable {pattern : List Char} (replacement : List Char)

@[simp] theorem replaceAll_nil : replaceAll pattern replacement [] = [] := rfl

/-- An occurrence at the start is replaced and the search goes on after it. -/
theorem replaceAll_found (hp : pattern ≠ []) (rest : List Char) :
    replaceAll pattern replacement (pattern ++ rest) =
      replacement ++ replaceAll pattern replacement rest := by
  obtain ⟨c, cs, rfl⟩ := List.exists_cons_of_ne_nil hp
  have h : (c :: cs).isPrefixOf (c :: (cs ++ rest)) = true :=
    List.isPrefixOf_iff_prefix.2 (List.prefix_append (c :: cs) rest)
  rw [replaceAll_eq_replaceFrom, replaceAll_eq_replaceFrom, List.cons_append, replaceFrom, if_pos h,
    replaceFrom_skip]
  simp

/-- A character that starts no occurrence stays. -/
theorem replaceAll_passed {c : Char} {cs : List Char} (h : ¬ pattern <+: c :: cs) :
    replaceAll pattern replacement (c :: cs) = c :: replaceAll pattern replacement cs := by
  rw [← List.isPrefixOf_iff_prefix] at h
  rw [replaceAll_eq_replaceFrom, replaceAll_eq_replaceFrom, replaceFrom, if_neg h]

/-- The induction that replacing follows: at the end, after an occurrence, and at a character that
starts none. -/
theorem replace_induction {motive : List Char → Prop} (hp : pattern ≠ []) (nil : motive [])
    (found : ∀ rest, motive rest → motive (pattern ++ rest))
    (passed : ∀ c cs, ¬ pattern <+: c :: cs → motive cs → motive (c :: cs)) (text : List Char) :
    motive text := by
  induction hn : text.length using Nat.strong_induction_on generalizing text with
  | _ n ih =>
    cases text with
    | nil => exact nil
    | cons c cs =>
      by_cases h : pattern <+: c :: cs
      · obtain ⟨rest, hrest⟩ := h
        have hpos : 0 < pattern.length := List.length_pos_of_ne_nil hp
        have hlen : pattern.length + rest.length = n := by rw [← hn, ← hrest, List.length_append]
        rw [← hrest]
        exact found rest (ih rest.length (by omega) rest rfl)
      · exact passed c cs h (ih cs.length (by simp at hn; omega) cs rfl)

theorem replaceAll_of_not_infix (hp : pattern ≠ []) {text : List Char} (h : ¬ pattern <:+: text) :
    replaceAll pattern replacement text = text := by
  induction text using replace_induction hp with
  | nil => rfl
  | found rest _ => exact absurd (List.infix_append_left) h
  | passed c cs hc ih =>
    rw [replaceAll_passed replacement hc, ih fun hi => h (List.infix_cons hi)]

end Replacing

/-! ## Sizes -/

/-- The bytes of a text as it is encoded. -/
def byteSize (text : List Char) : Nat := (String.ofList text).utf8ByteSize

@[simp] theorem byteSize_nil : byteSize [] = 0 := by simp [byteSize]

@[simp] theorem byteSize_append (a b : List Char) : byteSize (a ++ b) = byteSize a + byteSize b := by
  rw [byteSize, String.ofList_append, String.utf8ByteSize_append]; rfl

theorem byteSize_cons (c : Char) (cs : List Char) : byteSize (c :: cs) = byteSize [c] + byteSize cs :=
  byteSize_append [c] cs

@[simp] theorem byteSize_toList (s : String) : byteSize s.toList = s.utf8ByteSize := by
  rw [byteSize, String.ofList_toList]

section Sizes

variable {pattern replacement : List Char}

/-- Where no occurrence gains bytes, replacing gains none. -/
theorem byteSize_replaceAll_le (hp : pattern ≠ []) (hr : byteSize replacement ≤ byteSize pattern)
    (text : List Char) : byteSize (replaceAll pattern replacement text) ≤ byteSize text := by
  induction text using replace_induction hp with
  | nil => simp
  | found rest ih => rw [replaceAll_found replacement hp]; simp; omega
  | passed c cs hc ih =>
    rw [replaceAll_passed replacement hc, byteSize_cons, byteSize_cons c cs]; omega

/-- Where each occurrence loses bytes and there is one, replacing loses bytes. -/
theorem byteSize_replaceAll_lt (hp : pattern ≠ []) (hr : byteSize replacement < byteSize pattern)
    {text : List Char} (h : pattern <:+: text) :
    byteSize (replaceAll pattern replacement text) < byteSize text := by
  induction text using replace_induction hp with
  | nil => exact absurd (List.eq_nil_of_infix_nil h) hp
  | found rest _ =>
    have := byteSize_replaceAll_le hp (le_of_lt hr) rest
    rw [replaceAll_found replacement hp]; simp; omega
  | passed c cs hc ih =>
    have := ih ((List.infix_cons_iff.1 h).resolve_left hc)
    rw [replaceAll_passed replacement hc, byteSize_cons, byteSize_cons c cs]; omega

end Sizes

/-! ## Replacements that keep clear of a pattern -/

/-- In no text does an occurrence of the pattern share a character with a copy of the replacement:
neither holds the other, and no end of one is a start of the other. -/
structure Clear (replacement pattern : List Char) : Prop where
  notWithin : ¬ pattern <:+: replacement
  notAround : ¬ replacement <:+: pattern
  notAfter : ∀ part, part ≠ [] → part <:+ replacement → ¬ part <+: pattern
  notBefore : ∀ part, part ≠ [] → part <+: replacement → ¬ part <:+ pattern

instance (replacement pattern : List Char) : Decidable (Clear replacement pattern) :=
  decidable_of_iff
    (occurs pattern replacement = false ∧ occurs replacement pattern = false ∧
      (∀ part ∈ replacement.tails, part ≠ [] → part.isPrefixOf pattern = false) ∧
      ∀ part ∈ replacement.inits, part ≠ [] → part.isSuffixOf pattern = false) <| by
    simp only [← Bool.not_eq_true, occurs_iff, List.mem_tails, List.mem_inits,
      List.isPrefixOf_iff_prefix, List.isSuffixOf_iff_suffix]
    exact ⟨fun ⟨h1, h2, h3, h4⟩ => ⟨h1, h2, fun p hp hs => h3 p hs hp, fun p hp hs => h4 p hs hp⟩,
      fun ⟨h1, h2, h3, h4⟩ => ⟨h1, h2, fun p hs hp => h3 p hp hs, fun p hs hp => h4 p hp hs⟩⟩

section Clear

variable {pattern replacement : List Char}

/-- What the text starts with after replacing it started with before, if no end of it can be in a
replacement. -/
theorem prefix_of_prefix_replaceAll (hp : pattern ≠ []) {text : List Char} :
    ∀ {start : List Char}, ¬ replacement <:+: start →
      (∀ part, part ≠ [] → part <+: replacement → ¬ part <:+ start) →
      start <+: replaceAll pattern replacement text → start <+: text := by
  induction text using replace_induction hp with
  | nil => intro start _ _ h; simpa using h
  | found rest _ =>
    intro start hin hend h
    rw [replaceAll_found replacement hp] at h
    rcases List.prefix_or_prefix_of_prefix h (List.prefix_append replacement _) with hs | hs
    · by_cases hne : start = []
      · rw [hne]; exact List.nil_prefix
      · exact absurd (List.suffix_refl start) (hend start hne hs)
    · exact absurd hs.isInfix hin
  | passed c cs hc ih =>
    intro start hin hend h
    rw [replaceAll_passed replacement hc] at h
    rcases List.prefix_cons_iff.1 h with rfl | ⟨more, rfl, hmore⟩
    · exact List.nil_prefix
    · refine List.prefix_cons_iff.2 (.inr ⟨more, rfl, ih (fun hi => hin (List.infix_cons hi)) ?_ hmore⟩)
      intro part hne hpart hs
      exact hend part hne hpart (hs.trans (List.suffix_cons c more))

/-- Replacing leaves no occurrence of a pattern that the replacement keeps clear of, if the pattern
is the one that is replaced or did not occur before. -/
theorem not_infix_replaceAll (hp : pattern ≠ []) {other : List Char} (hc : Clear replacement other)
    {text : List Char} (h : other = pattern ∨ ¬ other <:+: text) :
    ¬ other <:+: replaceAll pattern replacement text := by
  induction text using replace_induction hp with
  | nil =>
    intro ho
    have : other = [] := by simpa using ho
    exact hc.notWithin (this ▸ List.nil_infix)
  | found rest ih =>
    rw [replaceAll_found replacement hp, List.infix_append_iff_ne_nil]
    rintro (ho | ho | ⟨front, back, hfront, -, rfl, hs, -⟩)
    · exact hc.notWithin ho
    · exact ih (h.imp id fun hn hi => hn (List.infix_append_of_infix_right hi)) ho
    · exact hc.notAfter front hfront hs (List.prefix_append front back)
  | passed c cs hcs ih =>
    intro ho
    have hkept : replaceAll pattern replacement (c :: cs) = c :: replaceAll pattern replacement cs :=
      replaceAll_passed replacement hcs
    rw [hkept] at ho
    rcases List.infix_cons_iff.1 ho with ho | ho
    · -- the new occurrence starts at the kept character, so it stood there before
      rw [← hkept] at ho
      have hstart := prefix_of_prefix_replaceAll hp hc.notAround hc.notBefore ho
      rcases h with rfl | hn
      · exact hcs hstart
      · exact hn hstart.isInfix
    · exact ih (h.imp id fun hn hi => hn (List.infix_cons hi)) ho

end Clear

/-! ## Characters that the pattern lacks -/

section Apart

variable {pattern : List Char} {c : Char} (hc : c ∉ pattern)

include hc

/-- No occurrence at the start reaches over a character that the pattern lacks. -/
theorem prefix_append_cons_iff (a b : List Char) : pattern <+: a ++ c :: b ↔ pattern <+: a := by
  refine ⟨fun h => ?_, fun h => h.trans (List.prefix_append a _)⟩
  rcases List.prefix_or_prefix_of_prefix h (List.prefix_append a _) with ha | ⟨more, rfl⟩
  · exact ha
  · rw [List.prefix_append_right_inj] at h
    rcases List.prefix_cons_iff.1 h with rfl | ⟨rest, rfl, -⟩
    · simp
    · exact absurd (by simp) hc

/-- An occurrence stands on one side of a character that the pattern lacks. -/
theorem infix_append_cons_iff (a b : List Char) :
    pattern <:+: a ++ c :: b ↔ pattern <:+: a ∨ pattern <:+: b := by
  induction a with
  | nil =>
    have hstart := prefix_append_cons_iff hc [] b
    rw [List.nil_append] at hstart ⊢
    rw [List.infix_cons_iff, hstart]
    simp
  | cons d a ih =>
    rw [List.cons_append, List.infix_cons_iff, List.infix_cons_iff, ih, ← List.cons_append,
      prefix_append_cons_iff hc, or_assoc]

/-- Replacing goes on from anew behind a character that the pattern lacks. -/
theorem replaceAll_append_cons (hp : pattern ≠ []) (replacement a b : List Char) :
    replaceAll pattern replacement (a ++ c :: b) =
      replaceAll pattern replacement a ++ c :: replaceAll pattern replacement b := by
  induction a using replace_induction hp with
  | nil =>
    have hstart : ¬ pattern <+: c :: b := by
      intro h
      have hnil := (prefix_append_cons_iff hc [] b).1 h
      exact hp (List.prefix_nil.1 hnil)
    rw [List.nil_append, replaceAll_passed replacement hstart, replaceAll_nil, List.nil_append]
  | found rest ih =>
    rw [List.append_assoc, replaceAll_found replacement hp, replaceAll_found replacement hp, ih,
      List.append_assoc]
  | passed d cs hcs ih =>
    have hstart : ¬ pattern <+: d :: (cs ++ c :: b) := by
      rw [← List.cons_append, prefix_append_cons_iff hc]
      exact hcs
    rw [List.cons_append, replaceAll_passed replacement hstart, replaceAll_passed replacement hcs, ih,
      List.cons_append]

end Apart

/-- Replacing brings in characters of the replacement only. -/
theorem mem_of_mem_replaceAll {pattern replacement text : List Char} (hp : pattern ≠ []) {c : Char}
    (h : c ∈ replaceAll pattern replacement text) : c ∈ replacement ∨ c ∈ text := by
  induction text using replace_induction hp with
  | nil => exact .inr h
  | found rest ih =>
    rw [replaceAll_found replacement hp, List.mem_append] at h
    rcases h with h | h
    · exact .inl h
    · exact (ih h).imp id (List.mem_append_right pattern)
  | passed d cs hcs ih =>
    rw [replaceAll_passed replacement hcs, List.mem_cons] at h
    rcases h with rfl | h
    · exact .inr List.mem_cons_self
    · exact (ih h).imp id (List.mem_cons_of_mem d)

/-! ## The first occurrence of a character -/

theorem splitFirst?_of_not_mem {mark : Char} {cs : List Char} (h : mark ∉ cs) :
    splitFirst? mark cs = none := by
  induction cs with
  | nil => rfl
  | cons c cs ih =>
    rw [List.mem_cons, not_or] at h
    rw [splitFirst?, if_neg (Ne.symm h.1), ih h.2]
    rfl

theorem splitFirst?_append {mark : Char} {before : List Char} (h : mark ∉ before) (after : List Char) :
    splitFirst? mark (before ++ mark :: after) = some (before, after) := by
  induction before with
  | nil => rw [List.nil_append, splitFirst?, if_pos rfl]
  | cons c before ih =>
    rw [List.mem_cons, not_or] at h
    rw [List.cons_append, splitFirst?, if_neg (Ne.symm h.1), ih h.2]
    rfl

end DeviceBench.Text
