/-
Passes of a rule set. Stopping early changes nothing: what the rules leave of a line is the line
after as many passes as are allowed at most. Where the first rules of a set keep clear of one
another's patterns and the others lose bytes, a pass that keeps the size leaves a line without any
pattern, so every line is at rest after one pass more than it has bytes.
-/
import DeviceBench.Proofs.Text.Search
import DeviceBench.RuleSet
import Mathlib.Logic.Function.Iterate

namespace DeviceBench.RuleSet

open Text

/-! ## The loop -/

theorem settle_eq_iterate (s : RuleSet) (passes : Nat) (line : List Char) :
    s.settle passes line = s.pass^[passes] line := by
  induction passes generalizing line with
  | zero => rfl
  | succ passes ih =>
    rw [settle]
    split
    · rename_i h
      exact (Function.iterate_fixed h (passes + 1)).symm
    · rw [ih, Function.iterate_succ_apply]

/-- What is left of a line is the line after two passes more than it has bytes. -/
theorem applyLine_eq_iterate (s : RuleSet) (line : String) :
    s.applyLine line = String.ofList (s.pass^[line.utf8ByteSize + 2] line.toList) := by
  rw [applyLine, settle_eq_iterate, ← Function.iterate_succ_apply]

/-- Once a pass changes nothing, further passes leave the line where it is. -/
theorem iterate_pass_of_le {s : RuleSet} {line : List Char} {m n : Nat}
    (h : s.pass (s.pass^[m] line) = s.pass^[m] line) (hmn : m ≤ n) :
    s.pass^[n] line = s.pass^[m] line := by
  obtain ⟨k, rfl⟩ := Nat.exists_eq_add_of_le hmn
  rw [Nat.add_comm, Function.iterate_add_apply]
  exact Function.iterate_fixed h k

/-! ## Lines without a pattern -/

/-- No pattern of the rules occurs in the line. -/
def Clean (rules : List Rule) (line : List Char) : Prop :=
  ∀ r ∈ rules, ¬ r.pattern.toList <:+: line

theorem clean_append {a b : List Rule} {line : List Char} :
    Clean (a ++ b) line ↔ Clean a line ∧ Clean b line := by
  simp only [Clean, List.mem_append, or_imp, forall_and]

theorem foldl_applyRule_of_clean {rules : List Rule} {line : List Char}
    (hne : ∀ r ∈ rules, r.pattern.toList ≠ []) (hc : Clean rules line) :
    rules.foldl applyRule line = line := by
  induction rules with
  | nil => rfl
  | cons r rules ih =>
    have hr : applyRule line r = line :=
      replaceAll_of_not_infix _ (hne r List.mem_cons_self) (hc r List.mem_cons_self)
    rw [List.foldl_cons, hr]
    exact ih (fun r' h => hne r' (List.mem_cons_of_mem r h)) fun r' h =>
      hc r' (List.mem_cons_of_mem r h)

/-! ## Rules that keep clear of one another -/

/-- Rules of which no replacement can take part in an occurrence of a pattern, and which never gain
bytes. -/
structure Repainting (rules : List Rule) : Prop where
  nonempty : ∀ r ∈ rules, r.pattern.toList ≠ []
  clear : ∀ r ∈ rules, ∀ q ∈ rules, Clear r.replacement.toList q.pattern.toList
  keeps : ∀ r ∈ rules, byteSize r.replacement.toList ≤ byteSize r.pattern.toList

/-- Applying rules in order leaves none of their patterns, nor any pattern gone before that they
keep clear of. -/
theorem clean_foldl_applyRule {rules : List Rule} :
    ∀ {gone : List Rule} {line : List Char}, Repainting (gone ++ rules) → Clean gone line →
      Clean (gone ++ rules) (rules.foldl applyRule line) := by
  induction rules with
  | nil => intro gone line _ hc; simpa using hc
  | cons r rules ih =>
    intro gone line hw hc
    have hr : r ∈ gone ++ r :: rules := by simp
    -- the pattern of `r` goes, and those gone before cannot come back
    have hone : Clean (gone ++ [r]) (applyRule line r) := by
      intro q hq
      have hq' : q ∈ gone ++ r :: rules := by
        rcases List.mem_append.1 hq with h | h
        · exact List.mem_append_left _ h
        · rw [List.mem_singleton.1 h]; exact hr
      refine not_infix_replaceAll (hw.nonempty r hr) (hw.clear r hr q hq') ?_
      rcases List.mem_append.1 hq with h | h
      · exact .inr (hc q h)
      · rw [List.mem_singleton.1 h]; exact .inl rfl
    have := ih (by simpa using hw) hone
    simpa using this

theorem Repainting.clean {rules : List Rule} (hw : Repainting rules) (line : List Char) :
    Clean rules (rules.foldl applyRule line) :=
  clean_foldl_applyRule (by simpa using hw) fun _ h => absurd h List.not_mem_nil

theorem Repainting.byteSize_le {rules : List Rule} (hw : Repainting rules) (line : List Char) :
    byteSize (rules.foldl applyRule line) ≤ byteSize line := by
  induction rules generalizing line with
  | nil => exact le_rfl
  | cons r rules ih =>
    have hone : byteSize (applyRule line r) ≤ byteSize line :=
      byteSize_replaceAll_le (hw.nonempty r List.mem_cons_self) (hw.keeps r List.mem_cons_self) line
    have hrest : Repainting rules :=
      ⟨fun q h => hw.nonempty q (List.mem_cons_of_mem r h),
        fun q h q' h' => hw.clear q (List.mem_cons_of_mem r h) q' (List.mem_cons_of_mem r h'),
        fun q h => hw.keeps q (List.mem_cons_of_mem r h)⟩
    exact (ih hrest (applyRule line r)).trans hone

/-! ## Rules that lose bytes -/

/-- Rules of which each replacement has fewer bytes than its pattern. -/
def Shrinking (rules : List Rule) : Prop :=
  ∀ r ∈ rules, byteSize r.replacement.toList < byteSize r.pattern.toList

theorem Shrinking.nonempty {rules : List Rule} (hs : Shrinking rules) :
    ∀ r ∈ rules, r.pattern.toList ≠ [] := by
  intro r hr he
  have := hs r hr
  rw [he, byteSize_nil] at this
  omega

/-- Rules that lose bytes gain none, and if they lose none then none of their patterns was there. -/
theorem Shrinking.byteSize_le {rules : List Rule} (hs : Shrinking rules) (line : List Char) :
    byteSize (rules.foldl applyRule line) ≤ byteSize line ∧
      (byteSize (rules.foldl applyRule line) = byteSize line → Clean rules line) := by
  induction rules generalizing line with
  | nil => exact ⟨le_rfl, fun _ _ h => absurd h List.not_mem_nil⟩
  | cons r rules ih =>
    have hr := hs r List.mem_cons_self
    have hne := hs.nonempty r List.mem_cons_self
    obtain ⟨hle, hclean⟩ := ih (fun q h => hs q (List.mem_cons_of_mem r h)) (applyRule line r)
    have hone : byteSize (applyRule line r) ≤ byteSize line :=
      byteSize_replaceAll_le hne (le_of_lt hr) line
    refine ⟨hle.trans hone, fun heq => ?_⟩
    rw [List.foldl_cons] at heq
    -- an occurrence would cost bytes that the other rules cannot give back
    have hgone : ¬ r.pattern.toList <:+: line := by
      intro hi
      have : byteSize (applyRule line r) < byteSize line := byteSize_replaceAll_lt hne hr hi
      omega
    have hsame : applyRule line r = line := replaceAll_of_not_infix _ hne hgone
    rw [hsame] at hclean heq
    intro q hq
    rcases List.mem_cons.1 hq with rfl | hq
    · exact hgone
    · exact hclean heq q hq

/-! ## A pass of both -/

section Layered

variable {s : RuleSet} {repaints shrinks : List Rule}

theorem pass_layered (hs : s.rules = repaints ++ shrinks) (line : List Char) :
    s.pass line = shrinks.foldl applyRule (repaints.foldl applyRule line) := by
  rw [pass, hs, List.foldl_append]

/-- A pass gains no bytes, and if it loses none then no pattern is left. -/
theorem byteSize_pass_le (hs : s.rules = repaints ++ shrinks) (hr : Repainting repaints)
    (hl : Shrinking shrinks) (line : List Char) :
    byteSize (s.pass line) ≤ byteSize line ∧
      (byteSize (s.pass line) = byteSize line → Clean s.rules (s.pass line)) := by
  have hpaint := hr.byteSize_le line
  obtain ⟨hle, hclean⟩ := hl.byteSize_le (repaints.foldl applyRule line)
  rw [← pass_layered hs] at hle hclean
  refine ⟨hle.trans hpaint, fun heq => ?_⟩
  have hgone : Clean shrinks (repaints.foldl applyRule line) := hclean (by omega)
  rw [pass_layered hs, foldl_applyRule_of_clean hl.nonempty hgone, hs, clean_append]
  exact ⟨hr.clean line, hgone⟩

theorem pass_of_clean (hs : s.rules = repaints ++ shrinks) (hr : Repainting repaints)
    (hl : Shrinking shrinks) {line : List Char} (hc : Clean s.rules line) : s.pass line = line := by
  refine foldl_applyRule_of_clean (fun r h => ?_) hc
  rw [hs] at h
  rcases List.mem_append.1 h with h | h
  · exact hr.nonempty r h
  · exact hl.nonempty r h

/-- After one pass more than the line has bytes no pattern is left: each pass that leaves one has
lost a byte. -/
theorem clean_iterate_pass (hs : s.rules = repaints ++ shrinks) (hr : Repainting repaints)
    (hl : Shrinking shrinks) :
    ∀ (n : Nat) (line : List Char), byteSize line ≤ n → Clean s.rules (s.pass^[n + 1] line) := by
  intro n
  induction n with
  | zero =>
    intro line hn
    obtain ⟨hle, hclean⟩ := byteSize_pass_le hs hr hl line
    exact hclean (by omega)
  | succ n ih =>
    intro line hn
    obtain ⟨hle, hclean⟩ := byteSize_pass_le hs hr hl line
    rw [Function.iterate_succ_apply]
    by_cases heq : byteSize (s.pass line) = byteSize line
    · -- at rest already, so the passes left over change nothing
      have hfix := pass_of_clean hs hr hl (hclean heq)
      rw [Function.iterate_fixed hfix]
      exact hclean heq
    · exact ih (s.pass line) (by omega)

end Layered

end DeviceBench.RuleSet
