/-
Rules and line ends. A rule that holds no line end works on both sides of one on its own, and brings
none in. With the painted rules, or none, and further rules that lose bytes, it does not matter how
many passes a line is given once they are enough, so a line with a line feed is normalized to the
normalized line with a line feed.
-/
import DeviceBench.Proofs.Rules.Settling
import DeviceBench.Proofs.Text.Lines

namespace DeviceBench

/-- Neither side of the rule holds a line end. -/
def Rule.OneLine (r : Rule) : Prop :=
  Text.OneLine r.pattern.toList ∧ Text.OneLine r.replacement.toList

instance (r : Rule) : Decidable r.OneLine := inferInstanceAs (Decidable (_ ∧ _))

namespace RuleSet

open Text

/-! ## Sets that settle -/

/-- First come rules that keep clear of one another, then rules that lose bytes. -/
def Layered (s : RuleSet) : Prop :=
  ∃ repaints shrinks, s.rules = repaints ++ shrinks ∧ Repainting repaints ∧ Shrinking shrinks

namespace Layered

variable {s : RuleSet} (h : Layered s)

include h

theorem nonempty : ∀ r ∈ s.rules, r.pattern.toList ≠ [] := by
  obtain ⟨repaints, shrinks, hrules, hr, hl⟩ := h
  intro r hmem
  rw [hrules] at hmem
  rcases List.mem_append.1 hmem with hmem | hmem
  · exact hr.nonempty r hmem
  · exact hl.nonempty r hmem

/-- After one pass more than the line has bytes, a pass changes nothing. -/
theorem pass_iterate (line : List Char) {n : Nat} (hn : byteSize line < n) :
    s.pass (s.pass^[n] line) = s.pass^[n] line := by
  obtain ⟨repaints, shrinks, hrules, hr, hl⟩ := h
  have hclean := clean_iterate_pass hrules hr hl (byteSize line) line le_rfl
  have hfix := pass_of_clean hrules hr hl hclean
  rw [iterate_pass_of_le hfix (Nat.succ_le_of_lt hn), hfix]

/-- Any number of passes that is enough gives the normalized line. -/
theorem applyLine_eq {line : String} {n : Nat} (hn : line.utf8ByteSize < n) :
    s.applyLine line = String.ofList (s.pass^[n] line.toList) := by
  have hfix := h.pass_iterate line.toList (n := line.utf8ByteSize + 1) (by simp)
  have hgiven := iterate_pass_of_le hfix (Nat.le_succ _)
  have henough := iterate_pass_of_le hfix (Nat.succ_le_of_lt hn)
  rw [applyLine_eq_iterate, hgiven, henough]

/-- Normalizing a normalized line changes nothing. -/
theorem applyLine_applyLine (line : String) : s.applyLine (s.applyLine line) = s.applyLine line := by
  have hfix := h.pass_iterate line.toList (n := line.utf8ByteSize + 1) (by simp)
  rw [applyLine_eq_iterate s (s.applyLine line), h.applyLine_eq (Nat.lt_succ_self _),
    String.toList_ofList, Function.iterate_fixed hfix]

end Layered

/-! ## Rules without line ends -/

section Passes

variable {rules : List Rule} (hne : ∀ r ∈ rules, r.pattern.toList ≠ [])
  (hone : ∀ r ∈ rules, r.OneLine)

include hne hone

theorem foldl_applyRule_append_lf (a b : List Char) :
    rules.foldl applyRule (a ++ '\n' :: b) =
      rules.foldl applyRule a ++ '\n' :: rules.foldl applyRule b := by
  induction rules generalizing a b with
  | nil => rfl
  | cons r rules ih =>
    have hr : applyRule (a ++ '\n' :: b) r = applyRule a r ++ '\n' :: applyRule b r :=
      replaceAll_append_cons (hone r List.mem_cons_self).1.1 (hne r List.mem_cons_self) _ a b
    rw [List.foldl_cons, hr]
    exact ih (fun q hq => hne q (List.mem_cons_of_mem r hq))
      (fun q hq => hone q (List.mem_cons_of_mem r hq)) _ _

theorem oneLine_foldl_applyRule {line : List Char} (h : OneLine line) :
    OneLine (rules.foldl applyRule line) := by
  induction rules generalizing line with
  | nil => exact h
  | cons r rules ih =>
    have hp := hne r List.mem_cons_self
    obtain ⟨hlf, hcr⟩ := (hone r List.mem_cons_self).2
    have hr : OneLine (applyRule line r) :=
      ⟨fun hm => (mem_of_mem_replaceAll hp hm).elim hlf h.1,
        fun hm => (mem_of_mem_replaceAll hp hm).elim hcr h.2⟩
    exact ih (fun q hq => hne q (List.mem_cons_of_mem r hq))
      (fun q hq => hone q (List.mem_cons_of_mem r hq)) hr

end Passes

section OneLine

variable {s : RuleSet} (h : Layered s) (hone : ∀ r ∈ s.rules, r.OneLine)

include h hone

theorem iterate_pass_append_lf (n : Nat) (a b : List Char) :
    s.pass^[n] (a ++ '\n' :: b) = s.pass^[n] a ++ '\n' :: s.pass^[n] b := by
  induction n generalizing a b with
  | zero => rfl
  | succ n ih =>
    have hpass : s.pass (a ++ '\n' :: b) = s.pass a ++ '\n' :: s.pass b :=
      foldl_applyRule_append_lf h.nonempty hone a b
    rw [Function.iterate_succ_apply, hpass, ih]
    rfl

/-- A line with a line feed is normalized to the normalized line with a line feed. -/
theorem applyLine_append_lf (line : String) :
    s.applyLine (line ++ "\n") = s.applyLine line ++ "\n" := by
  have hsize : line.utf8ByteSize < (line ++ "\n").utf8ByteSize + 1 := by
    rw [String.utf8ByteSize_append]
    omega
  have hempty : s.pass [] = [] := by
    refine foldl_applyRule_of_clean h.nonempty fun r hr hi => ?_
    exact h.nonempty r hr (List.eq_nil_of_infix_nil hi)
  rw [h.applyLine_eq (Nat.lt_succ_self _), h.applyLine_eq hsize, String.toList_append,
    show "\n".toList = ['\n'] from rfl, iterate_pass_append_lf h hone, Function.iterate_fixed hempty,
    String.ofList_append]

theorem oneLine_applyLine {line : String} (hline : OneLine line.toList) :
    OneLine (s.applyLine line).toList := by
  rw [applyLine_eq_iterate, String.toList_ofList]
  generalize line.utf8ByteSize + 2 = n
  induction n with
  | zero => exact hline
  | succ n ih =>
    rw [Function.iterate_succ_apply']
    exact oneLine_foldl_applyRule h.nonempty hone ih

end OneLine

/-! ## The painted rules -/

theorem oneLine_paintedRules : ∀ r ∈ paintedRules, r.OneLine := by decide +kernel

theorem oneLine_of_withRules {base s : RuleSet} {rules : List Rule}
    (hbase : base = empty ∨ base = paintedNodes) (hs : base.withRules rules = .ok s)
    (hone : ∀ r ∈ rules, r.OneLine) : ∀ r ∈ s.rules, r.OneLine := by
  intro r hr
  rw [(withRules_ok hs).1, List.mem_append] at hr
  rcases hr with hr | hr
  · rcases hbase with rfl | rfl
    · exact absurd hr List.not_mem_nil
    · exact oneLine_paintedRules r hr
  · exact hone r hr

end RuleSet

end DeviceBench
