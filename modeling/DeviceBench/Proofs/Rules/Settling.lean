/-
Which lines settle. With the painted rules, or none, and further rules that lose bytes, every line
comes to rest before the passes run out, without any pattern of the set, so normalizing twice is
normalizing once. Rules that gain bytes are accepted too and can need more passes than a line is
given; for any rules, normalizing twice is normalizing once exactly on the lines that come to rest
in time, and on those whose passes go round in a cycle of the right length.
-/
import DeviceBench.Proofs.Rules.Acceptance
import DeviceBench.Proofs.Rules.Passes
import Mathlib.Dynamics.PeriodicPts.Defs

namespace DeviceBench.RuleSet

open Text

/-! ## The painted rules -/

/-- The painted rules that keep the size of a line: all but the one that removes the font. -/
def paintRules : List Rule := paintedRules.take 10

theorem repainting_paintRules : Repainting paintRules := by
  refine ⟨?_, ?_, ?_⟩ <;> decide +kernel

theorem shrinking_fontRule : Shrinking (paintedRules.drop 10) := by
  unfold Shrinking; decide +kernel

/-- A set made of the painted rules, or of none, and of further rules that lose bytes has rules that
keep clear of one another first and rules that lose bytes after them. -/
theorem layers_of_withRules {base s : RuleSet} {rules : List Rule}
    (hbase : base = empty ∨ base = paintedNodes) (hs : base.withRules rules = .ok s)
    (hlen : ∀ r ∈ rules, r.replacement.utf8ByteSize < r.pattern.utf8ByteSize) :
    ∃ repaints shrinks, s.rules = repaints ++ shrinks ∧ Repainting repaints ∧ Shrinking shrinks := by
  obtain ⟨hrules, -⟩ := withRules_ok hs
  have hextra : Shrinking rules := fun r hr => by simpa using hlen r hr
  rcases hbase with rfl | rfl
  · exact ⟨[], rules, hrules, ⟨by simp, by simp, by simp⟩, hextra⟩
  · refine ⟨paintRules, paintedRules.drop 10 ++ rules, ?_, repainting_paintRules, ?_⟩
    · rw [hrules, paintRules, ← List.append_assoc, List.take_append_drop]; rfl
    · intro r hr
      rcases List.mem_append.1 hr with hr | hr
      · exact shrinking_fontRule r hr
      · exact hextra r hr

/-! ## Rules that lose bytes -/

/-- With the painted rules, or none, and further rules that lose bytes, the passes of every line end
because one of them changes nothing, what is left has no pattern of the set in it, and normalizing
it again changes nothing. -/
theorem applyLine_settles {base s : RuleSet} {rules : List Rule}
    (hbase : base = empty ∨ base = paintedNodes) (hs : base.withRules rules = .ok s)
    (hlen : ∀ r ∈ rules, r.replacement.utf8ByteSize < r.pattern.utf8ByteSize) (line : String) :
    (∃ k ≤ line.utf8ByteSize, s.pass (s.pass^[k + 1] line.toList) = s.pass^[k + 1] line.toList ∧
      s.applyLine line = String.ofList (s.pass^[k + 1] line.toList)) ∧
    (∀ r ∈ s.rules, occurs r.pattern.toList (s.applyLine line).toList = false) ∧
    s.applyLine (s.applyLine line) = s.applyLine line := by
  obtain ⟨repaints, shrinks, hrules, hr, hl⟩ := layers_of_withRules hbase hs hlen
  have hclean : Clean s.rules (s.pass^[line.utf8ByteSize + 1] line.toList) :=
    clean_iterate_pass hrules hr hl _ _ (by rw [byteSize_toList])
  have hfix := pass_of_clean hrules hr hl hclean
  have hleft : s.applyLine line = String.ofList (s.pass^[line.utf8ByteSize + 1] line.toList) := by
    rw [applyLine_eq_iterate, iterate_pass_of_le hfix (Nat.le_succ _)]
  refine ⟨⟨line.utf8ByteSize, le_rfl, hfix, hleft⟩, fun r hr => ?_, ?_⟩
  · rw [hleft, String.toList_ofList, occurs_eq_false_iff]
    exact hclean r hr
  · rw [applyLine_eq_iterate s (s.applyLine line), hleft, String.toList_ofList,
      Function.iterate_fixed hfix]

/-- The painted rules and one that joins its two sides into a new occurrence. -/
theorem applyLine_settles_joined :
    paintedNodes.withRules [⟨"(x)", ""⟩] = .ok ⟨paintedRules ++ [⟨"(x)", ""⟩]⟩ ∧
      (⟨paintedRules ++ [⟨"(x)", ""⟩]⟩ : RuleSet).applyLine
          ((⟨paintedRules ++ [⟨"(x)", ""⟩]⟩ : RuleSet).applyLine "fillcolor = \"gr((x)x)een\"") =
        (⟨paintedRules ++ [⟨"(x)", ""⟩]⟩ : RuleSet).applyLine "fillcolor = \"gr((x)x)een\"" := by
  have hs : paintedNodes.withRules [⟨"(x)", ""⟩] = .ok ⟨paintedRules ++ [⟨"(x)", ""⟩]⟩ := by
    decide +kernel
  exact ⟨hs, (applyLine_settles (.inr rfl) hs (by decide) _).2.2⟩

/-! ## Any rules -/

/-- Normalizing twice is normalizing once exactly when the line comes to rest within the passes it
is given, or what is left of it lies on a cycle of passes that the second time goes round in full. -/
theorem applyLine_idempotent_iff (s : RuleSet) (line : String) :
    s.applyLine (s.applyLine line) = s.applyLine line ↔
      (∃ k ≤ line.utf8ByteSize + 1,
        Function.IsFixedPt s.pass (s.pass^[k + 1] line.toList)) ∨
      (1 < Function.minimalPeriod s.pass (s.applyLine line).toList ∧
        Function.minimalPeriod s.pass (s.applyLine line).toList ∣
          (s.applyLine line).utf8ByteSize + 2) := by
  have hback : s.applyLine (s.applyLine line) = s.applyLine line ↔
      Function.IsPeriodicPt s.pass ((s.applyLine line).utf8ByteSize + 2)
        (s.applyLine line).toList := by
    rw [applyLine_eq_iterate s (s.applyLine line), ← String.toList_inj, String.toList_ofList]
    rfl
  rw [hback]
  -- what is left is a point of some period, and period one is rest
  constructor
  · intro hp
    by_cases hfix : Function.minimalPeriod s.pass (s.applyLine line).toList = 1
    · left
      refine ⟨line.utf8ByteSize + 1, le_rfl, ?_⟩
      have hrest := Function.minimalPeriod_eq_one_iff_isFixedPt.1 hfix
      rwa [applyLine_eq_iterate, String.toList_ofList] at hrest
    · right
      have hpos := hp.minimalPeriod_pos (Nat.succ_pos _)
      exact ⟨by omega, hp.minimalPeriod_dvd⟩
  · rintro (⟨k, hk, hfix⟩ | ⟨-, hdvd⟩)
    · have hrest : s.pass (s.applyLine line).toList = (s.applyLine line).toList := by
        rw [applyLine_eq_iterate, String.toList_ofList,
          iterate_pass_of_le hfix (by omega : k + 1 ≤ line.utf8ByteSize + 2)]
        exact hfix
      exact Function.iterate_fixed hrest _
    · exact Function.isPeriodicPt_iff_minimalPeriod_dvd.2 hdvd

/-- An accepted rule can make a line grow so fast that the passes it is given run out. -/
theorem applyLine_not_idempotent :
    empty.withRules [⟨"ab", "bba"⟩] = .ok ⟨[⟨"ab", "bba"⟩]⟩ ∧
      (⟨[⟨"ab", "bba"⟩]⟩ : RuleSet).applyLine "aaaab" = "bbbbbbbbabbbbaaa" ∧
      (⟨[⟨"ab", "bba"⟩]⟩ : RuleSet).applyLine "bbbbbbbbabbbbaaa" = "bbbbbbbbbbbbbbbbaaaa" ∧
      (⟨[⟨"ab", "bba"⟩]⟩ : RuleSet).applyLine
          ((⟨[⟨"ab", "bba"⟩]⟩ : RuleSet).applyLine "aaaab") ≠
        (⟨[⟨"ab", "bba"⟩]⟩ : RuleSet).applyLine "aaaab" := by
  decide +kernel

end DeviceBench.RuleSet
