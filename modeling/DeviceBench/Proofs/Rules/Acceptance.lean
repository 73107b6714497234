/-
Which rules join a set. Rules that all join stand behind those of the set in the order given, and
none of them has an empty pattern.
-/
import DeviceBench.RuleSet
import Mathlib.Tactic.Common

namespace DeviceBench.RuleSet

theorem withRule_eq_ok {s t : RuleSet} {rule : Rule} :
    s.withRule rule = .ok t ↔ s.accepts rule = true ∧ t = ⟨s.rules ++ [rule]⟩ := by
  unfold withRule
  split
  · rename_i h
    simp only [Except.ok.injEq, h, true_and]
    exact eq_comm
  · rename_i h
    simp [h]

theorem pattern_ne_nil_of_accepts {s : RuleSet} {rule : Rule} (h : s.accepts rule = true) :
    rule.pattern.toList ≠ [] := by
  simp only [accepts, Bool.and_eq_true, Bool.not_eq_true'] at h
  intro he
  have : rule.pattern = "" := String.toList_injective he
  simp [this] at h

/-- Adding rules one after the other, from the front. -/
theorem withRules_cons (s : RuleSet) (rule : Rule) (rules : List Rule) :
    s.withRules (rule :: rules) = (s.withRule rule).bind fun t => t.withRules rules := rfl

/-- Rules that all join stand behind those of the set. -/
theorem withRules_ok {s t : RuleSet} {rules : List Rule} (h : s.withRules rules = .ok t) :
    t.rules = s.rules ++ rules ∧ ∀ r ∈ rules, r.pattern.toList ≠ [] := by
  induction rules generalizing s with
  | nil =>
    cases h
    simp
  | cons rule rules ih =>
    rw [withRules_cons] at h
    cases hw : s.withRule rule with
    | error e => rw [hw] at h; cases h
    | ok u =>
      rw [hw] at h
      obtain ⟨hacc, rfl⟩ := withRule_eq_ok.1 hw
      obtain ⟨hrules, hne⟩ := ih h
      refine ⟨by simpa using hrules, ?_⟩
      intro r hr
      rcases List.mem_cons.1 hr with rfl | hr
      · exact pattern_ne_nil_of_accepts hacc
      · exact hne r hr

end DeviceBench.RuleSet
