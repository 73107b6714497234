/-
Which rules go together. A rule is only held against those already in the set, yet what comes of adding
rules one after the other depends on all pairs alike: the rules join exactly if no replacement holds a
pattern, of the same rule or of another, wherever the two stand. So their order does not matter, and where
they do not join, the rule that is named is the first that does not go with those before it.
-/
import DeviceBench.ConfigFile
import DeviceBench.Proofs.Rules.Acceptance
import DeviceBench.Proofs.Text.Search
import Mathlib.Data.List.Perm.Basic

namespace DeviceBench

/-! ## Pairs of rules -/

/-- No replacement of the rules holds a pattern of theirs. -/
def Compatible (rules : List Rule) : Prop :=
  ∀ r ∈ rules, ∀ q ∈ rules, ¬q.pattern.toList <:+: r.replacement.toList

theorem Rule.restores_eq_false_iff {r : Rule} {pattern : String} :
    r.restores pattern = false ↔ ¬pattern.toList <:+: r.replacement.toList :=
  Text.occurs_eq_false_iff

theorem compatible_iff_all {rules : List Rule} :
    Compatible rules ↔ (rules.all fun r => rules.all fun q => !r.restores q.pattern) = true := by
  simp only [Compatible, List.all_eq_true, Bool.not_eq_true', Rule.restores_eq_false_iff]

instance (rules : List Rule) : Decidable (Compatible rules) := decidable_of_iff _ compatible_iff_all.symm

namespace Compatible

variable {rules others : List Rule}

theorem of_subset (h : Compatible rules) (hsub : others ⊆ rules) : Compatible others :=
  fun r hr q hq => h r (hsub hr) q (hsub hq)

theorem perm_iff (h : rules.Perm others) : Compatible rules ↔ Compatible others :=
  ⟨fun hc => hc.of_subset h.symm.subset, fun hc => hc.of_subset h.subset⟩

/-- An empty pattern would be held by its own replacement. -/
theorem pattern_ne_empty (h : Compatible rules) {r : Rule} (hr : r ∈ rules) : r.pattern ≠ "" := by
  intro hempty
  refine h r hr r hr ?_
  rw [hempty]
  exact List.nil_infix

/-- One rule more goes with the others if no pattern is held by its replacement and its pattern by no
replacement. -/
theorem concat_iff {rule : Rule} :
    Compatible (rules ++ [rule]) ↔ Compatible rules ∧
      ¬rule.pattern.toList <:+: rule.replacement.toList ∧
      ∀ r ∈ rules, ¬r.pattern.toList <:+: rule.replacement.toList ∧
        ¬rule.pattern.toList <:+: r.replacement.toList := by
  simp only [Compatible, List.mem_append, List.mem_singleton, or_imp, forall_and, forall_eq]
  tauto

end Compatible

/-! ## Adding rules -/

namespace RuleSet

theorem compatible_paintedRules : Compatible paintedRules := by decide +kernel

/-- Behind rules that go together a rule is accepted exactly if it goes with all of them. -/
theorem accepts_iff {s : RuleSet} (hs : Compatible s.rules) {rule : Rule} :
    s.accepts rule = true ↔ Compatible (s.rules ++ [rule]) := by
  have hempty : ¬rule.pattern.toList <:+: rule.replacement.toList → rule.pattern.isEmpty = false := by
    intro h
    rw [← Bool.not_eq_true, String.isEmpty_iff]
    rintro he
    rw [he] at h
    exact h List.nil_infix
  simp only [Compatible.concat_iff, accepts, Bool.and_eq_true, Bool.not_eq_true', List.all_eq_true,
    Rule.restores_eq_false_iff]
  tauto

theorem withRules_eq_ok_iff {s t : RuleSet} (hs : Compatible s.rules) {rules : List Rule} :
    s.withRules rules = .ok t ↔ Compatible (s.rules ++ rules) ∧ t = ⟨s.rules ++ rules⟩ := by
  induction rules generalizing s with
  | nil =>
    rw [List.append_nil]
    constructor
    · rintro ⟨⟩
      exact ⟨hs, rfl⟩
    · rintro ⟨-, rfl⟩
      rfl
  | cons rule rules ih =>
    have hlist : s.rules ++ rule :: rules = s.rules ++ [rule] ++ rules := by simp
    rw [withRules_cons, hlist]
    by_cases hc : Compatible (s.rules ++ [rule])
    · rw [withRule_eq_ok.2 ⟨(accepts_iff hs).2 hc, rfl⟩]
      exact ih hc
    · rw [withRule, if_neg (mt (accepts_iff hs).1 hc)]
      refine iff_of_false nofun ?_
      rintro ⟨hall, -⟩
      exact hc (hall.of_subset (List.subset_append_left _ _))

/-- Of rules that are to stand behind others, the first that does not go with all before it. -/
def FirstMisfit (base rules : List Rule) (rule : Rule) : Prop :=
  ∃ before after, rules = before ++ rule :: after ∧ Compatible (base ++ before) ∧
    ¬Compatible (base ++ before ++ [rule])

theorem firstMisfit_cons_of_compatible {base rules : List Rule} {r rule : Rule}
    (h : Compatible (base ++ [r])) :
    FirstMisfit base (r :: rules) rule ↔ FirstMisfit (base ++ [r]) rules rule := by
  constructor
  · rintro ⟨before, after, hrules, hbefore, hmisfit⟩
    cases before with
    | nil =>
      cases hrules
      exact absurd (by simpa using h) hmisfit
    | cons _ before =>
      cases hrules
      exact ⟨before, after, rfl, by simpa using hbefore, by simpa using hmisfit⟩
  · rintro ⟨before, after, rfl, hbefore, hmisfit⟩
    exact ⟨r :: before, after, rfl, by simpa using hbefore, by simpa using hmisfit⟩

theorem firstMisfit_cons_of_not_compatible {base rules : List Rule} {r rule : Rule}
    (hbase : Compatible base) (h : ¬Compatible (base ++ [r])) :
    FirstMisfit base (r :: rules) rule ↔ rule = r := by
  constructor
  · rintro ⟨before, after, hrules, hbefore, -⟩
    cases before with
    | nil =>
      cases hrules
      rfl
    | cons _ before =>
      cases hrules
      exact absurd (hbefore.of_subset (by simp)) h
  · rintro rfl
    exact ⟨[], rules, rfl, by simpa using hbase, by simpa using h⟩

theorem withRules_eq_error_iff {s : RuleSet} (hs : Compatible s.rules) {rules : List Rule}
    {f : Failure} :
    s.withRules rules = .error f ↔
      ∃ rule, FirstMisfit s.rules rules rule ∧ f = .invalidRule rule.pattern rule.replacement := by
  induction rules generalizing s with
  | nil =>
    refine iff_of_false nofun ?_
    rintro ⟨_, ⟨before, _, hrules, -⟩, -⟩
    cases before <;> cases hrules
  | cons r rules ih =>
    rw [withRules_cons]
    by_cases hc : Compatible (s.rules ++ [r])
    · simp only [firstMisfit_cons_of_compatible hc]
      rw [withRule_eq_ok.2 ⟨(accepts_iff hs).2 hc, rfl⟩]
      exact ih hc
    · simp only [firstMisfit_cons_of_not_compatible hs hc, exists_eq_left]
      rw [withRule, if_neg (mt (accepts_iff hs).1 hc)]
      constructor
      · rintro ⟨⟩
        rfl
      · rintro rfl
        rfl

/-! ## Sets that can come about -/

/-- The rule sets that can come about: none of the rules or the painted ones, and rules that were accepted one
after the other. -/
inductive Built : RuleSet → Prop
  | empty : Built empty
  | painted : Built paintedNodes
  | join {s t : RuleSet} {rule : Rule} : Built s → s.withRule rule = .ok t → Built t

theorem Built.compatible {s : RuleSet} (h : s.Built) : Compatible s.rules := by
  induction h with
  | empty => exact nofun
  | painted => exact compatible_paintedRules
  | join _ hjoin ih =>
    obtain ⟨hacc, rfl⟩ := withRule_eq_ok.1 hjoin
    exact (accepts_iff ih).1 hacc

end RuleSet

/-! ## Configured rules -/

namespace ConfigFile

open RuleSet

/-- The rules of a file are accepted exactly if none has an empty pattern and, with the painted rules in front, no
replacement holds a pattern; every set that comes about is like that. In another order they are accepted as
well, and where they are not, the first that does not go with those before it is named. -/
theorem ruleSet_account (file : ConfigFile) :
    ((∃ s, file.ruleSet = .ok s) ↔
      (∀ r ∈ file.rules, r.pattern ≠ "") ∧ Compatible (paintedRules ++ file.rules)) ∧
    (∀ s, file.ruleSet = .ok s → s.rules = paintedRules ++ file.rules) ∧
    (∀ s : RuleSet, s.Built → (∀ r ∈ s.rules, r.pattern ≠ "") ∧ Compatible s.rules) ∧
    (∀ other : ConfigFile, other.rules.Perm file.rules →
      ((∃ s, other.ruleSet = .ok s) ↔ ∃ s, file.ruleSet = .ok s)) ∧
    ∀ f, file.ruleSet = .error f ↔ ∃ rule, FirstMisfit paintedRules file.rules rule ∧
      f = .invalidRule rule.pattern rule.replacement := by
  have haccepted (file : ConfigFile) :
      (∃ s, file.ruleSet = .ok s) ↔ Compatible (paintedRules ++ file.rules) := by
    constructor
    · rintro ⟨s, hs⟩
      exact ((withRules_eq_ok_iff compatible_paintedRules).1 hs).1
    · intro h
      exact ⟨_, (withRules_eq_ok_iff compatible_paintedRules).2 ⟨h, rfl⟩⟩
  refine ⟨?_, ?_, ?_, ?_, ?_⟩
  · rw [haccepted]
    constructor
    · intro h
      exact ⟨fun r hr => h.pattern_ne_empty (List.mem_append_right _ hr), h⟩
    · exact And.right
  · intro s hs
    rw [((withRules_eq_ok_iff compatible_paintedRules).1 hs).2]
    rfl
  · intro s hs
    exact ⟨fun r => hs.compatible.pattern_ne_empty, hs.compatible⟩
  · intro other hperm
    rw [haccepted, haccepted]
    exact Compatible.perm_iff (hperm.append_left paintedRules)
  · intro f
    exact withRules_eq_error_iff compatible_paintedRules

/-- A file with two rules. -/
def ofPair (first second : Rule) : ConfigFile := { empty with rules := [first, second] }

/-- Of two rules that do not go together the second is named; the other way round they are refused too. -/
theorem ruleSet_account_crossed :
    (ofPair ⟨"ab", "c"⟩ ⟨"x", "cabd"⟩).ruleSet = .error (.invalidRule "x" "cabd") ∧
      ¬∃ s, (ofPair ⟨"x", "cabd"⟩ ⟨"ab", "c"⟩).ruleSet = .ok s := by
  obtain ⟨-, -, -, hperm, herror⟩ := ruleSet_account (ofPair ⟨"ab", "c"⟩ ⟨"x", "cabd"⟩)
  have hfirst : Compatible (paintedRules ++ [⟨"ab", "c"⟩]) :=
    (accepts_iff (s := paintedNodes) compatible_paintedRules).1 (by decide +kernel)
  have hsecond : ¬Compatible (paintedRules ++ [⟨"ab", "c"⟩] ++ [⟨"x", "cabd"⟩]) :=
    fun h => h ⟨"x", "cabd"⟩ (by simp) ⟨"ab", "c"⟩ (by simp) ⟨['c'], ['d'], rfl⟩
  have hnamed := (herror _).2 ⟨_, ⟨[⟨"ab", "c"⟩], [], rfl, hfirst, hsecond⟩, rfl⟩
  refine ⟨hnamed, ?_⟩
  rw [hperm (ofPair ⟨"x", "cabd"⟩ ⟨"ab", "c"⟩) (.swap _ _ _), hnamed]
  exact nofun

end ConfigFile

end DeviceBench
