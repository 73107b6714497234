/-
Normalization rules. Visiting a schedule paints its nodes: flag bits, fill colour and font change
between runs. Rules are exact pieces of text with a replacement; a line is changed, one rule after
the other, until it stops changing. A rule that could bring a pattern of the set back is refused.
-/
import DeviceBench.Failure
import DeviceBench.Text.Search

namespace DeviceBench

/-- One exact piece of text and what replaces it. -/
structure Rule where
  pattern : String
  replacement : String
  deriving DecidableEq, Repr

/-- The rule's replacement brings a pattern back. -/
def Rule.restores (rule : Rule) (pattern : String) : Bool :=
  Text.occurs pattern.toList rule.replacement.toList

/-- Rules in the order in which they are applied. -/
structure RuleSet where
  rules : List Rule
  deriving DecidableEq, Repr

namespace RuleSet

/-- The set that changes nothing. -/
def empty : RuleSet := ⟨[]⟩

/-- The flags, colour and font of painted nodes, each with its unpainted form. -/
def paintedRules : List Rule :=
  [ ⟨"flags=\"0x00000107\"", "flags=\"0x00000007\""⟩,
    ⟨"flags=\"0x00002107\"", "flags=\"0x00002007\""⟩,
    ⟨"flags=\"0x00108107\"", "flags=\"0x00108007\""⟩,
    ⟨"flags=\"0x00708107\"", "flags=\"0x00708007\""⟩,
    ⟨"flags=\"0x00100107\"", "flags=\"0x00100007\""⟩,
    ⟨"fillcolor = \"green\"", "fillcolor = \"white\""⟩,
    ⟨"flags=\"0x00020007\"", "flags=\"0x00000007\""⟩,
    ⟨"flags=\"0x00022007\"", "flags=\"0x00002007\""⟩,
    ⟨"flags=\"0x00120007\"", "flags=\"0x00100007\""⟩,
    ⟨"flags=\"0x00128007\"", "flags=\"0x00108007\""⟩,
    ⟨", fontname=\"Times-Bold\", fontcolor = \"blue2\", fontsize=\"16\"", ""⟩ ]

/-- The rules for drawings of painted schedules. -/
def paintedNodes : RuleSet := ⟨paintedRules⟩

/-! ## Adding rules -/

/-- A rule may join the set: its pattern is not empty, and neither its own replacement nor that of
another rule brings a pattern back. -/
def accepts (s : RuleSet) (rule : Rule) : Bool :=
  !rule.pattern.isEmpty && !rule.restores rule.pattern &&
    s.rules.all fun r => !rule.restores r.pattern && !r.restores rule.pattern

/-- The set with a rule at its end, if it may join. -/
def withRule (s : RuleSet) (rule : Rule) : Except Failure RuleSet :=
  if s.accepts rule then .ok ⟨s.rules ++ [rule]⟩
  else .error (.invalidRule rule.pattern rule.replacement)

/-- The set with rules at its end, up to the first that may not join. -/
def withRules (s : RuleSet) (rules : List Rule) : Except Failure RuleSet := rules.foldlM withRule s

/-! ## Applying rules -/

/-- One rule applied to a line. -/
def applyRule (line : List Char) (rule : Rule) : List Char :=
  Text.replaceAll rule.pattern.toList rule.replacement.toList line

/-- Every rule applied once, in order. -/
def pass (s : RuleSet) (line : List Char) : List Char := s.rules.foldl applyRule line

/-- Passes until one changes nothing, at most so many. -/
def settle (s : RuleSet) : Nat → List Char → List Char
  | 0, line => line
  | passes + 1, line =>
    let next := s.pass line
    if next = line then line else settle s passes next

/-- A line as the rules leave it: one pass, then at most one more than the line has bytes. -/
def applyLine (s : RuleSet) (line : String) : String :=
  String.ofList (s.settle (line.utf8ByteSize + 1) (s.pass line.toList))

/-- Every line as the rules leave it. -/
def applyLines (s : RuleSet) (lines : List String) : List String := lines.map s.applyLine

end RuleSet

end DeviceBench
