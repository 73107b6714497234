/-
Listings of patterns. A scheduler lists the patterns of a device after a header; from the first line
that mentions the header on, each line with a word names a pattern.
-/
import DeviceBench.Text.Blank
import DeviceBench.Text.Search

namespace DeviceBench.Listing

/-- Whether the header has been read. -/
inductive State where
  | beforeHeader
  | inSection
  deriving DecidableEq, Repr

/-- The word that marks the header. -/
def header : String := "Patterns"

/-- A line before the section is the header if it contains the word anywhere. -/
def isHeader (line : String) : Bool := Text.occurs header.toList line.toList

/-- The pattern that a line of the section names: its first word. -/
def patternIn? (line : String) : Option String :=
  (Text.firstWord? line.toList).map String.ofList

/-- The next pattern, with the state and the lines after it. The section is never left, so a later
header is a line like any other. -/
def next : State → List String → Option String × State × List String
  | state, [] => (none, state, [])
  | .beforeHeader, line :: lines =>
    if isHeader line then next .inSection lines else next .beforeHeader lines
  | .inSection, line :: lines =>
    match patternIn? line with
    | some name => (some name, .inSection, lines)
    | none => next .inSection lines

/-- What asking so often for the next pattern gives; nothing more comes once the lines have ended. -/
def pull : Nat → State → List String → List String
  | 0, _, _ => []
  | count + 1, state, lines =>
    match next state lines with
    | (some name, state, rest) => name :: pull count state rest
    | (none, _, _) => []

/-- The patterns of a listing, in order. No line names more than one. -/
def patterns (lines : List String) : List String := pull lines.length .beforeHeader lines

end DeviceBench.Listing
