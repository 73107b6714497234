/-
Searching a text for an exact pattern and replacing every occurrence. Occurrences are taken from
left to right and never overlap; nothing that a replacement writes is searched again.
-/
namespace DeviceBench.Text

/-- The pattern occurs somewhere in the text. -/
def occurs (pattern : List Char) : List Char → Bool
  | [] => pattern.isEmpty
  | c :: cs => pattern.isPrefixOf (c :: cs) || occurs pattern cs

/-- Replacing from left to right. The count is how many characters of the occurrence found last
are still to be skipped, the accumulator holds what was written, newest first. -/
def replaceOnto (pattern replacement : List Char) : Nat → List Char → List Char → List Char
  | _, [], written => written
  | skip + 1, _ :: cs, written => replaceOnto pattern replacement skip cs written
  | 0, c :: cs, written =>
    if pattern.isPrefixOf (c :: cs) then
      replaceOnto pattern replacement (pattern.length - 1) cs (replacement.reverseAux written)
    else
      replaceOnto pattern replacement 0 cs (c :: written)

/-- The text with every occurrence of the pattern, which is not empty, replaced. -/
def replaceAll (pattern replacement text : List Char) : List Char :=
  (replaceOnto pattern replacement 0 text []).reverse

/-- What stands up to and including the first occurrence of the pattern, if it occurs. -/
def throughFirst? (pattern : List Char) : List Char → Option (List Char)
  | [] => if pattern.isEmpty then some [] else none
  | c :: cs =>
    if pattern.isPrefixOf (c :: cs) then some pattern
    else (throughFirst? pattern cs).map (c :: ·)

/-- The two sides of the first occurrence of a character, if it occurs. -/
def splitFirst? (mark : Char) : List Char → Option (List Char × List Char)
  | [] => none
  | c :: cs =>
    if c = mark then some ([], cs)
    else (splitFirst? mark cs).map fun (before, after) => (c :: before, after)

end DeviceBench.Text
