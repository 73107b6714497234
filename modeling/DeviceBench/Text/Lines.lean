/-
Lines. Captured output is cut at every Unicode line boundary; the text of a file is read with
universal newlines and cut at line feeds only, either keeping each line feed or dropping it.
-/
import DeviceBench.Text.Search
import DeviceBench.Text.Utf8

namespace DeviceBench.Text

/-- The characters that end a line of captured output besides the carriage return. -/
def isLineBreak (c : Char) : Bool :=
  c = '\n' || c = '\x0b' || c = '\x0c' || c = '\x1c' || c = '\x1d' || c = '\x1e' ||
    c = '\u0085' || c = '\u2028' || c = '\u2029'

/-! ## Captured output -/

/-- The lines of a text, the first continuing what was read of it, newest first. A carriage return
with a line feed after it is one boundary, alone it is one too; an unended last line counts
unless it is empty. -/
def linesAfter : List Char → List Char → List (List Char)
  | [], line => if line.isEmpty then [] else [line.reverse]
  | '\r' :: '\n' :: cs, line => line.reverse :: linesAfter cs []
  | c :: cs, line =>
    if c = '\r' ∨ isLineBreak c then line.reverse :: linesAfter cs []
    else linesAfter cs (c :: line)

/-- The lines of captured bytes, decoded lossily. -/
def splitLines (bytes : Bytes) : List String :=
  (linesAfter (decodeLossy bytes) []).map String.ofList

/-! ## Text of a file -/

/-- Universal newlines: a carriage return and line feed become one line feed, and so does a
carriage return alone. -/
def unifyNewlines (text : List Char) : List Char :=
  replaceAll ['\r'] ['\n'] (replaceAll ['\r', '\n'] ['\n'] text)

/-- The lines of a text, each with its line feed, the first continuing what was read of it, newest
first. -/
def keptLinesAfter : List Char → List Char → List (List Char)
  | [], line => if line.isEmpty then [] else [line.reverse]
  | c :: cs, line =>
    if c = '\n' then (c :: line).reverse :: keptLinesAfter cs []
    else keptLinesAfter cs (c :: line)

/-- The lines of a text, each with its line feed; only the last can lack it. -/
def keptLines (text : String) : List String := (keptLinesAfter text.toList []).map String.ofList

/-- A line without the line feed at its end. -/
def dropLineFeed (line : List Char) : List Char :=
  if line.getLast? = some '\n' then line.dropLast else line

/-- The lines of a text without their line feeds. -/
def bareLines (text : String) : List String :=
  (keptLinesAfter text.toList []).map fun line => String.ofList (dropLineFeed line)

end DeviceBench.Text
