/-
Quoted text: how command lines and failures show a text exactly. The text stands between double
quotes; the quote, the backslash and five controls have a short escape, and every other character
without a shape of its own is written by its code point.
-/
import DeviceBench.Text.Numeral
import DeviceBench.Text.Unprintable

namespace DeviceBench.Text

/-- How quoted text writes one character. -/
def escapeChar (c : Char) : List Char :=
  match c with
  | '"' => ['\\', '"']
  | '\\' => ['\\', '\\']
  | '\t' => ['\\', 't']
  | '\r' => ['\\', 'r']
  | '\n' => ['\\', 'n']
  | '\x00' => ['\\', '0']
  | _ =>
    if isUnprintable c then ['\\', 'u', '\x7b'] ++ Nat.toDigits 16 c.toNat ++ ['\x7d'] else [c]

/-- A text between double quotes. -/
def quote (text : String) : String :=
  String.ofList ('"' :: text.toList.flatMap escapeChar ++ ['"'])

/-- A list of items that are already written, in square brackets. -/
def bracketed (items : List String) : String := "[" ++ String.intercalate ", " items ++ "]"

/-- A list of texts, each quoted. -/
def quoteList (texts : List String) : String := bracketed (texts.map quote)

end DeviceBench.Text
