import TypeSketch.Text.HiddenTable

/-!
# Text as a literal

Messages show a text between quotes with its quotes, backslashes, line ends and tabs escaped, and
with characters that show nothing given by their code points.

* `isHidden` : whether a character shows nothing by itself;
* `literal` : a text as a literal.
-/

namespace TypeSketch.Text

/-- Whether a character shows nothing by itself. -/
def isHidden (c : Char) : Bool :=
  hiddenRanges.any fun range => range.1 ≤ c.toNat && c.toNat ≤ range.2

/-- A character within a literal. -/
def literalChar (c : Char) : List Char :=
  if c = '\x00' then ['\\', '0']
  else if c = '\t' then ['\\', 't']
  else if c = '\n' then ['\\', 'n']
  else if c = '\r' then ['\\', 'r']
  else if c = '"' ∨ c = '\\' then ['\\', c]
  else if isHidden c then ['\\', 'u', '\x7b'] ++ Nat.toDigits 16 c.toNat ++ ['\x7d']
  else [c]

/-- A text as a literal. -/
def literal (s : String) : String :=
  String.ofList ('"' :: (s.toList.flatMap literalChar ++ ['"']))

end TypeSketch.Text
