/-!
# White space

* `isWhite` : the Unicode property `White_Space`;
* `isWhiteOnly` : texts that show nothing but white space;
* `trimEnd`, `trim` : a text without the white space at its end, or at both ends.
-/

namespace TypeSketch.Text

/-- The ranges of characters with the property `White_Space`. -/
def whiteRanges : List (Nat × Nat) := [
  (0x9, 0xD), (0x20, 0x20), (0x85, 0x85), (0xA0, 0xA0), (0x1680, 0x1680), (0x2000, 0x200A), (0x2028, 0x2029),
  (0x202F, 0x202F), (0x205F, 0x205F), (0x3000, 0x3000)]

/-- Whether a character has the property `White_Space`. -/
def isWhite (c : Char) : Bool :=
  whiteRanges.any fun range => range.1 ≤ c.toNat && c.toNat ≤ range.2

/-- Whether a text holds nothing but white space. -/
def isWhiteOnly (s : List Char) : Bool := s.all isWhite

/-- A text without the white space at its end. -/
def trimEnd (s : List Char) : List Char := (s.reverse.dropWhile isWhite).reverse

/-- A text without the white space at its ends. -/
def trim (s : List Char) : List Char := trimEnd (s.dropWhile isWhite)

end TypeSketch.Text
