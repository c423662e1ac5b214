import TypeSketch.Json.Quoted
import TypeSketch.Json.Value
import TypeSketch.Number.Shortest

/-!
# Writing documents

* `Number.write` : integers exactly, doubles by their shortest digits;
* `Value.compact` : without blanks;
* `Value.pretty` : one item or member a line, two spaces a level, empty containers closed at once.
-/

namespace TypeSketch.Json

/-- Doubles are written positionally while the first digit stands between the fifth decimal place
and the quadrillions. -/
def doubleLayout : Layout := ⟨-5, 15, true⟩

/-- The text of an integer. -/
def writeInt (n : Int) : List Char :=
  if n < 0 then '-' :: Nat.toDigits 10 n.natAbs else Nat.toDigits 10 n.natAbs

/-- The text of a number. -/
def Number.write : Number → List Char
  | .integer n _ => writeInt n
  | .double x => x.write doubleLayout

/-- The quoted form of a string. -/
def writeString (s : String) : List Char := quote s.toList

namespace Value

/-! ## Without blanks -/

mutual

/-- The text of a value without blanks. -/
def compact : Value → List Char
  | .null => ['n', 'u', 'l', 'l']
  | .bool true => ['t', 'r', 'u', 'e']
  | .bool false => ['f', 'a', 'l', 's', 'e']
  | .number n => n.write
  | .string s => writeString s
  | .array [] => ['[', ']']
  | .array (item :: items) => '[' :: (compact item ++ compactItems items)
  | .object [] => ['\x7b', '\x7d']
  | .object ((key, value) :: members) =>
    '\x7b' :: (writeString key ++ ':' :: (compact value ++ compactMembers members))

/-- The items after the first, and the closing bracket. -/
def compactItems : List Value → List Char
  | [] => [']']
  | item :: items => ',' :: (compact item ++ compactItems items)

/-- The members after the first, and the closing brace. -/
def compactMembers : List (String × Value) → List Char
  | [] => ['\x7d']
  | (key, value) :: members =>
    ',' :: (writeString key ++ ':' :: (compact value ++ compactMembers members))

end

/-! ## On lines -/

/-- The end of a line and the indentation of the next one. -/
def newline (level : Nat) : List Char := '\n' :: List.replicate (2 * level) ' '

mutual

/-- The text of a value on lines, its own line being indented by `level`. -/
def pretty (level : Nat) : Value → List Char
  | .null => ['n', 'u', 'l', 'l']
  | .bool true => ['t', 'r', 'u', 'e']
  | .bool false => ['f', 'a', 'l', 's', 'e']
  | .number n => n.write
  | .string s => writeString s
  | .array [] => ['[', ']']
  | .array (item :: items) =>
    '[' :: (newline (level + 1) ++ pretty (level + 1) item ++ prettyItems level items)
  | .object [] => ['\x7b', '\x7d']
  | .object ((key, value) :: members) =>
    '\x7b' :: (newline (level + 1) ++ writeString key ++ ':' :: ' ' :: pretty (level + 1) value
      ++ prettyMembers level members)

/-- The items after the first on their lines, and the closing bracket on its own. -/
def prettyItems (level : Nat) : List Value → List Char
  | [] => newline level ++ [']']
  | item :: items => ',' :: (newline (level + 1) ++ pretty (level + 1) item ++ prettyItems level items)

/-- The members after the first on their lines, and the closing brace on its own. -/
def prettyMembers (level : Nat) : List (String × Value) → List Char
  | [] => newline level ++ ['\x7d']
  | (key, value) :: members =>
    ',' :: (newline (level + 1) ++ writeString key ++ ':' :: ' ' :: pretty (level + 1) value
      ++ prettyMembers level members)

end

/-- The compact text of a value. -/
def toCompact (v : Value) : String := String.ofList v.compact

/-- The text of a value on lines. -/
def toPretty (v : Value) : String := String.ofList (v.pretty 0)

end Value

end TypeSketch.Json
