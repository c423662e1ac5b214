/-!
# Lines

* `lines` : the lines of a text, without their line ends;
* `numberedFrom`, `numberedLines` : every line with its number.
-/

namespace TypeSketch.Text

/-- A line whose line feed follows, without the carriage return before that line feed. -/
def withoutReturn (line : List Char) : List Char :=
  if line.getLast? = some '\r' then line.dropLast else line

/-- The lines of a text, `line` holding the characters since the last line feed in reverse. The line
feed after the last line may be missing. -/
def linesFrom (line : List Char) : List Char → List (List Char)
  | [] => if line.isEmpty then [] else [line.reverse]
  | c :: rest => if c = '\n' then withoutReturn line.reverse :: linesFrom [] rest else linesFrom (c :: line) rest

/-- The lines of a text, without their line ends. -/
def lines (s : List Char) : List (List Char) := linesFrom [] s

/-- Lines with their numbers, the first one having the number `n`. -/
def numberedFrom (n : Nat) : List (List Char) → List (Nat × List Char)
  | [] => []
  | line :: rest => (n, line) :: numberedFrom (n + 1) rest

/-- The lines of a text with their numbers, which start with one. -/
def numberedLines (s : List Char) : List (Nat × List Char) := numberedFrom 1 (lines s)

end TypeSketch.Text
