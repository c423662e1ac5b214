/-!
# Pieces of a text

* `pieces` : what stands between the separators of a text, which may be empty;
* `piecesFrom_ne_nil` : there is at least one piece.
-/

namespace TypeSketch.Text

/-- What stands between the separators of a text, `piece` holding the characters since the last one
in reverse. -/
def piecesFrom (separator : Char) (piece : List Char) : List Char → List (List Char)
  | [] => [piece.reverse]
  | c :: rest =>
    if c = separator then piece.reverse :: piecesFrom separator [] rest
    else piecesFrom separator (c :: piece) rest

/-- What stands between the separators of a text. There is at least one piece. -/
def pieces (separator : Char) (s : List Char) : List (List Char) := piecesFrom separator [] s

theorem piecesFrom_ne_nil (separator : Char) (piece s : List Char) : piecesFrom separator piece s ≠ [] := by
  fun_induction piecesFrom separator piece s <;> simp_all

end TypeSketch.Text
