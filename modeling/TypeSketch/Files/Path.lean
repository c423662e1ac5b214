import TypeSketch.Text.Pieces

/-!
# Paths

A path is a text whose names stand between slashes.

* `pieces`, `ofPieces` : the names of a path, some of which may be empty, and the path of names;
* `join` : a path from another one on;
* `isHere` : the paths that mean the directory they start from;
* `parent?`, `ancestors` : the path without its last name, and all paths that this leads to.
-/

namespace TypeSketch.Path

/-- The pieces of a path between its slashes. There is at least one. -/
def pieces (path : String) : List String := (Text.pieces '/' path.toList).map String.ofList

/-- The path of some pieces. -/
def ofPieces (pieces : List String) : String := "/".intercalate pieces

/-- The path of a name in a directory. -/
def join (directory name : String) : String :=
  if directory.isEmpty ∨ directory.toList.getLast? = some '/' then directory ++ name
  else directory ++ "/" ++ name

/-- Whether a piece stands for the directory that is reached before it. -/
def isIdle (piece : String) : Bool := piece = "" || piece = "."

/-- Whether a path means the directory it starts from, and says so. -/
def isHere (path : String) : Bool :=
  match pieces path with
  | first :: rest => first = "." && rest.all isIdle
  | [] => false

/-- Pieces in reverse without the idle ones that come last in the path. A point that comes first in
it stays, and so does the empty piece of a path that starts at the root. -/
def dropIdle : List String → List String
  | [] => []
  | [first] => [first]
  | last :: before => if isIdle last then dropIdle before else last :: before

/-- The path without its last name. A name alone is in the directory of the empty path; the empty
path and the root are in none. -/
def parent? (path : String) : Option String :=
  match dropIdle (pieces path).reverse with
  | [] => none
  | [only] => if only = "" then none else some ""
  | _ :: before =>
    match dropIdle before with
    | [""] => some "/"
    | before => some (ofPieces before.reverse)

/-- A path and the first `count` of those that it has without its last names. -/
def ancestorsUpTo : Nat → String → List String
  | 0, path => [path]
  | count + 1, path =>
    match parent? path with
    | some parent => path :: ancestorsUpTo count parent
    | none => [path]

/-- A path, and what is left of it as its last names are taken off one by one. -/
def ancestors (path : String) : List String := ancestorsUpTo (pieces path).length path

end TypeSketch.Path
