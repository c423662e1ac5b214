import TypeSketch.Json.Value
import TypeSketch.Text.Pieces

/-!
# Pointers into values

A pointer is empty, or every step of it stands after a slash; in a step, `~0` stands for a tilde and
`~1` for a slash.

* `Pointer.steps?` : the steps of a pointer;
* `indexOf?` : the index that a step gives in an array;
* `Value.child?`, `Value.descend?` : the part of a value at one step, and at some steps;
* `Value.atPointer?` : the part of a value that a pointer names.
-/

namespace TypeSketch.Json

namespace Pointer

/-- A text in which every tilde that `digit` follows is replaced, together with it, by `c`. -/
def unescapeOne (digit c : Char) : List Char → List Char
  | [] => []
  | ['~'] => ['~']
  | '~' :: d :: rest =>
    if d = digit then c :: unescapeOne digit c rest else '~' :: unescapeOne digit c (d :: rest)
  | d :: rest => d :: unescapeOne digit c rest

/-- The key that a step of a pointer spells. The tildes come last, so that `~01` spells `~1`. -/
def unescape (step : List Char) : String :=
  String.ofList (unescapeOne '0' '~' (unescapeOne '1' '/' step))

/-- The steps of a pointer. -/
def steps? (pointer : String) : Option (List String) :=
  match pointer.toList with
  | [] => some []
  | c :: rest => if c = '/' then some ((Text.pieces '/' rest).map unescape) else none

end Pointer

/-- The value of digits, from the left. -/
def indexFrom (n : Nat) : List Char → Option Nat
  | [] => some n
  | c :: rest => if c.isDigit then indexFrom (10 * n + (c.toNat - '0'.toNat)) rest else none

/-- The index that a step gives in an array: digits without a leading zero, below `2^64`. -/
def indexOf? (step : String) : Option Nat :=
  match step.toList with
  | [] => none
  | ['0'] => some 0
  | '0' :: _ => none
  | digits => (indexFrom 0 digits).filter (· < Nat.pow 2 64)

/-- The part of a value at one step. -/
def Value.child? (step : String) : Value → Option Value
  | .object members => Members.get? step members
  | .array items => (indexOf? step).bind (items[·]?)
  | _ => none

/-- The part of a value at some steps. -/
def Value.descend? : List String → Value → Option Value
  | [], value => some value
  | step :: steps, value => (value.child? step).bind (descend? steps)

/-- The part of a value that a pointer names. -/
def Value.atPointer? (pointer : String) (value : Value) : Option Value :=
  (Pointer.steps? pointer).bind (value.descend? ·)

end TypeSketch.Json
