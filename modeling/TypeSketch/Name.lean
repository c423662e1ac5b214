import TypeSketch.Text.UpperCase

/-!
# Names of members

A name is cut before every upper-case character after its first one, and each segment is capitalized.

* `segments` : the segments of a name;
* `capitalize` : a segment with its first character in upper case;
* `propertyCase` : the capitalized segments put together again.
-/

namespace TypeSketch.Name

open Text

/-- Cuts a text before every upper-case character, where `segment` holds the characters since the
last cut in reverse. -/
def cut (segment : List Char) : List Char → List (List Char)
  | [] => [segment.reverse]
  | c :: rest => if isUpper c then segment.reverse :: cut [c] rest else cut (c :: segment) rest

/-- The segments of a name. The empty name has none. -/
def segments : List Char → List (List Char)
  | [] => []
  | c :: rest => cut [c] rest

/-- A segment with the upper-case mapping of its first character. -/
def capitalize : List Char → List Char
  | [] => []
  | c :: rest => upper c ++ rest

/-- The capitalized segments of a name, put together. -/
def propertyCase (name : List Char) : List Char := (segments name).flatMap capitalize

/-- The segments of a name as texts. -/
def splitSegments (name : String) : List String := (segments name.toList).map String.ofList

/-- A name in property case. -/
def toPropertyCase (name : String) : String := String.ofList (propertyCase name.toList)

end TypeSketch.Name
