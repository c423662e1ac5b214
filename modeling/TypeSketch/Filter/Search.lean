import TypeSketch.Filter.Operator
import TypeSketch.Regex.Machine

/-!
# Searches in values

A search takes a text, an expression, and letters that say how to search. Its result tells of every
match which groups took part in it, and where.

* `SearchFlags` : what the letters say;
* `Val.search` : the matches in a text, the text between them, or both in turn.
-/

namespace TypeSketch.Filter

/-- How to search: the flags of the expression, whether all matches are taken, and whether empty ones
are left out. -/
structure SearchFlags where
  regex : Regex.Flags := {}
  all : Bool := false
  skipEmpty : Bool := false

namespace SearchFlags

/-- Flags with what a letter says. -/
def add (flags : SearchFlags) (c : Char) : Except Problem SearchFlags :=
  match c with
  | 'g' => .ok { flags with all := true }
  | 'n' => .ok { flags with skipEmpty := true }
  | 'i' => .ok { flags with regex := { flags.regex with ignoreCase := true } }
  | 'x' => .ok { flags with regex := { flags.regex with spaced := true } }
  | 's' => .ok { flags with regex := { flags.regex with dotAll := true } }
  | 'l' => .ok { flags with regex := { flags.regex with lazy := true } }
  | 'p' => .ok { flags with regex := { flags.regex with dotAll := true }, skipEmpty := true }
  | c => .error (.message ("invalid regex flag: " ++ String.singleton c))

/-- The flags that letters stand for. -/
def ofLetters (letters : String) : Except Problem SearchFlags := letters.toList.foldlM add {}

/-- The matches that a search takes from a text. -/
def matchesIn (flags : SearchFlags) (regex : Regex) (text : List Char) : List Regex.Spans :=
  if flags.skipEmpty then
    let found := (regex.matches true text).filter fun spans => (Regex.extent spans).1 != (Regex.extent spans).2
    if flags.all then found else found.take 1
  else regex.matches flags.all text

end SearchFlags

/-- A group that took part in a match: where it starts, its length, its text and its name. -/
def groupValue (text : List Char) (name : Option String) (span : Nat × Nat) : Val :=
  let (start, stop) := span
  .obj ([("offset", .int start), ("length", .int (stop - start : Nat)),
    ("string", .ofChars ((text.drop start).take (stop - start)))] ++
    (name.map fun name => ("name", Val.str name)).toList)

/-- The groups that took part in a match. -/
def matchValue (text : List Char) (names : List (Option String)) (spans : Regex.Spans) : Val :=
  .arr ((spans.zip names).filterMap fun (span, name) => span.map (groupValue text name))

/-- The text between matches, the matches, or both in turn. -/
def cutAtMatches (between found : Bool) (text : List Char) (value : Regex.Spans → Val) (place : Nat) :
    List Regex.Spans → List Val
  | [] => if between then [.ofChars (text.drop place)] else []
  | spans :: rest =>
    let (start, stop) := Regex.extent spans
    (if between then [.ofChars ((text.drop place).take (start - place))] else []) ++
      (if found then [value spans] else []) ++ cutAtMatches between found text value stop rest

/-- Searches a text for an expression. The flags are looked at first, then the expression, and the text
last. -/
def Val.search (between found : Bool) (v expression letters : Val) : Except Problem Val := do
  let flags ← SearchFlags.ofLetters (← letters.asStr)
  match Regex.parse flags.regex (← expression.asStr) with
  | .error fault => throw (.message ("invalid regex: " ++ fault.message))
  | .ok regex =>
    let text := (← v.asStr).toList
    return .arr (cutAtMatches between found text (matchValue text regex.names) 0 (flags.matchesIn regex text))

end TypeSketch.Filter
