import TypeSketch.Json.Reader

/-!
# Reading documents

* `readValue` : a value whose containers nest at most `depth` deep;
* `parse` : a whole document, with nothing but blanks around its value.
-/

namespace TypeSketch.Json

/-- How deep the containers of a document may nest. -/
def maxDepth : Nat := 127

/-- Reads the items of an array after its opening bracket. -/
def readArray (item : Reader Fault Value) (s : List Char) : Except Fault (Value × List Char) :=
  match readItems id (fun items => item.map (· :: items)) true [] s with
  | .error fault => .error fault
  | .ok (items, rest) => .ok (.array items.reverse, rest.tail)

/-- Reads the members of an object after its opening brace. -/
def readObject (value : Reader Fault Value) (s : List Char) : Except Fault (Value × List Char) :=
  let member (pairs : List (String × Value)) : Reader Fault (List (String × Value)) :=
    readMember id id fun key _ => .ok (value.map fun v => (key, v) :: pairs)
  match readMembers id member true [] s with
  | .error fault => .error fault
  | .ok (pairs, rest) => .ok (.object (Members.ofPairs pairs.reverse), rest.tail)

/-- Reads a value, `nested` being the reader of the values in its containers and `none` where
containers may nest no deeper. -/
def runValue (nested : Option (Reader Fault Value)) (s : List Char) : Except Fault (Value × List Char) :=
  match skipBlanks s with
  | [] => .error (.here .endInValue [])
  | s@(c :: rest) =>
    if c = 'n' then (readWord ['u', 'l', 'l'] rest).map (.null, ·)
    else if c = 't' then (readWord ['r', 'u', 'e'] rest).map (.bool true, ·)
    else if c = 'f' then (readWord ['a', 'l', 's', 'e'] rest).map (.bool false, ·)
    else if c = '-' then (readNumber true rest).map fun (n, rest) => (.number n, rest)
    else if c.isDigit then (readNumber false s).map fun (n, rest) => (.number n, rest)
    else if c = '"' then (readText [] rest).map fun (text, rest) => (.string text, rest)
    else if c = '[' then
      match nested with
      | none => .error (.past .tooDeep s)
      | some item => readArray item rest
    else if c = '\x7b' then
      match nested with
      | none => .error (.past .tooDeep s)
      | some value => readObject value rest
    else .error (.past .expectedValue s)

theorem length_readArray_le {item : Reader Fault Value} {s rest : List Char} {v : Value}
    (h : readArray item s = .ok (v, rest)) : rest.length ≤ s.length := by
  unfold readArray at h
  split at h
  · simp at h
  · next items r hr =>
    have := length_readItems_le hr
    simp only [Except.ok.injEq, Prod.mk.injEq] at h
    have : rest.length = r.length - 1 := by rw [← h.2]; simp
    omega

theorem length_readObject_le {value : Reader Fault Value} {s rest : List Char} {v : Value}
    (h : readObject value s = .ok (v, rest)) : rest.length ≤ s.length := by
  unfold readObject at h
  dsimp only at h
  split at h
  · simp at h
  · next pairs r hr =>
    have := length_readMembers_le hr
    simp only [Except.ok.injEq, Prod.mk.injEq] at h
    have : rest.length = r.length - 1 := by rw [← h.2]; simp
    omega

theorem length_runValue_lt {nested : Option (Reader Fault Value)} {s rest : List Char} {v : Value}
    (h : runValue nested s = .ok (v, rest)) : rest.length < s.length := by
  have hs := length_skipBlanks_le s
  unfold runValue at h
  split at h
  · simp at h
  · next c t ht =>
    rw [ht, List.length_cons] at hs
    simp only [Except.map] at h
    grind [→ length_readWord_le, → length_readNumber_lt, → length_of_readText, → length_readArray_le,
      → length_readObject_le]

/-- Reads a value whose containers nest at most `depth` deep. -/
def readValue : Nat → Reader Fault Value
  | 0 => { run := runValue none, shorter := length_runValue_lt }
  | depth + 1 => { run := runValue (some (readValue depth)), shorter := length_runValue_lt }

/-- Reads a document. -/
def parseChars (s : List Char) : Except Fault Value :=
  match (readValue maxDepth).run s with
  | .error fault => .error fault
  | .ok (value, rest) =>
    match skipBlanks rest with
    | [] => .ok value
    | rest => .error (.past .trailingCharacters rest)

/-- The value of a text that is a JSON document. -/
def parse (text : String) : Except Fault Value := parseChars text.toList

end TypeSketch.Json
