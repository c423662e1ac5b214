import TypeSketch.Json.Quoted
import TypeSketch.Json.Numeral

/-!
# Readers of items and members

Documents and configurations share the rules of brackets, commas and colons and differ in what they
make of an item or a member, so both are written over the loops of this module.

* `Reader` : a function that takes a value off the front of a text and always makes it shorter;
* `skipBlanks`, `readWord`, `readKey`, `readColon` : the small steps;
* `nextItem?`, `nextMember?` : what stands between items and between members;
* `readItems`, `readMembers` : all items up to the closing bracket, all members up to the closing
  brace, folded into a state.
-/

namespace TypeSketch.Json

open Text

/-! ## Readers -/

/-- Takes a value off the front of a text, leaving a shorter text. -/
structure Reader (ε α : Type) where
  run : List Char → Except ε (α × List Char)
  shorter : ∀ {s value rest}, run s = .ok (value, rest) → rest.length < s.length

/-- The reader followed by a function on its value. -/
def Reader.map {ε α β : Type} (f : α → β) (reader : Reader ε α) : Reader ε β where
  run s :=
    match reader.run s with
    | .error e => .error e
    | .ok (value, rest) => .ok (f value, rest)
  shorter h := by grind [→ Reader.shorter]

/-! ## Small steps -/

/-- The blanks of JSON. -/
def isBlank (c : Char) : Bool := c = ' ' || c = '\t' || c = '\n' || c = '\r'

/-- The text after its leading blanks. -/
def skipBlanks (s : List Char) : List Char := s.dropWhile isBlank

theorem length_skipBlanks_le (s : List Char) : (skipBlanks s).length ≤ s.length :=
  (List.dropWhile_sublist isBlank).length_le

/-- Takes the letters of a word, one after the other. -/
def readWord (letters s : List Char) : Except Fault (List Char) :=
  match letters, s with
  | [], s => .ok s
  | _ :: _, [] => .error (.here .endInValue [])
  | l :: letters, c :: rest => if c = l then readWord letters rest else .error (.past .expectedWord (c :: rest))

theorem length_readWord_le {letters s rest : List Char} (h : readWord letters s = .ok rest) :
    rest.length ≤ s.length := by
  fun_induction readWord letters s <;> grind

/-- Takes the colon after a key. -/
def readColon (s : List Char) : Except Fault (List Char) :=
  match skipBlanks s with
  | ':' :: rest => .ok rest
  | [] => .error (.here .endInObject [])
  | s => .error (.past .expectedColon s)

theorem length_readColon_lt {s rest : List Char} (h : readColon s = .ok rest) :
    rest.length < s.length := by
  have := length_skipBlanks_le s
  unfold readColon at h
  split at h
  · next r hr =>
    rw [hr] at this
    simp only [Except.ok.injEq] at h
    rw [← h]
    exact this
  · simp at h
  · simp at h

/-! ## Between items -/

/-- What stands before an item: `none` at the closing bracket, otherwise the text from the item on. -/
def nextItem? (first : Bool) (s : List Char) : Except Fault (Option (List Char)) :=
  match skipBlanks s with
  | [] => .error (.here .endInList [])
  | ']' :: _ => .ok none
  | s@(c :: rest) =>
    if first then .ok (some s)
    else if c = ',' then
      match skipBlanks rest with
      | [] => .error (.here .endInValue [])
      | s@(']' :: _) => .error (.past .trailingComma s)
      | s => .ok (some s)
    else .error (.past .expectedItemEnd s)

theorem length_nextItem_le {first : Bool} {s item : List Char} (h : nextItem? first s = .ok (some item)) :
    item.length ≤ s.length := by
  have := length_skipBlanks_le s
  unfold nextItem? at h
  grind [length_skipBlanks_le]

/-- What stands before a member: `none` at the closing brace, otherwise the text from the opening
quote of the key on. -/
def nextMember? (first : Bool) (s : List Char) : Except Fault (Option (List Char)) :=
  match skipBlanks s with
  | [] => .error (.here .endInObject [])
  | s@(c :: rest) =>
    if c = '\x7d' then .ok none
    else if first then if c = '"' then .ok (some s) else .error (.past .keyNotString s)
    else if c = ',' then
      match skipBlanks rest with
      | [] => .error (.here .endInValue [])
      | s@(c :: _) =>
        if c = '"' then .ok (some s)
        else if c = '\x7d' then .error (.past .trailingComma s)
        else .error (.past .keyNotString s)
    else .error (.past .expectedMemberEnd s)

theorem length_nextMember_le {first : Bool} {s member : List Char}
    (h : nextMember? first s = .ok (some member)) : member.length ≤ s.length := by
  have := length_skipBlanks_le s
  unfold nextMember? at h
  grind [length_skipBlanks_le]

/-- Reads a key from its opening quote on. -/
def readKey (s : List Char) : Except Fault (String × List Char) := readText [] s.tail

theorem length_readKey_le {s rest : List Char} {key : String} (h : readKey s = .ok (key, rest)) :
    rest.length ≤ s.length := by
  have := length_of_readText h
  simp at this; omega

/-! ## Loops -/

variable {ε σ : Type}

/-- Reads a member from its key on. The key and the text after it choose how the value is read. -/
def readMember (keyFault colonFault : Fault → ε) (choose : String → List Char → Except ε (Reader ε σ)) :
    Reader ε σ where
  run s :=
    match readKey s with
    | .error f => .error (keyFault f)
    | .ok (key, rest) =>
      match choose key rest with
      | .error e => .error e
      | .ok reader =>
        match readColon rest with
        | .error f => .error (colonFault f)
        | .ok rest => reader.run rest
  shorter h := by
    grind [→ length_readKey_le, → length_readColon_lt, → Reader.shorter]

/-- Folds the items of an array into a state, from after the opening bracket or an item up to the
closing bracket, which is left. -/
def readItems (fault : Fault → ε) (item : σ → Reader ε σ) (first : Bool) (state : σ) (s : List Char) :
    Except ε (σ × List Char) :=
  match _before : nextItem? first s with
  | .error f => .error (fault f)
  | .ok none => .ok (state, skipBlanks s)
  | .ok (some s') =>
    match _taken : (item state).run s' with
    | .error e => .error e
    | .ok (state', rest) => readItems fault item false state' rest
termination_by s.length
decreasing_by
  have := length_nextItem_le _before
  have := (item state).shorter _taken
  omega

/-- Folds the members of an object into a state, from after the opening brace or a member up to the
closing brace, which is left. -/
def readMembers (fault : Fault → ε) (member : σ → Reader ε σ) (first : Bool) (state : σ) (s : List Char) :
    Except ε (σ × List Char) :=
  match _before : nextMember? first s with
  | .error f => .error (fault f)
  | .ok none => .ok (state, skipBlanks s)
  | .ok (some s') =>
    match _taken : (member state).run s' with
    | .error e => .error e
    | .ok (state', rest) => readMembers fault member false state' rest
termination_by s.length
decreasing_by
  have := length_nextMember_le _before
  have := (member state).shorter _taken
  omega

theorem length_readItems_le {fault : Fault → ε} {item : σ → Reader ε σ} {first : Bool} {state state' : σ}
    {s rest : List Char} (h : readItems fault item first state s = .ok (state', rest)) :
    rest.length ≤ s.length := by
  fun_induction readItems fault item first state s with
  | case1 => simp at h
  | case2 _ _ s => simp only [Except.ok.injEq, Prod.mk.injEq] at h; have := length_skipBlanks_le s; grind
  | case3 => simp at h
  | case4 first state s s' before _ _ taken ih =>
    have := length_nextItem_le before
    have := (item state).shorter taken
    have := ih h
    omega

theorem length_readMembers_le {fault : Fault → ε} {member : σ → Reader ε σ} {first : Bool}
    {state state' : σ} {s rest : List Char}
    (h : readMembers fault member first state s = .ok (state', rest)) : rest.length ≤ s.length := by
  fun_induction readMembers fault member first state s with
  | case1 => simp at h
  | case2 _ _ s => simp only [Except.ok.injEq, Prod.mk.injEq] at h; have := length_skipBlanks_le s; grind
  | case3 => simp at h
  | case4 first state s s' before _ _ taken ih =>
    have := length_nextMember_le before
    have := (member state).shorter taken
    have := ih h
    omega

end TypeSketch.Json
