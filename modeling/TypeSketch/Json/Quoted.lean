import TypeSketch.Json.Fault

/-!
# Quoted text

* `readText` : the text of a string after its opening quote, and what follows its closing quote;
* `readEscape` : the character of an escape after its backslash; a character beyond the first plane
  is written as two units;
* `quote` : the quoted form, which escapes quotes, backslashes and control characters alone.
-/

namespace TypeSketch.Json

open Text

/-! ## Escapes -/

/-- The value of a hexadecimal digit. -/
def hexValue? (c : Char) : Option Nat :=
  if '0' ≤ c ∧ c ≤ '9' then some (c.toNat - '0'.toNat)
  else if 'a' ≤ c ∧ c ≤ 'f' then some (c.toNat - 'a'.toNat + 10)
  else if 'A' ≤ c ∧ c ≤ 'F' then some (c.toNat - 'A'.toNat + 10)
  else none

/-- The unit written by four hexadecimal digits. -/
def unitOf? (a b c d : Char) : Option Nat := do
  let a ← hexValue? a
  let b ← hexValue? b
  let c ← hexValue? c
  let d ← hexValue? d
  return ((a * 16 + b) * 16 + c) * 16 + d

/-- Reads the four digits of a unit. Four bytes are taken whatever they are. -/
def readUnit (s : List Char) : Except Fault (Nat × List Char) :=
  if byteCount (s.take 4) < 4 then .error (.here .endInString [])
  else
    match s with
    | a :: b :: c :: d :: rest =>
      match unitOf? a b c d with
      | some unit => .ok (unit, rest)
      | none => .error ⟨.invalidEscape, byteCount s - 4⟩
    | _ => .error ⟨.invalidEscape, byteCount s - 4⟩

/-- The units that open a pair. -/
def isHighSurrogate (unit : Nat) : Bool := 0xD800 ≤ unit && unit < 0xDC00

/-- The units that close a pair. -/
def isLowSurrogate (unit : Nat) : Bool := 0xDC00 ≤ unit && unit < 0xE000

/-- The character of a pair of units. -/
def pairChar (high low : Nat) : Char := Char.ofNat ((high - 0xD800) * 0x400 + (low - 0xDC00) + 0x10000)

/-- Reads the second unit of a pair. -/
def readLowUnit (high : Nat) (s : List Char) : Except Fault (Char × List Char) :=
  match s with
  | [] => .error (.here .endInString [])
  | '\\' :: after =>
    match after with
    | [] => .error (.here .endInString [])
    | 'u' :: rest =>
      match readUnit rest with
      | .error fault => .error fault
      | .ok (low, rest) =>
        if isLowSurrogate low then .ok (pairChar high low, rest)
        else .error (.here .loneSurrogate rest)
    | _ => .error (.past .unfinishedEscape after)
  | _ => .error (.past .unfinishedEscape s)

/-- The character of an escape of one letter. -/
def shortEscape? : Char → Option Char
  | '"' => some '"'
  | '\\' => some '\\'
  | '/' => some '/'
  | 'b' => some '\x08'
  | 'f' => some '\x0c'
  | 'n' => some '\n'
  | 'r' => some '\r'
  | 't' => some '\t'
  | _ => none

/-- Reads an escape after its backslash. -/
def readEscape (s : List Char) : Except Fault (Char × List Char) :=
  match s with
  | [] => .error (.here .endInString [])
  | 'u' :: rest =>
    match readUnit rest with
    | .error fault => .error fault
    | .ok (unit, rest) =>
      if isLowSurrogate unit then .error (.here .loneSurrogate rest)
      else if isHighSurrogate unit then readLowUnit unit rest
      else .ok (Char.ofNat unit, rest)
  | c :: rest =>
    match shortEscape? c with
    | some e => .ok (e, rest)
    | none => .error (.past .invalidEscape s)

theorem length_of_readUnit {s rest : List Char} {unit : Nat} (h : readUnit s = .ok (unit, rest)) :
    rest.length < s.length := by
  unfold readUnit at h
  grind

theorem length_of_readLowUnit {s rest : List Char} {high : Nat} {c : Char}
    (h : readLowUnit high s = .ok (c, rest)) : rest.length < s.length := by
  unfold readLowUnit at h
  grind [→ length_of_readUnit]

theorem length_of_readEscape {s rest : List Char} {c : Char} (h : readEscape s = .ok (c, rest)) :
    rest.length < s.length := by
  unfold readEscape at h
  grind [→ length_of_readUnit, → length_of_readLowUnit]

/-! ## Strings -/

/-- Reads the text of a string after its opening quote, `read` being the characters so far in
reverse. -/
def readText (read s : List Char) : Except Fault (String × List Char) :=
  match s with
  | [] => .error (.here .endInString [])
  | c :: rest =>
    if c = '"' then .ok (String.ofList read.reverse, rest)
    else if c = '\\' then
      match _taken : readEscape rest with
      | .error fault => .error fault
      | .ok (e, rest') => readText (e :: read) rest'
    else if c.toNat < 0x20 then .error (.past .controlCharacter s)
    else readText (c :: read) rest
termination_by s.length
decreasing_by
  · have := length_of_readEscape _taken
    simp only [List.length_cons]; omega
  · simp

theorem length_of_readText {read s rest : List Char} {text : String}
    (h : readText read s = .ok (text, rest)) : rest.length < s.length := by
  fun_induction readText read s <;> grind [→ length_of_readEscape]

/-! ## Writing -/

/-- A hexadecimal digit in lower case. -/
def hexDigit (n : Nat) : Char := if n < 10 then Char.ofNat ('0'.toNat + n) else Char.ofNat ('a'.toNat + (n - 10))

/-- The written form of a character of a string. -/
def escape (c : Char) : List Char :=
  if c = '"' then ['\\', '"']
  else if c = '\\' then ['\\', '\\']
  else if c = '\x08' then ['\\', 'b']
  else if c = '\t' then ['\\', 't']
  else if c = '\n' then ['\\', 'n']
  else if c = '\x0c' then ['\\', 'f']
  else if c = '\r' then ['\\', 'r']
  else if c.toNat < 0x20 then ['\\', 'u', '0', '0', hexDigit (c.toNat / 16), hexDigit (c.toNat % 16)]
  else [c]

/-- The quoted form of a text. -/
def quote (s : List Char) : List Char := '"' :: (s.flatMap escape ++ ['"'])

end TypeSketch.Json
