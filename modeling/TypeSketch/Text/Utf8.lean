/-!
# Bytes as text

* `Utf8.Fault` : where bytes stop being UTF-8, with its wording;
* `Utf8.decode` : the text of some bytes.
-/

namespace TypeSketch.Text.Utf8

/-- Where bytes stop being UTF-8. -/
inductive Fault where
  /-- So many bytes from an index on start no character. -/
  | invalid (count index : Nat)
  /-- The bytes end within a character. -/
  | incomplete (index : Nat)
deriving DecidableEq, Repr

/-- The wording of a fault. -/
def Fault.message : Fault → String
  | .invalid count index =>
    "invalid utf-8 sequence of " ++ toString count ++ " bytes from index " ++ toString index
  | .incomplete index => "incomplete utf-8 byte sequence from index " ++ toString index

/-- How many bytes a character takes that starts with a byte. -/
def width (first : Nat) : Nat :=
  if first < 0x80 then 1
  else if 0xC2 ≤ first ∧ first < 0xE0 then 2
  else if 0xE0 ≤ first ∧ first < 0xF0 then 3
  else if 0xF0 ≤ first ∧ first < 0xF5 then 4
  else 0

/-- Whether a byte may come second after a byte. Those that would make a character too long, too
great or half of a pair may not. -/
def isSecond (first second : Nat) : Bool :=
  let low := if first = 0xE0 then 0xA0 else if first = 0xF0 then 0x90 else 0x80
  let high := if first = 0xED then 0xA0 else if first = 0xF4 then 0x90 else 0xC0
  low ≤ second && second < high

/-- Whether a byte continues a character. -/
def isTail (b : Nat) : Bool := 0x80 ≤ b && b < 0xC0

/-- The rest of a character of which `count` bytes were read, `missing` ones being left. -/
def tail (index count missing code : Nat) (bytes : List Nat) : Except Fault (Nat × List Nat) :=
  match missing, bytes with
  | 0, bytes => .ok (code, bytes)
  | _ + 1, [] => .error (.incomplete index)
  | missing + 1, b :: bytes =>
    if isTail b then tail index (count + 1) missing (code * 64 + b % 64) bytes else .error (.invalid count index)

/-- The first character of some bytes. -/
def first (index : Nat) (b : Nat) (bytes : List Nat) : Except Fault (Nat × List Nat) :=
  match width b with
  | 0 => .error (.invalid 1 index)
  | 1 => .ok (b, bytes)
  | size =>
    match bytes with
    | [] => .error (.incomplete index)
    | second :: rest =>
      if isSecond b second then
        tail index 2 (size - 2) (b % Nat.pow 2 (7 - size) * 64 + second % 64) rest
      else .error (.invalid 1 index)

/-- The text of some bytes from an index on; there are at most `fuel` characters. -/
def decodeFrom (fuel index : Nat) (bytes : List Nat) : Except Fault (List Char) :=
  match fuel, bytes with
  | 0, _ => .ok []
  | _, [] => .ok []
  | fuel + 1, b :: bytes => do
    let (code, rest) ← first index b bytes
    return Char.ofNat code :: (← decodeFrom fuel (index + 1 + bytes.length - rest.length) rest)

/-- The text of some bytes. -/
def decode (bytes : List UInt8) : Except Fault (List Char) :=
  decodeFrom bytes.length 0 (bytes.map UInt8.toNat)

end TypeSketch.Text.Utf8
