/-!
# Bytes in base 64

Three bytes are written as four digits. Shorter groups at the end are filled up with equal signs, and
the bits that such a group leaves over are zero.

* `Base64.encode` : the digits of some bytes;
* `Base64.Fault` : why digits stand for no bytes, with its wording;
* `Base64.decode` : the bytes of some digits.
-/

namespace TypeSketch.Text.Base64

/-- The digits of base 64. -/
def digits : List Char := "ABCDEFGHIJKLMNOPQRSTUVWXYZabcdefghijklmnopqrstuvwxyz0123456789+/".toList

/-- A digit of base 64. -/
def digit (n : Nat) : Char := digits.getD (n % 64) '='

/-- The digits of some bytes. -/
def encode : List UInt8 → List Char
  | [] => []
  | [a] => [digit (a.toNat / 4), digit (a.toNat % 4 * 16), '=', '=']
  | [a, b] => [digit (a.toNat / 4), digit (a.toNat % 4 * 16 + b.toNat / 16), digit (b.toNat % 16 * 4), '=']
  | a :: b :: c :: rest =>
    digit (a.toNat / 4) :: digit (a.toNat % 4 * 16 + b.toNat / 16) :: digit (b.toNat % 16 * 4 + c.toNat / 64) ::
      digit (c.toNat % 64) :: encode rest

/-- Why digits stand for no bytes. -/
inductive Fault where
  | symbol (byte index : Nat)
  /-- The last digit has bits that stand for nothing. -/
  | lastSymbol (byte index : Nat)
  | size (count : Nat)
  | padding
deriving DecidableEq, Repr

/-- The wording of a fault. -/
def Fault.message : Fault → String
  | .symbol byte index => "Invalid symbol " ++ toString byte ++ ", offset " ++ toString index ++ "."
  | .lastSymbol byte index => "Invalid last symbol " ++ toString byte ++ ", offset " ++ toString index ++ "."
  | .size count => "Invalid input length: " ++ toString count
  | .padding => "Invalid padding"

/-- The value of a byte that is a digit. -/
def value? (b : Nat) : Option Nat := digits.findIdx? fun c => c.toNat = b

/-- The byte of the sign that fills up a group. -/
def pad : Nat := 61

/-- The values of the digits in the last group from an index on, `read` being those before the next
byte and `pads` the number of fill signs so far. -/
def lastDigits (index : Nat) (read : List Nat) (pads : Nat) : List Nat → Except Fault (List Nat × Nat)
  | [] => .ok (read, pads)
  | b :: rest =>
    let place := read.length + pads
    if b = pad then
      if place < 2 then .error (.symbol b (index + place)) else lastDigits index read (pads + 1) rest
    else if 0 < pads then .error (.symbol pad (index + read.length))
    else
      match value? b with
      | none => .error (.symbol b (index + place))
      | some v => lastDigits index (read ++ [v]) pads rest

/-- The bytes of the last group. -/
def lastGroup (index : Nat) (group : List Nat) : Except Fault (List UInt8) := do
  let (values, pads) ← lastDigits index [] 0 group
  match values with
  | [] => if group.isEmpty then return [] else throw (.size index)
  | [_] => throw (.size (index + 1))
  | [a, b] =>
    if pads ≠ 2 then throw .padding
    if b % 16 ≠ 0 then throw (.lastSymbol (group.getD 1 0) (index + 1))
    return [UInt8.ofNat (a * 4 + b / 16)]
  | [a, b, c] =>
    if pads ≠ 1 then throw .padding
    if c % 4 ≠ 0 then throw (.lastSymbol (group.getD 2 0) (index + 2))
    return [UInt8.ofNat (a * 4 + b / 16), UInt8.ofNat (b % 16 * 16 + c / 4)]
  | a :: b :: c :: d :: _ =>
    return [UInt8.ofNat (a * 4 + b / 16), UInt8.ofNat (b % 16 * 16 + c / 4), UInt8.ofNat (c % 4 * 64 + d)]

/-- The value of a digit at an index. -/
def digitAt (index b : Nat) : Except Fault Nat :=
  match value? b with
  | some v => .ok v
  | none => .error (.symbol b index)

/-- The bytes of groups from an index on. -/
def groups (index : Nat) : List Nat → Except Fault (List UInt8)
  | a :: b :: c :: d :: e :: rest => do
    let a ← digitAt index a
    let b ← digitAt (index + 1) b
    let c ← digitAt (index + 2) c
    let d ← digitAt (index + 3) d
    return UInt8.ofNat (a * 4 + b / 16) :: UInt8.ofNat (b % 16 * 16 + c / 4) :: UInt8.ofNat (c % 4 * 64 + d) ::
      (← groups (index + 4) (e :: rest))
  | group => lastGroup index group

/-- The bytes of some digits. A byte too many that is no digit is told before anything else. -/
def decode (text : List UInt8) : Except Fault (List UInt8) := do
  let bytes := text.map UInt8.toNat
  match bytes.getLast? with
  | some b =>
    if bytes.length % 4 = 1 ∧ b ≠ pad ∧ (value? b).isNone then throw (.symbol b (bytes.length - 1))
  | none => pure ()
  groups 0 bytes

end TypeSketch.Text.Base64
