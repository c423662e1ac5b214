import TypeSketch.Json.Fault
import TypeSketch.Json.Value

/-!
# Reading numbers

A literal without fraction and exponent is an integer if it fits 64 bits. Any other literal is a
double: its digits are gathered into a significand of 64 bits, whole digits that no longer fit are
counted into the exponent, fraction digits that no longer fit are dropped, and the significand is
scaled by one power of ten (`Double.ofScaled?`).

* `gatherWhole`, `gatherFraction` : the significand and what it leaves out;
* `readNumber` : a number after its sign.
-/

namespace TypeSketch.Json

open Text

/-- The value of a decimal digit. -/
def digitValue (c : Char) : Nat := c.toNat - '0'.toNat

/-- Adds whole digits to a significand while it fits 64 bits, and counts the digits left out. -/
def gatherWhole (significand : Nat) : List Char → Nat × Nat
  | [] => (significand, 0)
  | c :: digits =>
    let next := significand * 10 + digitValue c
    if next < Nat.pow 2 64 then gatherWhole next digits else (significand, digits.length + 1)

/-- Adds fraction digits to a significand while it fits 64 bits, and counts the digits added. -/
def gatherFraction (significand : Nat) : List Char → Nat × Nat
  | [] => (significand, 0)
  | c :: digits =>
    let next := significand * 10 + digitValue c
    if next < Nat.pow 2 64 then
      let (gathered, used) := gatherFraction next digits
      (gathered, used + 1)
    else (significand, 0)

/-- The exponent written by some digits, or the digits after the first that takes it beyond 31
bits. -/
def gatherExponent (exponent : Nat) : List Char → Except (List Char) Nat
  | [] => .ok exponent
  | c :: digits =>
    let next := exponent * 10 + digitValue c
    if next < Nat.pow 2 31 then gatherExponent next digits else .error digits

/-- The double of a significand and an exponent, read up to `rest`. -/
def scaled (negative : Bool) (significand : Nat) (exponent : Int) (rest : List Char) :
    Except Fault (Number × List Char) :=
  match Double.ofScaled? significand exponent with
  | none => .error (.here .numberOutOfRange rest)
  | some x => .ok (.double (if negative then x.neg else x), rest)

/-- Reads an exponent after its letter. -/
def readExponent (negative : Bool) (significand : Nat) (exponent : Int) (s : List Char) :
    Except Fault (Number × List Char) :=
  let below := s.head? = some '-'
  let s := if s.head? = some '+' ∨ s.head? = some '-' then s.tail else s
  match s with
  | [] => .error (.here .endInValue [])
  | c :: _ =>
    if !c.isDigit then .error (.past .invalidNumber s)
    else
      let rest := s.dropWhile Char.isDigit
      match gatherExponent 0 (s.takeWhile Char.isDigit) with
      | .ok written => scaled negative significand (if below then exponent - written else exponent + written) rest
      | .error more =>
        if significand ≠ 0 ∧ ¬below then .error (.here .numberOutOfRange (more ++ rest))
        else .ok (.double (.zero negative), rest)

/-- Reads what follows the digits of a double: an exponent or nothing. -/
def readScale (negative : Bool) (significand : Nat) (exponent : Int) (s : List Char) :
    Except Fault (Number × List Char) :=
  match s with
  | 'e' :: rest => readExponent negative significand exponent rest
  | 'E' :: rest => readExponent negative significand exponent rest
  | _ => scaled negative significand exponent s

/-- Reads a fraction after its point. -/
def readFraction (negative : Bool) (significand : Nat) (exponent : Int) (s : List Char) :
    Except Fault (Number × List Char) :=
  match s.takeWhile Char.isDigit with
  | [] => .error (.past (if s.isEmpty then .endInValue else .invalidNumber) s)
  | digits =>
    let (gathered, used) := gatherFraction significand digits
    readScale negative gathered (exponent - used) (s.dropWhile Char.isDigit)

/-- The number of an integer literal: an integer if it fits, otherwise the nearest double. A negated
zero is a double. -/
def wholeNumber (negative : Bool) (significand : Nat) (rest : List Char) :
    Except Fault (Number × List Char) :=
  let value : Int := if negative then -significand else significand
  if fits : Fits64 value then
    if negative ∧ significand = 0 then .ok (.double (.zero true), rest)
    else .ok (.integer value fits, rest)
  else scaled negative significand 0 rest

/-- Reads a number after its sign. -/
def readNumber (negative : Bool) (s : List Char) : Except Fault (Number × List Char) :=
  match s with
  | [] => .error (.here .endInValue [])
  | c :: after =>
    if !c.isDigit then .error (.past .invalidNumber s)
    else if c = '0' ∧ (after.head?.any Char.isDigit) then .error (.past .invalidNumber after)
    else
      let (significand, dropped) := gatherWhole 0 (s.takeWhile Char.isDigit)
      match s.dropWhile Char.isDigit with
      | '.' :: rest => readFraction negative significand dropped rest
      | rest@('e' :: _) => readScale negative significand dropped rest
      | rest@('E' :: _) => readScale negative significand dropped rest
      | rest => if dropped = 0 then wholeNumber negative significand rest
        else scaled negative significand dropped rest

/-! ## Progress -/

theorem length_scaled_le {negative : Bool} {significand : Nat} {exponent : Int} {s rest : List Char}
    {n : Number} (h : scaled negative significand exponent s = .ok (n, rest)) : rest.length ≤ s.length := by
  unfold scaled at h
  grind

theorem length_dropDigits_le (s : List Char) : (s.dropWhile Char.isDigit).length ≤ s.length :=
  (List.dropWhile_sublist Char.isDigit).length_le

theorem length_readExponent_le {negative : Bool} {significand : Nat} {exponent : Int} {s rest : List Char}
    {n : Number} (h : readExponent negative significand exponent s = .ok (n, rest)) :
    rest.length ≤ s.length := by
  have tail : s.tail.length ≤ s.length := by simp
  have hs := length_dropDigits_le s
  have ht := length_dropDigits_le s.tail
  unfold readExponent at h
  grind [→ length_scaled_le]

theorem length_readScale_le {negative : Bool} {significand : Nat} {exponent : Int} {s rest : List Char}
    {n : Number} (h : readScale negative significand exponent s = .ok (n, rest)) :
    rest.length ≤ s.length := by
  unfold readScale at h
  grind [→ length_scaled_le, → length_readExponent_le]

theorem length_readFraction_le {negative : Bool} {significand : Nat} {exponent : Int} {s rest : List Char}
    {n : Number} (h : readFraction negative significand exponent s = .ok (n, rest)) :
    rest.length ≤ s.length := by
  have hs := length_dropDigits_le s
  unfold readFraction at h
  grind [→ length_readScale_le]

theorem length_wholeNumber_le {negative : Bool} {significand : Nat} {s rest : List Char} {n : Number}
    (h : wholeNumber negative significand s = .ok (n, rest)) : rest.length ≤ s.length := by
  unfold wholeNumber at h
  grind [→ length_scaled_le]

theorem length_readNumber_lt {negative : Bool} {s rest : List Char} {n : Number}
    (h : readNumber negative s = .ok (n, rest)) : rest.length < s.length := by
  unfold readNumber at h
  cases s with
  | nil => simp at h
  | cons c after =>
    have ha := length_dropDigits_le after
    have hd : (c :: after).dropWhile Char.isDigit =
        if c.isDigit then after.dropWhile Char.isDigit else c :: after := by
      rw [List.dropWhile_cons]
    grind [→ length_scaled_le, → length_readFraction_le, → length_readScale_le, → length_wholeNumber_le]

end TypeSketch.Json
