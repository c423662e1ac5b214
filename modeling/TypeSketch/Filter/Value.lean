import TypeSketch.Json.Numeral
import TypeSketch.Json.Printer
import TypeSketch.Text.Literal

/-!
# Values of filters

Filters tell integers from doubles, and keep a number that is not a 64-bit integer as its text until
it is computed with.

* `Val` : the values;
* `Val.ofJson`, `Val.text` : from a document, and back to the text of one;
* `Val.show` : the form in which error messages show a value;
* `Val.order` : the order of all values.
-/

namespace TypeSketch.Filter

open Json Text

/-- A value of a filter. -/
inductive Val where
  | null
  | bool (b : Bool)
  | int (n : Int)
  | float (x : Float)
  /-- A number kept as it was written. -/
  | decimal (text : String)
  | str (s : String)
  | arr (items : List Val)
  | obj (members : List (String × Val))

instance : Inhabited Val := ⟨.null⟩

/-! ## Doubles -/

/-- Doubles are written positionally from the fourth decimal place to the quadrillions. -/
def floatLayout : Layout := ⟨-4, 15, false⟩

/-- The text of a finite double. -/
def finiteText? (x : Float) : Option String :=
  (Double.ofBits? x.toBits).map fun d => String.ofList (d.write floatLayout)

/-- An infinite double. -/
def infinity (negative : Bool) : Float := if negative then -1.0 / 0.0 else 1.0 / 0.0

/-- The double nearest to `digits * 10 ^ exponent`, infinite if there is none. -/
def nearestFloat (negative : Bool) (digits : Nat) (exponent : Int) : Float :=
  let places : Int := (Nat.toDigits 10 digits).length + exponent
  let near : Option Double :=
    if digits = 0 ∨ places < -400 then some (.zero negative)
    else if 400 < places then none
    else Double.ofRatio? negative (digits * Nat.pow 10 exponent.toNat) (Nat.pow 10 (-exponent).toNat)
  match near with
  | some d => Float.ofBits d.toBits
  | none => infinity negative

/-- The double nearest to a number as it is written. -/
def floatOfText (text : String) : Float :=
  let s := text.toList
  let negative := s.head? = some '-'
  let s := if negative then s.tail else s
  let whole := s.takeWhile Char.isDigit
  let s := s.drop whole.length
  let fraction := if s.head? = some '.' then s.tail.takeWhile Char.isDigit else []
  let s := if s.head? = some '.' then s.drop (fraction.length + 1) else s
  let s := s.drop 1
  let below := s.head? = some '-'
  let s := if s.head? = some '-' ∨ s.head? = some '+' then s.tail else s
  let value (digits : List Char) : Nat := digits.foldl (fun n c => n * 10 + digitValue c) 0
  let exponent : Int := if below then -(value s : Int) else value s
  nearestFloat negative (value (whole ++ fraction)) (exponent - fraction.length)

/-- An integer as a double. -/
def floatOfInt (n : Int) : Float := nearestFloat (n < 0) n.natAbs 0

namespace Val

/-! ## Documents -/

/-- The value of a number: an integer if it fits 64 bits with a sign. -/
def ofNumber (n : Number) : Val :=
  match n with
  | .integer value _ => if value < 9223372036854775808 then .int value else .decimal (String.ofList n.write)
  | .double _ => .decimal (String.ofList n.write)

mutual

/-- The value of a document. -/
def ofJson : Value → Val
  | .null => .null
  | .bool b => .bool b
  | .number n => ofNumber n
  | .string s => .str s
  | .array items => .arr (ofItems items)
  | .object members => .obj (ofMembers members)

/-- The values of items. -/
def ofItems : List Value → List Val
  | [] => []
  | item :: items => ofJson item :: ofItems items

/-- The values of members. -/
def ofMembers : List (String × Value) → List (String × Val)
  | [] => []
  | (key, value) :: members => (key, ofJson value) :: ofMembers members

end

/-- A character in the text of a value. Of the control characters only line ends and tabs have
escapes of their own. -/
def quotedChar (c : Char) : List Char :=
  if c = '\x08' ∨ c = '\x0c' then ['\\', 'u', '0', '0', hexDigit (c.toNat / 16), hexDigit (c.toNat % 16)]
  else escape c

/-- A string in the text of a value. -/
def quoted (s : String) : List Char := '"' :: (s.toList.flatMap quotedChar ++ ['"'])

mutual

/-- The text of a value, which is that of a document unless a number was kept that is none. -/
def chars : Val → List Char
  | .null => "null".toList
  | .bool b => (if b then "true" else "false").toList
  | .int n => writeInt n
  | .float x => ((finiteText? x).getD "null").toList
  | .decimal text => text.toList
  | .str s => quoted s
  | .arr [] => ['[', ']']
  | .arr (item :: items) => '[' :: (chars item ++ itemChars items)
  | .obj [] => ['\x7b', '\x7d']
  | .obj ((key, value) :: members) =>
    '\x7b' :: (quoted key ++ ':' :: (chars value ++ memberChars members))

/-- The items after the first, and the closing bracket. -/
def itemChars : List Val → List Char
  | [] => [']']
  | item :: items => ',' :: (chars item ++ itemChars items)

/-- The members after the first, and the closing brace. -/
def memberChars : List (String × Val) → List Char
  | [] => ['\x7d']
  | (key, value) :: members => ',' :: (quoted key ++ ':' :: (chars value ++ memberChars members))

end

/-- The text of a value. -/
def text (v : Val) : String := String.ofList v.chars

/-! ## Error messages -/

/-- A double in error messages. -/
def showFloat (x : Float) : String :=
  match finiteText? x with
  | some text => text
  | none => if x.isNaN then "NaN" else if x < 0 then "-inf" else "inf"

mutual

/-- The form of a value in error messages. -/
def «show» : Val → String
  | .null => "Null"
  | .bool b => "Bool(" ++ (if b then "true" else "false") ++ ")"
  | .int n => "Int(" ++ toString n ++ ")"
  | .float x => "Float(" ++ showFloat x ++ ")"
  | .decimal text => "Num(" ++ literal text ++ ")"
  | .str s => "Str(" ++ literal s ++ ")"
  | .arr items => "Arr([" ++ ", ".intercalate (showItems items) ++ "])"
  | .obj members => "Obj(\x7b" ++ ", ".intercalate (showMembers members) ++ "\x7d)"

/-- The forms of items. -/
def showItems : List Val → List String
  | [] => []
  | item :: items => «show» item :: showItems items

/-- The forms of members. -/
def showMembers : List (String × Val) → List String
  | [] => []
  | (key, value) :: members => (literal key ++ ": " ++ «show» value) :: showMembers members

end

/-! ## Order -/

/-- The place of a kind of value in the order. -/
def rank : Val → Nat
  | .null => 0
  | .bool _ => 1
  | .int _ | .float _ | .decimal _ => 2
  | .str _ => 3
  | .arr _ => 4
  | .obj _ => 5

/-- The order of doubles. A double that is no number comes before every number, itself included. -/
def orderFloat (x y : Float) : Ordering :=
  if x.isNaN then .lt
  else if y.isNaN then .gt
  else if x < y then .lt
  else if y < x then .gt
  else .eq

/-- A number as a double. -/
def float? : Val → Option Float
  | .int n => some (floatOfInt n)
  | .float x => some x
  | .decimal text => some (floatOfText text)
  | _ => none

/-- The order of lists by the first items that differ. -/
def orderLists {α : Type} (order : α → α → Ordering) : List α → List α → Ordering
  | [], [] => .eq
  | [], _ :: _ => .lt
  | _ :: _, [] => .gt
  | x :: xs, y :: ys => (order x y).then (orderLists order xs ys)

/-- Members sorted by their keys. -/
def sortMembers (members : List (String × Val)) : List (String × Val) :=
  members.mergeSort fun a b => !(b.1 < a.1)

/-- The order of texts. -/
def orderTexts (s t : String) : Ordering := if s < t then .lt else if t < s then .gt else .eq

/-- The order of values that nest less deep than `depth`. -/
def orderWithin : Nat → Val → Val → Ordering
  | 0, _, _ => .eq
  | depth + 1, v, w =>
    match v, w with
    | .bool b, .bool c => compare b.toNat c.toNat
    | .int m, .int n => compare m n
    | .str s, .str t => orderTexts s t
    | .arr xs, .arr ys => orderLists (orderWithin depth) xs ys
    | .obj ms, .obj ns =>
      if ms.isEmpty ∨ ns.isEmpty then compare ms.length ns.length
      else
        let ms := sortMembers ms
        let ns := sortMembers ns
        (orderLists orderTexts (ms.map Prod.fst) (ns.map Prod.fst)).then
          (orderLists (orderWithin depth) (ms.map Prod.snd) (ns.map Prod.snd))
    | v, w =>
      match v.float?, w.float? with
      | some x, some y => orderFloat x y
      | _, _ => compare v.rank w.rank

mutual

/-- How deep a value nests. -/
def depth : Val → Nat
  | .arr items => depthItems items + 1
  | .obj members => depthMembers members + 1
  | _ => 1

/-- How deep items nest. -/
def depthItems : List Val → Nat
  | [] => 0
  | item :: items => max (depth item) (depthItems items)

/-- How deep members nest. -/
def depthMembers : List (String × Val) → Nat
  | [] => 0
  | (_, value) :: members => max (depth value) (depthMembers members)

end

/-- The order of all values. -/
def order (v w : Val) : Ordering := orderWithin (max v.depth w.depth + 1) v w

/-- Whether two values are equal. -/
def same (v w : Val) : Bool := v.order w == .eq

/-- Sorts values by keys, equal ones keeping their order. -/
def sortOn {α : Type} (key : α → Val) (items : List α) : List α :=
  items.mergeSort fun a b => (key a).order (key b) != .gt

/-- The values that count as true: all but null and false. -/
def isTrue : Val → Bool
  | .null => false
  | .bool b => b
  | _ => true

end Val

end TypeSketch.Filter
