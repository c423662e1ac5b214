import TypeSketch.Filter.Problem

/-!
# Operators on values

* `MathOp.apply` : arithmetic on numbers, and what the signs mean for texts, arrays and objects;
* `Comparison.holds` : comparisons by the order of all values;
* `Val.negate` : the sign of a number changed.
-/

namespace TypeSketch.Filter

open Json

/-! ## Doubles -/

/-- The rest of a division of doubles, with the sign of the dividend. -/
def floatRemainder (x y : Float) : Float :=
  match Double.ofBits? x.toBits, Double.ofBits? y.toBits with
  | some a, some b =>
    if b.mantissa = 0 then 0.0 / 0.0
    else
      let place := min a.place b.place
      let digits (d : Double) : Nat := d.mantissa * Nat.pow 2 (d.place - place).toNat
      match Double.ofDyadic? a.negative (digits a % digits b) place 1 with
      | some rest => Float.ofBits rest.toBits
      | none => 0.0 / 0.0
  | some _, none => if y.isNaN then y else x
  | none, _ => 0.0 / 0.0

/-- An operation on doubles. -/
def MathOp.onFloats (op : MathOp) (x y : Float) : Float :=
  match op with
  | .add => x + y
  | .sub => x - y
  | .mul => x * y
  | .div => x / y
  | .rem => floatRemainder x y

/-- An operation on numbers. Integers stay integers unless they are divided. -/
def MathOp.onNumbers? (op : MathOp) (l r : Val) : Option Val :=
  match l, r with
  | .int m, .int n =>
    match op with
    | .add => some (.int (m + n))
    | .sub => some (.int (m - n))
    | .mul => some (.int (m * n))
    | .div => some (.float (floatOfInt m / floatOfInt n))
    | .rem => if n = 0 then none else some (.int (m.tmod n))
  | l, r => do return .float (op.onFloats (← l.float?) (← r.float?))

/-! ## Texts and objects -/

/-- A text that is repeated, or null if it is not even written once. -/
def repeated (s : String) (n : Int) : Val :=
  if 0 < n then .str (String.join (List.replicate n.toNat s)) else .null

/-- The text of a list of characters, as a value. -/
def Val.ofChars (s : List Char) : Val := .str (String.ofList s)

/-- The pieces of a text between the places where a separator stands. -/
def splitChars (separator : List Char) (piece : List Char) (skip : Nat) : List Char → List (List Char)
  | [] => [piece.reverse]
  | c :: rest =>
    match skip with
    | skip + 1 => splitChars separator piece skip rest
    | 0 =>
      if separator.isPrefixOf (c :: rest) then piece.reverse :: splitChars separator [] (separator.length - 1) rest
      else splitChars separator (c :: piece) 0 rest

/-- The pieces of a text: none of an empty one, its characters for an empty separator. -/
def splitText (s separator : String) : List Val :=
  if s.isEmpty then []
  else if separator.isEmpty then s.toList.map fun c => .ofChars [c]
  else (splitChars separator.toList [] 0 s.toList).map Val.ofChars

mutual

/-- What a value becomes when another is merged into it. -/
def Val.mergedWith (l : Val) : Val → Val
  | .obj added =>
    match l with
    | .obj members => .obj (deepMerge members added)
    | _ => .obj added
  | r => r

/-- Members with others set after them, objects being merged with objects. -/
def deepMerge (members : List (String × Val)) : List (String × Val) → List (String × Val)
  | [] => members
  | (key, value) :: added =>
    match Members.get? key members with
    | some old => deepMerge (Members.put key (old.mergedWith value) members) added
    | none => deepMerge (Members.put key value members) added

end

/-- Members with others set after them. -/
def addMembers (members added : List (String × Val)) : List (String × Val) :=
  added.foldl (fun members pair => Members.put pair.1 pair.2 members) members

/-! ## Operators -/

/-- A value as operators take it: a number that was kept as it is written becomes a double. -/
def Val.computed : Val → Val
  | .decimal text => .float (floatOfText text)
  | v => v

/-- The result of an arithmetic operator. -/
def MathOp.apply (op : MathOp) (l r : Val) : Except Problem Val :=
  match op, l, r with
  | .add, .null, r => .ok r
  | .add, l, .null => .ok l
  | .add, .str s, .str t => .ok (.str (s ++ t))
  | .add, .arr xs, .arr ys => .ok (.arr (xs ++ ys))
  | .add, .obj ms, .obj ns => .ok (.obj (addMembers ms ns))
  | .sub, .arr xs, .arr ys => .ok (.arr (xs.filter fun x => !ys.any (Val.same x)))
  | .mul, .str s, .int n => .ok (repeated s n)
  | .mul, .int n, .str s => .ok (repeated s n)
  | .mul, .obj ms, .obj ns => .ok (.obj (deepMerge ms ns))
  | .div, .str s, .str t => .ok (.arr (splitText s t))
  | op, l, r =>
    match op.onNumbers? l r with
    | some v => .ok v
    | none => .error (.noMath op l.computed r.computed)

/-- Whether a comparison holds. -/
def Comparison.holds (op : Comparison) (l r : Val) : Bool :=
  match op with
  | .eq => l.same r
  | .ne => !l.same r
  | .lt => l.order r == .lt
  | .le => l.order r != .gt
  | .gt => l.order r == .gt
  | .ge => l.order r != .lt

/-- A number with the other sign. -/
def Val.negate : Val → Except Problem Val
  | .int n => .ok (.int (-n))
  | v =>
    match v.float? with
    | some x => .ok (.float (-x))
    | none => .error (.wrongType v "number")

end TypeSketch.Filter
