import TypeSketch.Filter.Operator

/-!
# Functions of doubles

* `Val.rounded` : a number rounded to an integer;
* `floatFunctions`, `floatFunctions₂`, `scalings` : the named functions of one double, of two, and of a
  double and an integer.
-/

namespace TypeSketch.Filter

/-! ## Rounding -/

/-- The least integer of 64 bits, `-2 ^ 63`. -/
def leastInt : Int := -9223372036854775808

/-- The greatest integer of 64 bits, `2 ^ 63 - 1`. -/
def greatestInt : Int := 9223372036854775807

/-- The whole part of a double, cut off at 64 bits; zero for what is no number. -/
def wholePart (x : Float) : Int :=
  match Double.ofBits? x.toBits with
  | some d =>
    let size := d.mantissa * Nat.pow 2 d.place.toNat / Nat.pow 2 (-d.place).toNat
    max leastInt (min greatestInt (if d.negative then -(size : Int) else size))
  | none => if x.isNaN then 0 else if x < 0 then leastInt else greatestInt

/-- A number rounded to an integer. -/
def Val.rounded (f : Float → Float) (v : Val) : Except Problem Val :=
  match v with
  | .int n => .ok (.int n)
  | v =>
    match v.float? with
    | some x => .ok (.int (wholePart (f x)))
    | none => .error (.wrongType v "number")

/-- The nearest whole double, a tie going to the even one. -/
def roundEven (x : Float) : Float :=
  let near := x.round
  if (near - x).abs == 0.5 then 2.0 * (x / 2.0).round else near

/-- A double towards zero to a whole one. -/
def truncate (x : Float) : Float := if x < 0 then x.ceil else x.floor

/-! ## Functions -/

/-- The exponential less one, also where it is close to zero. -/
def expLessOne (x : Float) : Float :=
  let y := x.exp
  if y == 1.0 then x else if y - 1.0 == -1.0 || y.isInf then y - 1.0 else (y - 1.0) * x / y.log

/-- The logarithm of one and a number more, also where that is small. -/
def logOnePlus (x : Float) : Float :=
  let y := 1.0 + x
  if y == 1.0 then x else if y.isInf || y == 0.0 then y.log else y.log * x / (y - 1.0)

/-- The exponent of the leading bit of a double. -/
def leadingExponent (x : Float) : Float :=
  match Double.ofBits? x.toBits with
  | some d => if d.mantissa = 0 then -1.0 / 0.0 else floatOfInt (d.place + d.mantissa.log2)
  | none => if x.isNaN then x else 1.0 / 0.0

/-- The functions of one double. -/
def floatFunctions : List (String × (Float → Float)) :=
  [("sqrt", Float.sqrt), ("cbrt", Float.cbrt), ("exp", Float.exp), ("exp2", Float.exp2),
    ("exp10", fun x => Float.pow 10.0 x), ("expm1", expLessOne), ("log", Float.log), ("log2", Float.log2),
    ("log10", Float.log10), ("log1p", logOnePlus), ("logb", leadingExponent), ("sin", Float.sin),
    ("cos", Float.cos), ("tan", Float.tan), ("asin", Float.asin), ("acos", Float.acos), ("atan", Float.atan),
    ("sinh", Float.sinh), ("cosh", Float.cosh), ("tanh", Float.tanh), ("asinh", Float.asinh),
    ("acosh", Float.acosh), ("atanh", Float.atanh), ("fabs", Float.abs), ("trunc", truncate),
    ("rint", roundEven), ("nearbyint", roundEven)]

/-- The functions of two doubles. -/
def floatFunctions₂ : List (String × (Float → Float → Float)) :=
  [("pow", Float.pow), ("atan2", Float.atan2), ("fmod", floatRemainder),
    ("fmin", fun x y => if x.isNaN || y < x then y else x), ("fmax", fun x y => if x.isNaN || x < y then y else x),
    ("fdim", fun x y => if x.isNaN || y.isNaN then x + y else if y < x then x - y else 0.0),
    ("copysign", fun x y => if (x.toBits >>> 63) == (y.toBits >>> 63) then x else -x),
    ("drem", fun x y => x - y * roundEven (x / y)), ("scalb", fun x y => x * Float.exp2 y)]

/-- The functions of a double and an integer. -/
def scalings : List (String × (Float → Int → Float)) :=
  [("ldexp", Float.scaleB), ("scalbln", Float.scaleB)]

end TypeSketch.Filter
