import TypeSketch.Number.Double

/-!
# The shortest decimal of a double

Among the decimals that read back as a given double, `Double.shortest` takes one with the fewest
digits, and of those the nearest to the exact value.

* `Decimal` : `digits * 10 ^ exponent`;
* `Double.shortest` : that decimal of a double that is not zero;
* `Layout` : which exponents are written in positional notation, and how the others are marked;
* `Double.write` : the text of a double in a layout.
-/

namespace TypeSketch

/-- The number `digits * 10 ^ exponent`. -/
structure Decimal where
  digits : Nat
  exponent : Int
deriving DecidableEq, Repr

namespace Decimal

/-- Moves zeros at the end of the digits into the exponent. -/
def trim (fuel : Nat) (d : Decimal) : Decimal :=
  match fuel with
  | 0 => d
  | fuel + 1 => if d.digits % 10 = 0 then trim fuel ⟨d.digits / 10, d.exponent + 1⟩ else d

end Decimal

namespace Double

/-! ## Points of a decimal grid -/

/-- A positive fraction `num / den`. -/
structure Quotient where
  num : Nat
  den : Nat

/-- The value of `quarters * 2 ^ (place - 2)` counted in steps of `10 ^ grid`. -/
def steps (quarters : Nat) (place grid : Int) : Quotient :=
  ⟨quarters * Nat.pow 2 (place - 2).toNat * Nat.pow 10 (-grid).toNat,
    Nat.pow 2 (2 - place).toNat * Nat.pow 10 grid.toNat⟩

/-- The last number of quarter units below the mantissa that still rounds to it: half a unit, or a
quarter where the next double below is nearer. -/
def lowerGap (x : Double) : Nat := if x.mantissa = Nat.pow 2 52 ∧ -1074 < x.place then 1 else 2

/-- Whether `n * 10 ^ grid` rounds to `x`. The ends of the interval round to an even mantissa. -/
def readsBack (x : Double) (grid : Int) (n : Nat) : Bool :=
  let low := steps (4 * x.mantissa - x.lowerGap) x.place grid
  let high := steps (4 * x.mantissa + 2) x.place grid
  if x.mantissa % 2 = 0 then low.num ≤ n * low.den && n * high.den ≤ high.num
  else low.num < n * low.den && n * high.den < high.num

/-- The point of the grid nearest to `x` among its two neighbours that read back, a tie going to
the even one. -/
def nearestOn (x : Double) (grid : Int) : Option Nat :=
  let exact := steps (4 * x.mantissa) x.place grid
  let below := exact.num / exact.den
  match x.readsBack grid below, x.readsBack grid (below + 1) with
  | false, false => none
  | true, false => some below
  | false, true => some (below + 1)
  | true, true => some (roundHalfEven exact.num exact.den)

/-- The exponent of the first decimal digit, searched upward from an estimate that is too low. -/
def decimalExponent (x : Double) : Int :=
  let start : Int := ((x.mantissa.log2 : Int) + x.place) * 30103 / 100000 - 2
  let reaches (e : Int) : Bool :=
    let q := steps (4 * x.mantissa) x.place e
    q.den ≤ q.num
  (List.range 5).foldl (fun e _ => if reaches (e + 1) then e + 1 else e) start

/-- The shortest decimal that reads back as `x`, without its sign. Seventeen digits always do. -/
def shortest (x : Double) : Decimal :=
  let first := x.decimalExponent
  let hit := (List.range 17).findSome? fun (more : Nat) =>
    (x.nearestOn (first - more)).map fun digits => (⟨digits, first - more⟩ : Decimal)
  (hit.getD ⟨0, 0⟩).trim 17

end Double

/-! ## Writing -/

/-- How a decimal is laid out: exponents of the first digit from `least` to `greatest` are written
positionally, the others with an exponent whose positive sign may be shown. -/
structure Layout where
  least : Int
  greatest : Int
  plusSign : Bool

namespace Layout

/-- The text of `digits`, with the first digit at `10 ^ lead`. -/
def write (layout : Layout) (digits : List Char) (lead : Int) : List Char :=
  if layout.least ≤ lead ∧ lead ≤ layout.greatest then
    if lead < 0 then '0' :: '.' :: (List.replicate (lead.natAbs - 1) '0' ++ digits)
    else
      let whole := lead.toNat + 1
      let head := digits.take whole ++ List.replicate (whole - digits.length) '0'
      let tail := digits.drop whole
      head ++ '.' :: (if tail.isEmpty then ['0'] else tail)
  else
    let mantissa := match digits with
      | first :: second :: rest => first :: '.' :: second :: rest
      | few => few
    let sign := if lead < 0 then ['-'] else if layout.plusSign then ['+'] else []
    mantissa ++ 'e' :: (sign ++ Nat.toDigits 10 lead.natAbs)

end Layout

namespace Double

/-- The text of a double: its shortest digits in a layout, or `0.0`, after a minus sign if it is
negative. -/
def write (layout : Layout) (x : Double) : List Char :=
  let sign := if x.negative then ['-'] else []
  if x.mantissa = 0 then sign ++ ['0', '.', '0']
  else
    let d := x.shortest
    let digits := Nat.toDigits 10 d.digits
    sign ++ layout.write digits (d.exponent + digits.length - 1)

end Double

end TypeSketch
