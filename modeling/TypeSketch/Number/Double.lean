/-!
# Finite doubles

A `Double` is a finite number of the 64-bit binary format, kept as its sign, its mantissa and the
exponent of its last place, so that every question about it is one about natural numbers.

* `Double.ofRatio?` : the double nearest to a quotient, a tie going to the even mantissa;
* `Double.mul?`, `Double.div?` : one rounding of the exact product or quotient;
* `Double.ofScaled?` : a decimal significand times a power of ten, by one rounded scaling step;
* `Double.isWhole`, `Double.magnitudeAtMost` : whether the exact value is an integer, and its size.
-/

namespace TypeSketch

/-- The mantissas and last places that stand for a finite double: 53 bits, with the leading bit set
unless the last place is the lowest one. -/
def Canonical (mantissa : Nat) (place : Int) : Prop :=
  mantissa < Nat.pow 2 53 ∧ -1074 ≤ place ∧ place ≤ 971 ∧ (Nat.pow 2 52 ≤ mantissa ∨ place = -1074)

instance (mantissa : Nat) (place : Int) : Decidable (Canonical mantissa place) := by
  unfold Canonical; infer_instance

/-- A finite double: `mantissa * 2 ^ place`, negated if `negative`. -/
structure Double where
  negative : Bool
  mantissa : Nat
  place : Int
  canonical : Canonical mantissa place := by decide
deriving DecidableEq, Repr

/-! ## Rounding a quotient -/

/-- The natural number nearest to `num / den`, a tie going to the even one. -/
def roundHalfEven (num den : Nat) : Nat :=
  let quotient := num / den
  let rest := num % den
  if 2 * rest < den then quotient
  else if den < 2 * rest then quotient + 1
  else if quotient % 2 = 0 then quotient else quotient + 1

/-- The exponent of the leading bit of `num / den`. -/
def leadingBit (num den : Nat) : Int :=
  let estimate : Int := (num.log2 : Int) - den.log2
  if den * Nat.pow 2 estimate.toNat ≤ num * Nat.pow 2 (-estimate).toNat then estimate else estimate - 1

namespace Double

/-- The zero of each sign. -/
def zero (negative : Bool) : Double := { negative, mantissa := 0, place := -1074 }

/-- The double with these parts, if there is one. -/
def ofParts? (negative : Bool) (mantissa : Nat) (place : Int) : Option Double :=
  if canonical : Canonical mantissa place then some { negative, mantissa, place, canonical } else none

/-- The double nearest to `num / den`; `none` where that is beyond the largest double. -/
def ofRatio? (negative : Bool) (num den : Nat) : Option Double :=
  if num = 0 then some (zero negative)
  else
    let place := max (leadingBit num den - 52) (-1074)
    let mantissa := roundHalfEven (num * Nat.pow 2 (-place).toNat) (den * Nat.pow 2 place.toNat)
    if mantissa = Nat.pow 2 53 then ofParts? negative (Nat.pow 2 52) (place + 1)
    else ofParts? negative mantissa place

/-- The double nearest to `mantissa * 2 ^ place / den`. -/
def ofDyadic? (negative : Bool) (mantissa : Nat) (place : Int) (den : Nat) : Option Double :=
  ofRatio? negative (mantissa * Nat.pow 2 place.toNat) (den * Nat.pow 2 (-place).toNat)

/-- The double nearest to a natural number. -/
def ofNat? (n : Nat) : Option Double := ofRatio? false n 1

/-! ## Arithmetic -/

/-- The number with the other sign. -/
def neg (x : Double) : Double := { x with negative := !x.negative }

/-- The rounded product. -/
def mul? (x y : Double) : Option Double :=
  ofDyadic? (x.negative != y.negative) (x.mantissa * y.mantissa) (x.place + y.place) 1

/-- The rounded quotient by a number that is not zero. -/
def div? (x y : Double) : Option Double :=
  ofDyadic? (x.negative != y.negative) x.mantissa (x.place - y.place) y.mantissa

/-- The largest exponent of a power of ten that is a finite double. -/
def maxPower : Nat := 308

/-- `10 ^ k` rounded to a double. -/
def powerOfTen? (k : Nat) : Option Double := ofNat? (Nat.pow 10 k)

/-- Divides by `10 ^ k`. Beyond the largest power this takes several rounded steps, which end as
soon as nothing is left. -/
def divPower? (x : Double) (k : Nat) : Option Double :=
  if k ≤ maxPower then do x.div? (← powerOfTen? k)
  else if x.mantissa = 0 then some x
  else do divPower? (← x.div? (← powerOfTen? maxPower)) (k - maxPower)
termination_by k
decreasing_by simp only [maxPower] at *; omega

/-- The double read for `significand * 10 ^ exponent`. The significand is rounded first and then
scaled by a rounded power of ten, so the result may differ from the nearest double; `none` where
it would be infinite. -/
def ofScaled? (significand : Nat) (exponent : Int) : Option Double := do
  let x ← ofNat? significand
  if exponent < 0 then x.divPower? exponent.natAbs
  else if x.mantissa = 0 then some x
  else if exponent.toNat ≤ maxPower then x.mul? (← powerOfTen? exponent.toNat)
  else none

/-! ## Exact value -/

/-- Whether the exact value is an integer. -/
def isWhole (x : Double) : Bool :=
  if x.place < 0 then x.mantissa % Nat.pow 2 x.place.natAbs = 0 else true

/-- Whether the exact value lies between `-bound` and `bound`. -/
def magnitudeAtMost (x : Double) (bound : Nat) : Bool :=
  x.mantissa * Nat.pow 2 x.place.toNat ≤ bound * Nat.pow 2 (-x.place).toNat

/-! ## The 64-bit pattern -/

/-- The bits of the number in the interchange format. -/
def toBits (x : Double) : UInt64 :=
  let sign := if x.negative then Nat.pow 2 63 else 0
  if x.mantissa < Nat.pow 2 52 then UInt64.ofNat (sign + x.mantissa)
  else UInt64.ofNat (sign + (x.place + 1075).toNat * Nat.pow 2 52 + (x.mantissa - Nat.pow 2 52))

/-- The finite number with these bits. -/
def ofBits? (bits : UInt64) : Option Double :=
  let field : Nat := bits.toNat / Nat.pow 2 52 % Nat.pow 2 11
  let fraction : Nat := bits.toNat % Nat.pow 2 52
  let negative := decide (Nat.pow 2 63 ≤ bits.toNat)
  if field = 0 then ofParts? negative fraction (-1074)
  else ofParts? negative (fraction + Nat.pow 2 52) ((field : Int) - 1075)

end Double

end TypeSketch
