import TypeSketch.Config
import TypeSketch.Json.Value

/-!
# Inferred types

* `Ty` : the type of a value, independent of any notation;
* `Ty.ofValue` : the type of a value. Objects are not looked into, and of an array the first item
  alone decides;
* `Field` : a name and its type.
-/

namespace TypeSketch

open Json

/-- The type of a value. -/
inductive Ty where
  | integer
  | float
  | bool
  | string
  /-- A text of temporal form. -/
  | temporal (kind : Temporal)
  /-- An array, with the type of its first item. -/
  | list (item : Ty)
  /-- A value known to be null and nothing else. -/
  | null
  /-- A nested object. -/
  | object
  /-- The item of an empty array. -/
  | unknown
deriving DecidableEq, Repr

/-- A member of a declaration. -/
structure Field where
  name : String
  ty : Ty
deriving DecidableEq, Repr

/-- The largest integer that a double tells from its neighbours, `2 ^ 53 - 1`. -/
def maxSafeInteger : Nat := 9007199254740991

namespace Json.Number

/-- Whether the exact value is an integer. -/
def isWhole : Number → Bool
  | .integer _ _ => true
  | .double x => x.isWhole

/-- Whether the exact value lies between `-bound` and `bound`. -/
def magnitudeAtMost (bound : Nat) : Number → Bool
  | .integer n _ => n.natAbs ≤ bound
  | .double x => x.magnitudeAtMost bound

end Json.Number

namespace Ty

/-- The type of a number under a policy. -/
def ofNumber (policy : NumberPolicy) (n : Number) : Ty :=
  if n.isWhole then
    match policy with
    | .fractional => .integer
    | .safeInteger => if n.magnitudeAtMost maxSafeInteger then .integer else .float
  else .float

/-- The type of a string under a policy. -/
def ofString (policy : TemporalPolicy) (s : String) : Ty :=
  match Temporal.classifyUnder policy s with
  | .plain => .string
  | kind => .temporal kind

/-- The type of a value. -/
def ofValue (config : Config) : Value → Ty
  | .null => .null
  | .bool _ => .bool
  | .number n => ofNumber config.numberPolicy n
  | .string s => ofString config.temporalPolicy s
  | .array [] => .list .unknown
  | .array (first :: _) => .list (ofValue config first)
  | .object _ => .object

end Ty

end TypeSketch
