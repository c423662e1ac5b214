import TypeSketch.Number.Double

/-!
# JSON values

* `Number` : an integer of 64 bits, signed or unsigned, or a double;
* `Value` : a JSON value, the members of an object in order;
* `Members.put`, `Members.ofPairs` : a repeated key keeps its first place and takes its last value;
* `Kind` : the six kinds of value and their names.
-/

namespace TypeSketch.Json

/-- The integers that fit 64 bits, signed or unsigned: those from `-2 ^ 63` to `2 ^ 64 - 1`. -/
def Fits64 (n : Int) : Prop := -9223372036854775808 ≤ n ∧ n < 18446744073709551616

instance (n : Int) : Decidable (Fits64 n) := by unfold Fits64; infer_instance

/-- A JSON number: an integer of 64 bits or a double. -/
inductive Number where
  | integer (value : Int) (fits : Fits64 value)
  | double (value : Double)
deriving DecidableEq, Repr

/-- A JSON value. The members of an object keep their order. -/
inductive Value where
  | null
  | bool (value : Bool)
  | number (value : Number)
  | string (value : String)
  | array (items : List Value)
  | object (members : List (String × Value))
deriving Repr, Inhabited

/-! ## Members -/

namespace Members

/-- Sets the value of a key, in place if the key is there and at the end if it is not. -/
def put {α : Type} (key : String) (value : α) : List (String × α) → List (String × α)
  | [] => [(key, value)]
  | (k, v) :: rest => if k = key then (key, value) :: rest else (k, v) :: put key value rest

/-- The members that a list of pairs stands for, the pairs being set from left to right. -/
def ofPairs {α : Type} (pairs : List (String × α)) : List (String × α) :=
  pairs.foldl (fun members pair => put pair.1 pair.2 members) []

/-- The value of a key. -/
def get? {α : Type} (key : String) (members : List (String × α)) : Option α :=
  (members.find? fun member => member.1 = key).map Prod.snd

end Members

/-! ## Kinds -/

/-- The kind of a value. -/
inductive Kind where
  | number | boolean | string | array | null | object
deriving DecidableEq, Repr

/-- The name of a kind in the vocabulary of JSON. -/
def Kind.name : Kind → String
  | .number => "number"
  | .boolean => "boolean"
  | .string => "string"
  | .array => "array"
  | .null => "null"
  | .object => "object"

/-- The kind of a value. -/
def Value.kind : Value → Kind
  | .null => .null
  | .bool _ => .boolean
  | .number _ => .number
  | .string _ => .string
  | .array _ => .array
  | .object _ => .object

end TypeSketch.Json
