import TypeSketch.Filter.Term
import TypeSketch.Filter.Value

/-!
# Errors of filters

* `Problem` : an error, either a value or a text with values in it;
* `Problem.toVal` : what a handler receives;
* `Problem.show` : the wording of an error that nothing handles;
* `Val.asInt`, `Val.asFloat`, `Val.asStr`, `Val.asArr` : values of one type, or an error.
-/

namespace TypeSketch.Filter

open Text

/-- A part of an error text. -/
inductive Problem.Part where
  | text (s : String)
  | val (v : Val)

/-- An error: a value, or a text with values in it. -/
inductive Problem where
  | value (v : Val)
  | parts (parts : List Problem.Part)

namespace Problem

/-- An error with a text. -/
def message (s : String) : Problem := .value (.str s)

/-- A value that is not of the type wanted. -/
def wrongType (v : Val) (type : String) : Problem :=
  .parts [.text "cannot use ", .val v, .text " as ", .text type]

/-- A value that has no such index. -/
def noIndex (v index : Val) : Problem :=
  .parts [.text "cannot index ", .val v, .text " with ", .val index]

/-- Operands that an operator does not take. -/
def noMath (op : MathOp) (l r : Val) : Problem :=
  .parts [.text "cannot calculate ", .val l, .text " ", .text op.sign, .text " ", .val r]

/-- A filter that is no path. -/
def noPath : Problem := .parts [.text "invalid path expression"]

/-- A part of an error text in the value that a handler receives. -/
def Part.plain : Part → String
  | .text s => s
  | .val v => v.text

/-- A part of an error text where nothing handles the error. -/
def Part.show : Part → String
  | .text s => "Str(" ++ literal s ++ ")"
  | .val v => "Val(" ++ v.show ++ ")"

/-- The value that a handler receives. -/
def toVal : Problem → Val
  | .value v => v
  | .parts ps => .str (String.join (ps.map Part.plain))

/-- The wording of an error that nothing handles. -/
def «show» : Problem → String
  | .value v => "Error(Val(" ++ v.show ++ "))"
  | .parts ps => "Error(Str([" ++ ", ".intercalate (ps.map Part.show) ++ "]))"

end Problem

/-! ## Types -/

namespace Val

/-- An integer. -/
def asInt : Val → Except Problem Int
  | .int n => .ok n
  | v => .error (.wrongType v "integer")

/-- A number as a double. -/
def asFloat (v : Val) : Except Problem Float :=
  match v.float? with
  | some x => .ok x
  | none => .error (.wrongType v "floating-point number")

/-- A string. -/
def asStr : Val → Except Problem String
  | .str s => .ok s
  | v => .error (.wrongType v "string")

/-- An array. -/
def asArr : Val → Except Problem (List Val)
  | .arr items => .ok items
  | v => .error (.wrongType v "array")

end Val

end TypeSketch.Filter
