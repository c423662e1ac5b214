import TypeSketch.Json.Fault
import TypeSketch.Number.Shortest
import TypeSketch.Json.Printer
import TypeSketch.Text.Literal

/-!
# Why a configuration is rejected

* `Key` : the ten fields of a configuration, in order, and their names;
* `Found` : what stood where something else was expected;
* `Complaint` : the causes, with their wording;
* `Step`, `pathText` : the way from the top of the document to the place of the error;
* `Rejection` : a complaint, its path and its place.
-/

namespace TypeSketch.Config

open Json Text

/-- The fields of a configuration. -/
inductive Key where
  | modifier | accessor | className | interfaceName | classIndent | interfaceIndent | integerType
  | floatType | numberPolicy | temporalPolicy
deriving DecidableEq, Repr

namespace Key

/-- The fields in order. -/
def all : List Key :=
  [.modifier, .accessor, .className, .interfaceName, .classIndent, .interfaceIndent, .integerType,
    .floatType, .numberPolicy, .temporalPolicy]

/-- The name of a field in a configuration file. -/
def name : Key → String
  | .modifier => "modifier"
  | .accessor => "accessor"
  | .className => "class_name"
  | .interfaceName => "interface_name"
  | .classIndent => "class_indent"
  | .interfaceIndent => "interface_indent"
  | .integerType => "integer_type"
  | .floatType => "float_type"
  | .numberPolicy => "number_policy"
  | .temporalPolicy => "temporal_policy"

/-- The field of a name. -/
def ofName? (name : String) : Option Key := all.find? fun key => key.name = name

end Key

/-! ## Complaints -/

/-- What stood where something else was expected. -/
inductive Found where
  | null
  | bool (value : Bool)
  | number (value : Number)
  | string (value : String)
  | sequence
  | map
deriving DecidableEq, Repr

/-- The description of what was found. -/
def Found.text : Found → String
  | .null => "null"
  | .bool value => "boolean `" ++ (if value then "true" else "false") ++ "`"
  | .number n@(.integer _ _) => "integer `" ++ String.ofList n.write ++ "`"
  | .number n@(.double _) => "floating point `" ++ String.ofList n.write ++ "`"
  | .string value => "string " ++ literal value
  | .sequence => "sequence"
  | .map => "map"

/-- Why a configuration is rejected. -/
inductive Complaint where
  | malformed (cause : Cause)
  | unknownField (name : String)
  | duplicateField (key : Key)
  | unknownVariant (name : String) (allowed : List String)
  | invalidType (found : Found) (expected : String)
deriving DecidableEq, Repr

/-- The choice between some names. -/
def oneOf : List String → String
  | [] => "nothing"
  | [only] => "`" ++ only ++ "`"
  | [one, other] => "`" ++ one ++ "` or `" ++ other ++ "`"
  | names => "one of " ++ ", ".intercalate (names.map fun name => "`" ++ name ++ "`")

/-- The wording of a complaint. -/
def Complaint.message : Complaint → String
  | .malformed cause => cause.message
  | .unknownField name =>
    "unknown field `" ++ name ++ "`, expected " ++ oneOf (Key.all.map Key.name)
  | .duplicateField key => "duplicate field `" ++ key.name ++ "`"
  | .unknownVariant name allowed => "unknown variant `" ++ name ++ "`, expected " ++ oneOf allowed
  | .invalidType found expected => "invalid type: " ++ found.text ++ ", expected " ++ expected

/-! ## Paths -/

/-- A step from a value to one inside it; `unclear` where a key could not be read. -/
inductive Step where
  | key (name : String)
  | index (i : Nat)
  | unclear
deriving DecidableEq, Repr

/-- The text of some steps, a point standing before every key but the first step. -/
def stepsText (first : Bool) : List Step → String
  | [] => ""
  | .index i :: steps => "[" ++ toString i ++ "]" ++ stepsText false steps
  | .key name :: steps => (if first then "" else ".") ++ name ++ stepsText false steps
  | .unclear :: steps => (if first then "" else ".") ++ "?" ++ stepsText false steps

/-- The text of a path. -/
def pathText (path : List Step) : String := if path.isEmpty then "." else stepsText true path

/-- A complaint, the path to the value it is about, and the bytes unread when it was made. -/
structure Rejection where
  path : List Step
  complaint : Complaint
  unread : Nat
deriving DecidableEq, Repr

namespace Rejection

/-- A fault of the text, with the path to the value it is in. -/
def ofFault (path : List Step) (fault : Fault) : Rejection := ⟨path, .malformed fault.cause, fault.unread⟩

/-- The rejection of a value of which the rejected one is a part. -/
def within (step : Step) (r : Rejection) : Rejection := { r with path := step :: r.path }

/-- The wording of a rejection of `text`. -/
def message (r : Rejection) (text : String) : String :=
  "invalid configuration (" ++ pathText r.path ++ "): " ++ messageAt r.complaint.message r.unread text

end Rejection

end TypeSketch.Config
