import TypeSketch.Name
import TypeSketch.Ty

/-!
# Declarations

One list of fields is written in two styles, as a class with properties and as a structural
interface.

* `Style` : how a declaration writes its header, its members and its footer;
* `classStyle`, `interfaceStyle` : the two styles under a configuration;
* `Style.block` : a whole declaration;
* `analyze` : the properties of an object, in order;
* `Declarations`, `render` : both declarations of an object.
-/

namespace TypeSketch

open Json

/-! ## Type names -/

namespace Ty

/-- The name of a type in a class. -/
def className (config : Config) : Ty → String
  | .integer => config.integerType
  | .float => config.floatType
  | .bool => "bool"
  | .temporal .offset => "DateTimeOffset"
  | .temporal .utc => "DateTimeOffset"
  | .temporal .zoneless => "DateTime"
  | .temporal .plain => "string"
  | .string => "string"
  | .null => "string"
  | .list item => "List<" ++ className config item ++ ">"
  | .object => "object"
  | .unknown => "object"

/-- The name of a type in a structural interface. -/
def structuralName : Ty → String
  | .integer => "number"
  | .float => "number"
  | .bool => "boolean"
  | .string => "string"
  | .temporal _ => "Date"
  | .list item => structuralName item ++ "[]"
  | .null => "any"
  | .object => "object"
  | .unknown => "any"

end Ty

/-! ## Styles -/

/-- How a declaration is written. -/
structure Style where
  typeName : Ty → String
  member : Field → String
  header : String
  footer : String := "\x7d"

/-- A class with a property for every field, the names being in property case. -/
def classStyle (config : Config) : Style where
  typeName := Ty.className config
  member field :=
    config.classIndent ++ config.modifier ++ " " ++ field.ty.className config ++ " "
      ++ Name.toPropertyCase field.name ++ " " ++ config.accessor
  header := "public class " ++ config.className ++ " \x7b"

/-- A structural interface, the names being as they are. -/
def interfaceStyle (config : Config) : Style where
  typeName := Ty.structuralName
  member field := config.interfaceIndent ++ field.name ++ ": " ++ field.ty.structuralName ++ ";"
  header := "interface " ++ config.interfaceName ++ " \x7b"

/-- The lines of the members, each with its line end. -/
def Style.lines (style : Style) : List Field → String
  | [] => ""
  | field :: fields => style.member field ++ "\n" ++ style.lines fields

/-- A declaration: the header, a line for every field in order, and the footer. -/
def Style.block (style : Style) (fields : List Field) : String :=
  style.header ++ "\n" ++ style.lines fields ++ style.footer

/-! ## Objects -/

/-- A member of an object. -/
structure Property where
  name : String
  value : Value

/-- A value where an object was expected. -/
structure NotObject where
  found : Kind
deriving DecidableEq, Repr

/-- The wording of the error. -/
def NotObject.message (e : NotObject) : String :=
  "expected a JSON object at the top level, found " ++ e.found.name

/-- The properties of an object, in order. -/
def analyze : Value → Except NotObject (List Property)
  | .object members => .ok (members.map fun member => ⟨member.1, member.2⟩)
  | other => .error ⟨other.kind⟩

/-- The field of a property. -/
def Property.field (config : Config) (property : Property) : Field :=
  ⟨property.name, Ty.ofValue config property.value⟩

/-- The class declaration of some properties. -/
def classBlock (config : Config) (properties : List Property) : String :=
  (classStyle config).block (properties.map (Property.field config))

/-- The interface declaration of some properties. -/
def interfaceBlock (config : Config) (properties : List Property) : String :=
  (interfaceStyle config).block (properties.map (Property.field config))

/-- Both declarations of an object. -/
structure Declarations where
  classBlock : String
  interfaceBlock : String
deriving DecidableEq, Repr

/-- Both declarations of an object, with their members in the same order. -/
def render (config : Config) (value : Value) : Except NotObject Declarations := do
  let properties ← analyze value
  return ⟨classBlock config properties, interfaceBlock config properties⟩

end TypeSketch
