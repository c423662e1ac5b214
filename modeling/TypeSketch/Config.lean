import TypeSketch.Temporal

/-!
# Rendering configuration

* `NumberPolicy` : which whole numbers count as integers;
* `Config` : names, indents and type names of the two declarations, and the two policies;
* `Config.rename` : the configuration with other declaration names.
-/

namespace TypeSketch

/-- Which whole numbers are integers: those a double can tell from their neighbours, or all. -/
inductive NumberPolicy where
  | safeInteger | fractional
deriving DecidableEq, Repr

/-- How declarations are rendered. -/
structure Config where
  /-- The member modifier of the class declaration. -/
  modifier : String := "public"
  /-- The accessor of every member of the class declaration. -/
  accessor : String := "\x7b get; set; \x7d"
  className : String := "ClassName"
  interfaceName : String := "interfaceName"
  classIndent : String := "    "
  interfaceIndent : String := "  "
  integerType : String := "int"
  floatType : String := "float"
  numberPolicy : NumberPolicy := .safeInteger
  temporalPolicy : TemporalPolicy := .pattern
deriving DecidableEq, Repr

namespace Config

/-- The configuration with other declaration names. -/
def rename (config : Config) (className interfaceName : String) : Config :=
  { config with className, interfaceName }

end Config

end TypeSketch
