import TypeSketch.Proofs.Declaration
import TypeSketch.Proofs.Numbers

/-!
# What declarations depend on

* `Ty.Alike` : types that differ at most in the choice between an integer and a float;
* `alike_mapNumbers` : neither the numbers of a value nor the policy for numbers decides more of its
  type than that choice;
* `Ty.Alike.structuralName_eq`, `Ty.Alike.className_eq` : an interface never shows the choice, and a class
  only if it names the two types differently;
* `Config.SameInterface`, `Config.SameClass` : what of a configuration a declaration depends on;
* `render_depends` : and that it depends on nothing else.
-/

namespace TypeSketch

open Json

variable {config config' : Config}

/-! ## Types -/

/-- Types that differ at most in the choice between an integer and a float. -/
inductive Ty.Alike : Ty → Ty → Prop
  | same (ty : Ty) : Alike ty ty
  | integer_float : Alike .integer .float
  | float_integer : Alike .float .integer
  | list {item item' : Ty} (h : Alike item item') : Alike (.list item) (.list item')

namespace Ty

theorem ofNumber_eq (policy : NumberPolicy) (n : Number) :
    ofNumber policy n = .integer ∨ ofNumber policy n = .float := by
  unfold ofNumber
  split
  · cases policy with
    | fractional => exact .inl rfl
    | safeInteger =>
      dsimp only
      split
      · exact .inl rfl
      · exact .inr rfl
  · exact .inr rfl

theorem alike_ofNumber (policy policy' : NumberPolicy) (n n' : Number) :
    Alike (ofNumber policy n) (ofNumber policy' n') := by
  rcases ofNumber_eq policy n with h | h <;> rcases ofNumber_eq policy' n' with h' | h' <;> rw [h, h']
  · exact .same _
  · exact .integer_float
  · exact .float_integer
  · exact .same _

/-- Other numbers and another policy for numbers leave the type of a value as it is but for the choice
between an integer and a float, however deep in lists. -/
theorem alike_mapNumbers (temporal : config.temporalPolicy = config'.temporalPolicy) (f : Number → Number)
    (value : Value) : Alike (ofValue config value) (ofValue config' (value.mapNumbers f)) := by
  induction value using Value.nested with
  | null => exact .same _
  | bool b => exact .same _
  | number n => exact alike_ofNumber ..
  | string s =>
    rw [Value.mapNumbers, ofValue, ofValue, temporal]
    exact .same _
  | array items ih =>
    cases items with
    | nil => exact .same _
    | cons first rest => exact .list (ih first List.mem_cons_self)
  | object members ih => exact .same _

theorem alike_ofValue (temporal : config.temporalPolicy = config'.temporalPolicy) (value : Value) :
    Alike (ofValue config value) (ofValue config' value) := by
  rw [← congrArg (ofValue config') value.mapNumbers_id]
  exact alike_mapNumbers temporal id value

theorem Alike.structuralName_eq {ty ty' : Ty} (h : Alike ty ty') : ty.structuralName = ty'.structuralName := by
  induction h with
  | same ty => rfl
  | integer_float => rfl
  | float_integer => rfl
  | list _ ih => rw [structuralName, structuralName, ih]

theorem Alike.className_eq {ty ty' : Ty} (h : Alike ty ty') (names : config.integerType = config.floatType) :
    ty.className config = ty'.className config := by
  induction h with
  | same ty => rfl
  | integer_float => exact names
  | float_integer => exact names.symm
  | list _ ih => rw [className, className, ih]

theorem ofValue_congr (temporal : config.temporalPolicy = config'.temporalPolicy)
    (numbers : config.numberPolicy = config'.numberPolicy) (value : Value) :
    ofValue config value = ofValue config' value := by
  induction value using Value.nested with
  | null => rfl
  | bool b => rfl
  | number n => rw [ofValue, ofValue, numbers]
  | string s => rw [ofValue, ofValue, temporal]
  | array items ih =>
    cases items with
    | nil => rfl
    | cons first rest => rw [ofValue, ofValue, ih first List.mem_cons_self]
  | object members ih => rfl

theorem className_congr (integers : config.integerType = config'.integerType)
    (floats : config.floatType = config'.floatType) (ty : Ty) : ty.className config = ty.className config' := by
  induction ty with
  | integer => exact integers
  | float => exact floats
  | list item ih => rw [className, className, ih]
  | temporal kind => cases kind <;> rfl
  | bool => rfl
  | string => rfl
  | null => rfl
  | object => rfl
  | unknown => rfl

end Ty

/-! ## Configurations -/

namespace Config

/-- Two configurations agree on the name and the indent of the interface and on what is temporal. -/
structure SameInterface (config config' : Config) : Prop where
  interfaceName : config.interfaceName = config'.interfaceName
  interfaceIndent : config.interfaceIndent = config'.interfaceIndent
  temporalPolicy : config.temporalPolicy = config'.temporalPolicy

/-- Two configurations agree on everything but the name and the indent of the interface. -/
structure SameClass (config config' : Config) : Prop where
  modifier : config.modifier = config'.modifier
  accessor : config.accessor = config'.accessor
  className : config.className = config'.className
  classIndent : config.classIndent = config'.classIndent
  integerType : config.integerType = config'.integerType
  floatType : config.floatType = config'.floatType
  numberPolicy : config.numberPolicy = config'.numberPolicy
  temporalPolicy : config.temporalPolicy = config'.temporalPolicy

end Config

/-! ## Declarations -/

theorem interfaceLine_congr (h : config.SameInterface config') (member : String × Value) :
    interfaceLine config member = interfaceLine config' member := by
  rw [interfaceLine, interfaceLine, h.interfaceIndent, (Ty.alike_ofValue h.temporalPolicy member.2).structuralName_eq]

theorem interfaceText_congr (h : config.SameInterface config') (members : List (String × Value)) :
    interfaceText config members = interfaceText config' members := by
  have lines : interfaceLine config = interfaceLine config' := funext (interfaceLine_congr h)
  unfold interfaceText
  rw [h.interfaceName, lines]

theorem classLine_congr (h : config.SameClass config') (member : String × Value) :
    classLine config member = classLine config' member := by
  rw [classLine, classLine, h.classIndent, h.modifier, h.accessor,
    Ty.ofValue_congr h.temporalPolicy h.numberPolicy, Ty.className_congr h.integerType h.floatType]

theorem classText_congr (h : config.SameClass config') (members : List (String × Value)) :
    classText config members = classText config' members := by
  have lines : classLine config = classLine config' := funext (classLine_congr h)
  unfold classText
  rw [h.className, lines]

/-- **The declarations of a value** depend on no more than they show. The interface is the same under
configurations that agree on its name, its indent and on what is temporal; the class is the same under
configurations that agree on everything but the name and the indent of the interface; and the value
alone decides whether there are declarations, and if not, why. -/
theorem render_depends (config config' : Config) (value : Value) :
    (config.SameInterface config' →
      (render config value).map Declarations.interfaceBlock = (render config' value).map Declarations.interfaceBlock) ∧
    (config.SameClass config' →
      (render config value).map Declarations.classBlock = (render config' value).map Declarations.classBlock) ∧
    ∀ e, render config value = .error e ↔ render config' value = .error e := by
  by_cases object : value.kind = .object
  · obtain ⟨members, rfl⟩ := kind_eq_object_iff.1 object
    rw [render_object, render_object]
    refine ⟨fun h => ?_, fun h => ?_, fun e => ?_⟩
    · rw [Except.map, Except.map, interfaceText_congr h]
    · rw [Except.map, Except.map, classText_congr h]
    · constructor <;> intro h <;> cases h
  · rw [render_eq_error config object, render_eq_error config' object]
    exact ⟨fun _ => rfl, fun _ => rfl, fun _ => Iff.rfl⟩

/-- An object with a list of one integer that a double does not tell from its neighbours. -/
def wideList : Value := .object [("a", .array [.number (.integer 9007199254740993 (by decide))])]

/-- The list is one of integers under the other policy, which the class shows and the interface does not. -/
theorem render_depends_wideList :
    Config.SameInterface {} { modifier := "internal", numberPolicy := .fractional } ∧
    Config.SameClass {} { interfaceName := "I", interfaceIndent := "" } ∧
    (render {} wideList).map Declarations.interfaceBlock =
      (render { modifier := "internal", numberPolicy := .fractional } wideList).map Declarations.interfaceBlock ∧
    (render {} wideList).map Declarations.classBlock ≠
      (render { numberPolicy := .fractional } wideList).map Declarations.classBlock ∧
    (render {} wideList).map Declarations.classBlock =
      (render { interfaceName := "I", interfaceIndent := "" } wideList).map Declarations.classBlock := by
  have sameInterface : Config.SameInterface {} { modifier := "internal", numberPolicy := .fractional } :=
    ⟨rfl, rfl, rfl⟩
  have sameClass : Config.SameClass {} { interfaceName := "I", interfaceIndent := "" } :=
    ⟨rfl, rfl, rfl, rfl, rfl, rfl, rfl, rfl⟩
  have floats : (render {} wideList).map Declarations.classBlock =
      .ok "public class ClassName \x7b\n    public List<float> A \x7b get; set; \x7d\n\x7d" := by decide +kernel
  have integers : (render { numberPolicy := .fractional } wideList).map Declarations.classBlock =
      .ok "public class ClassName \x7b\n    public List<int> A \x7b get; set; \x7d\n\x7d" := by decide +kernel
  refine ⟨sameInterface, sameClass, (render_depends _ _ wideList).1 sameInterface, ?_,
    (render_depends _ _ wideList).2.1 sameClass⟩
  rw [floats, integers]
  decide

end TypeSketch
