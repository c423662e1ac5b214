import TypeSketch.Declaration
import TypeSketch.Proofs.Grammar
import TypeSketch.Proofs.Members

/-!
# Declarations of documents

* `classText`, `interfaceText` : the two declarations of some members, written out;
* `render_object`, `render_eq_error` : the declarations of an object, and what is no object;
* `render_of_parse` : from a text to its declarations, repeated keys included.
-/

namespace TypeSketch

open Json

/-! ## Blocks -/

/-- The line of a member in a class. -/
def classLine (config : Config) (member : String × Value) : String :=
  config.classIndent ++ config.modifier ++ " " ++ (Ty.ofValue config member.2).className config ++ " " ++
    Name.toPropertyCase member.1 ++ " " ++ config.accessor ++ "\n"

/-- The line of a member in an interface. -/
def interfaceLine (config : Config) (member : String × Value) : String :=
  config.interfaceIndent ++ member.1 ++ ": " ++ (Ty.ofValue config member.2).structuralName ++ ";\n"

/-- The class declaration of some members, written out. -/
def classText (config : Config) (members : List (String × Value)) : String :=
  "public class " ++ config.className ++ " \x7b\n" ++ String.join (members.map (classLine config)) ++ "\x7d"

/-- The interface declaration of some members, written out. -/
def interfaceText (config : Config) (members : List (String × Value)) : String :=
  "interface " ++ config.interfaceName ++ " \x7b\n" ++ String.join (members.map (interfaceLine config)) ++ "\x7d"

theorem Style.lines_eq_join (style : Style) (fields : List Field) :
    style.lines fields = String.join (fields.map fun field => style.member field ++ "\n") := by
  induction fields with
  | nil => rfl
  | cons field fields ih => rw [Style.lines, ih, List.map_cons, String.join_cons]

theorem classStyle_member (config : Config) (member : String × Value) :
    (classStyle config).member (Property.field config ⟨member.1, member.2⟩) ++ "\n" = classLine config member := rfl

theorem interfaceStyle_member (config : Config) (member : String × Value) :
    (interfaceStyle config).member (Property.field config ⟨member.1, member.2⟩) ++ "\n" =
      interfaceLine config member := by
  simp only [interfaceStyle, Property.field, interfaceLine, String.append_assoc]
  rfl

theorem classBlock_eq (config : Config) (members : List (String × Value)) :
    classBlock config (members.map fun member => ⟨member.1, member.2⟩) = classText config members := by
  simp only [classBlock, Style.block, Style.lines_eq_join, List.map_map, Function.comp_def, classStyle_member]
  unfold classText
  simp only [classStyle, String.append_assoc]
  rfl

theorem interfaceBlock_eq (config : Config) (members : List (String × Value)) :
    interfaceBlock config (members.map fun member => ⟨member.1, member.2⟩) = interfaceText config members := by
  simp only [interfaceBlock, Style.block, Style.lines_eq_join, List.map_map, Function.comp_def,
    interfaceStyle_member]
  unfold interfaceText
  simp only [interfaceStyle, String.append_assoc]
  rfl

theorem render_object (config : Config) (members : List (String × Value)) :
    render config (.object members) = .ok ⟨classText config members, interfaceText config members⟩ := by
  rw [← classBlock_eq, ← interfaceBlock_eq]
  rfl

theorem render_eq_error (config : Config) {value : Value} (h : value.kind ≠ .object) :
    render config value = .error ⟨value.kind⟩ := by
  cases value with
  | object members => exact absurd rfl h
  | _ => rfl

theorem kind_eq_object_iff {value : Value} : value.kind = .object ↔ ∃ members, value = .object members := by
  cases value <;> simp [Value.kind]

/-! ## From texts to blocks -/

/-- **The declarations of a text** that is an object list its distinct keys in the order of their first
places, each with the type of its last value; of any other document the kind is reported. -/
theorem render_of_parse (config : Config) {text : String} {value : Value} (accepted : parse text = .ok value) :
    (value.kind = .object → ∃ pairs members,
      (∀ pairs', IsObjectOf text pairs' ↔ pairs' = pairs) ∧
      (∀ members', Members.Settles pairs members' ↔ members' = members) ∧
      value = .object members ∧
      render config value = .ok ⟨classText config members, interfaceText config members⟩) ∧
    (value.kind ≠ .object →
      (∀ pairs, ¬ IsObjectOf text pairs) ∧ render config value = .error ⟨value.kind⟩) := by
  have document := parse_eq_ok_iff.1 accepted
  constructor
  · intro object
    obtain ⟨members, rfl⟩ := kind_eq_object_iff.1 object
    obtain ⟨pairs, hpairs, rfl⟩ := isDocument_object_iff.1 document
    refine ⟨pairs, Members.ofPairs pairs, fun pairs' => ⟨fun h => h.unique hpairs, fun h => h ▸ hpairs⟩,
      fun members' => Members.settles_iff, rfl, render_object config _⟩
  · intro other
    refine ⟨fun pairs hpairs => other ?_, render_eq_error config other⟩
    have reread := parse_eq_ok_iff.2 (isDocument_object_iff.2 ⟨pairs, hpairs, rfl⟩)
    obtain rfl : value = .object (Members.ofPairs pairs) := Except.ok.inj (accepted.symm.trans reread)
    rfl

/-- The key `a` is written once as it is and once with an escape. -/
theorem render_of_parse_repeated :
    parse "\x7b\"a\":true,\"\\u0061\":null\x7d" = .ok (.object [("a", .null)]) ∧
    render {} (.object [("a", .null)]) =
      .ok ⟨"public class ClassName \x7b\n    public string A \x7b get; set; \x7d\n\x7d",
        "interface interfaceName \x7b\n  a: any;\n\x7d"⟩ := by
  have chars : "\x7b\"a\":true,\"\\u0061\":null\x7d".toList =
      '\x7b' :: '"' :: 'a' :: '"' :: ':' :: 't' :: 'r' :: 'u' :: 'e' ::
        [',', '"', '\\', 'u', '0', '0', '6', '1', '"', ':', 'n', 'u', 'l', 'l', '\x7d'] := rfl
  have escaped : readText [] ['\\', 'u', '0', '0', '6', '1', '"', ':', 'n', 'u', 'l', 'l', '\x7d'] =
      .ok ("a", [':', 'n', 'u', 'l', 'l', '\x7d']) := by
    rw [readText_escape rfl]
    simp [readText]
  have second : Pairs (Spells 126) false
      [',', '"', '\\', 'u', '0', '0', '6', '1', '"', ':', 'n', 'u', 'l', 'l', '\x7d'] [("a", .null)] [] :=
    .pair (w := ['n', 'u', 'l', 'l', '\x7d']) (.comma rfl rfl) escaped rfl (.null rfl) (.close rfl)
  have plain (rest : List Char) : readText [] ('a' :: '"' :: ':' :: 't' :: 'r' :: 'u' :: 'e' :: rest) =
      .ok ("a", ':' :: 't' :: 'r' :: 'u' :: 'e' :: rest) := by simp [readText]
  have first (rest : List Char) (h : Pairs (Spells 126) false rest [("a", .null)] []) :
      Pairs (Spells 126) true ('"' :: 'a' :: '"' :: ':' :: 't' :: 'r' :: 'u' :: 'e' :: rest)
        [("a", .bool true), ("a", .null)] [] :=
    .pair (w := 't' :: 'r' :: 'u' :: 'e' :: rest) (.first rfl) (plain rest) rfl (.true rfl) h
  have both : IsObjectOf "\x7b\"a\":true,\"\\u0061\":null\x7d" [("a", .bool true), ("a", .null)] := by
    refine ⟨_, [], ?_, first _ second, rfl⟩
    rw [Next, chars]
    rfl
  have accepted : parse "\x7b\"a\":true,\"\\u0061\":null\x7d" = .ok (.object [("a", .null)]) := by
    refine parse_eq_ok_iff.2 (isDocument_object_iff.2 ⟨_, both, ?_⟩)
    simp [Members.ofPairs, Members.put]
  obtain ⟨pairs, members, -, -, e, rendered⟩ := (render_of_parse {} accepted).1 rfl
  obtain rfl : [("a", Value.null)] = members := by simpa using e
  have classes : classText {} [("a", Value.null)] =
      "public class ClassName \x7b\n    public string A \x7b get; set; \x7d\n\x7d" := by decide +kernel
  have interfaces : interfaceText {} [("a", Value.null)] = "interface interfaceName \x7b\n  a: any;\n\x7d" := by
    decide +kernel
  refine ⟨accepted, ?_⟩
  rw [rendered, classes, interfaces]

end TypeSketch
