import TypeSketch.Proofs.Influence
import TypeSketch.Proofs.Surface

/-!
# Other declaration names

* `classBody`, `interfaceBody` : the declarations of some members from after their names on;
* `classBody_rename`, `interfaceBody_rename` : the names in the configuration are nowhere else in the declarations;
* `Session.lastInput_after` : the text that a session renders again;
* `Session.handle_rename` : other names change the headers, and nothing else of what a session shows.
-/

namespace TypeSketch

open Json

/-! ## Declarations without their names -/

/-- The class declaration of some members from after its name on. -/
def classBody (config : Config) (members : List (String × Value)) : String :=
  " \x7b\n" ++ String.join (members.map (classLine config)) ++ "\x7d"

/-- The interface declaration of some members from after its name on. -/
def interfaceBody (config : Config) (members : List (String × Value)) : String :=
  " \x7b\n" ++ String.join (members.map (interfaceLine config)) ++ "\x7d"

variable (config : Config) (className interfaceName : String) (members : List (String × Value))

theorem classText_eq : classText config members = "public class " ++ config.className ++ classBody config members := by
  show "public class " ++ config.className ++ " \x7b\n" ++ String.join (members.map (classLine config)) ++ "\x7d" = _
  simp only [classBody, String.append_assoc]

theorem interfaceText_eq :
    interfaceText config members = "interface " ++ config.interfaceName ++ interfaceBody config members := by
  show "interface " ++ config.interfaceName ++ " \x7b\n" ++ String.join (members.map (interfaceLine config)) ++ "\x7d" = _
  simp only [interfaceBody, String.append_assoc]

theorem ofValue_rename (value : Value) :
    Ty.ofValue (config.rename className interfaceName) value = Ty.ofValue config value := by
  apply Ty.ofValue_congr <;> rfl

theorem classLine_rename : classLine (config.rename className interfaceName) = classLine config := by
  funext member
  have type (ty : Ty) : ty.className (config.rename className interfaceName) = ty.className config := by
    apply Ty.className_congr <;> rfl
  rw [classLine, classLine, ofValue_rename, type]
  rfl

theorem interfaceLine_rename : interfaceLine (config.rename className interfaceName) = interfaceLine config := by
  funext member
  rw [interfaceLine, interfaceLine, ofValue_rename]
  rfl

theorem classBody_rename :
    classBody (config.rename className interfaceName) members = classBody config members := by
  rw [classBody, classBody, classLine_rename]

theorem interfaceBody_rename :
    interfaceBody (config.rename className interfaceName) members = interfaceBody config members := by
  rw [interfaceBody, interfaceBody, interfaceLine_rename]

theorem classText_rename : classText (config.rename className interfaceName) members =
    "public class " ++ className ++ classBody config members := by
  rw [classText_eq, classBody_rename]
  rfl

theorem interfaceText_rename : interfaceText (config.rename className interfaceName) members =
    "interface " ++ interfaceName ++ interfaceBody config members := by
  rw [interfaceText_eq, interfaceBody_rename]
  rfl

/-! ## Answers -/

/-- A document has one formatted text under all configurations, and any other text has none. -/
theorem formatted_renderText (config : Config) (text : String) :
    (renderText config text).formatted = (parse text).toOption.map Value.toPretty := by
  cases accepted : parse text with
  | error fault => rw [renderText_of_error accepted]; rfl
  | ok value => rw [renderText_of_ok accepted, Rendered.formatted_ofValue]; rfl

/-- What is shown of a text that is no object does not depend on the configuration. -/
theorem renderText_of_notObject {text : String} (notObject : ∀ members, parse text ≠ .ok (.object members))
    (config config' : Config) : renderText config text = renderText config' text := by
  cases accepted : parse text with
  | error fault => rw [renderText_of_error accepted, renderText_of_error accepted]
  | ok value =>
    have other : value.kind ≠ .object := by
      intro object
      obtain ⟨members, rfl⟩ := kind_eq_object_iff.1 object
      exact notObject members accepted
    rw [renderText_of_other accepted other, renderText_of_other accepted other]

/-! ## Sessions -/

namespace Session

/-- A session keeps the last text that it was told, or the one that it had. -/
theorem lastInput_after (session : Session) (messages : List Message) :
    (session.after messages).lastInput = (lastText messages).or session.lastInput := by
  induction messages using List.reverseRecOn with
  | nil => rfl
  | append_singleton messages message ih =>
    rw [after_append, lastText_append]
    cases message with
    | input text => rfl
    | rename className interfaceName => exact ih

theorem handle_rename_shown {session : Session} {text : String} (told : session.lastInput = some text) :
    (session.handle (.rename className interfaceName)).2 =
      renderText (session.config.rename className interfaceName) text := by
  have kept : (session.renamed className interfaceName).lastInput = some text := told
  rw [handle, shown, kept]
  rfl

/-- **Other names** change the two headers and nothing else of what a session shows of its last text. The formatted
text stays, a text that is no object is shown as before, and the blocks of an object are the same from after their
names on. -/
theorem handle_rename (start : Session) {messages : List Message} {text : String}
    (told : lastText messages = some text) :
    let session := start.after messages
    let before := renderText session.config text
    let answer className interfaceName := (session.handle (.rename className interfaceName)).2
    session.lastInput = some text ∧
    (∀ className interfaceName, (answer className interfaceName).formatted = before.formatted) ∧
    ((∀ members, parse text ≠ .ok (.object members)) →
      ∀ className interfaceName, answer className interfaceName = before) ∧
    ((∃ members, parse text = .ok (.object members)) → ∃ classRest interfaceRest,
      before.classBlock = "public class " ++ session.config.className ++ classRest ∧
      before.interfaceBlock = "interface " ++ session.config.interfaceName ++ interfaceRest ∧
      ∀ className interfaceName,
        (answer className interfaceName).classBlock = "public class " ++ className ++ classRest ∧
        (answer className interfaceName).interfaceBlock = "interface " ++ interfaceName ++ interfaceRest) := by
  intro session before answer
  have last : session.lastInput = some text := by
    rw [lastInput_after, told]
    rfl
  have shown (className interfaceName : String) :
      answer className interfaceName = renderText (session.config.rename className interfaceName) text :=
    handle_rename_shown className interfaceName last
  refine ⟨last, fun className interfaceName => ?_, fun notObject className interfaceName => ?_, ?_⟩
  · rw [shown, formatted_renderText, formatted_renderText]
  · rw [shown]
    exact renderText_of_notObject notObject _ _
  · rintro ⟨members, accepted⟩
    refine ⟨classBody session.config members, interfaceBody session.config members, ?_, ?_,
      fun className interfaceName => ?_⟩
    · rw [← classText_eq]
      exact congrArg Rendered.classBlock (renderText_of_object accepted)
    · rw [← interfaceText_eq]
      exact congrArg Rendered.interfaceBlock (renderText_of_object accepted)
    · rw [shown, renderText_of_object accepted]
      exact ⟨classText_rename .., interfaceText_rename ..⟩

/-- An object with a member that has the name of its class. -/
theorem parse_namesake : parse "\x7b\"A\":null\x7d" = .ok (.object [("A", .null)]) := by
  have chars : "\x7b\"A\":null\x7d".toList = ['\x7b', '"', 'A', '"', ':', 'n', 'u', 'l', 'l', '\x7d'] := rfl
  have key : readText [] ['A', '"', ':', 'n', 'u', 'l', 'l', '\x7d'] = .ok ("A", [':', 'n', 'u', 'l', 'l', '\x7d']) := by
    simp [readText]
  have object : IsObjectOf "\x7b\"A\":null\x7d" [("A", .null)] := by
    refine ⟨['"', 'A', '"', ':', 'n', 'u', 'l', 'l', '\x7d'], [], ?_,
      .pair (w := ['n', 'u', 'l', 'l', '\x7d']) (.first rfl) key rfl (.null rfl) (.close rfl), rfl⟩
    rw [Next, chars]
    rfl
  exact parse_eq_ok_iff.2 (isDocument_object_iff.2 ⟨_, object, rfl⟩)

/-- The name in the header goes from `A` to `B`, and the member keeps it. -/
theorem handle_rename_namesake :
    lastText [.input "\x7b\"A\":null\x7d", .rename "A" "A"] = some "\x7b\"A\":null\x7d" ∧
    parse "\x7b\"A\":null\x7d" = .ok (.object [("A", .null)]) ∧
    (let session := after ⟨{}, none⟩ [.input "\x7b\"A\":null\x7d", .rename "A" "A"]
    (renderText session.config "\x7b\"A\":null\x7d").classBlock =
      "public class A" ++ " \x7b\n    public string A \x7b get; set; \x7d\n\x7d" ∧
    (session.handle (.rename "B" "C")).2.classBlock =
      "public class B" ++ " \x7b\n    public string A \x7b get; set; \x7d\n\x7d") := by
  have told : lastText [.input "\x7b\"A\":null\x7d", .rename "A" "A"] = some "\x7b\"A\":null\x7d" := rfl
  obtain ⟨-, -, -, object⟩ := handle_rename ⟨{}, none⟩ told
  obtain ⟨classRest, interfaceRest, before, -, answer⟩ := object ⟨_, parse_namesake⟩
  have shown : (renderText (Config.rename {} "A" "A") "\x7b\"A\":null\x7d").classBlock =
      "public class A" ++ " \x7b\n    public string A \x7b get; set; \x7d\n\x7d" := by
    rw [renderText_of_object parse_namesake]
    decide +kernel
  have rest : classRest = " \x7b\n    public string A \x7b get; set; \x7d\n\x7d" :=
    (String.append_right_inj _).1 (before.symm.trans shown)
  have renamed := (answer "B" "C").1
  rw [rest] at renamed
  exact ⟨told, parse_namesake, shown, renamed⟩

end Session

end TypeSketch
