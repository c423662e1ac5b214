import Mathlib.Data.List.Induction
import TypeSketch.Proofs.Declaration
import TypeSketch.Surface

/-!
# Answers and sessions

* `renderText_of_error`, `renderText_of_object`, `renderText_of_other` : what the surface shows of a text;
* `Session.after`, `Session.transcript` : the state after some messages, and the state and the answer
  after every one of them;
* `lastText`, `lastNames` : the last text and the last declaration names of some messages;
* `Session.recalled` : the state that these two stand for;
* `after_eq_recalled`, `transcript_getElem?` : a session is in that state after every message.
-/

namespace TypeSketch

open Json

/-! ## Answers -/

section

variable {config : Config} {text : String}

theorem Rendered.ofValue_object (config : Config) (members : List (String × Value)) :
    Rendered.ofValue config (.object members) =
      ⟨some (Value.object members).toPretty, classText config members, interfaceText config members⟩ := by
  rw [Rendered.ofValue, render_object]

theorem Rendered.ofValue_other (config : Config) {value : Value} (other : value.kind ≠ .object) :
    Rendered.ofValue config value =
      ⟨some value.toPretty, "expected a JSON object at the top level, found " ++ value.kind.name,
        "expected a JSON object at the top level, found " ++ value.kind.name⟩ := by
  rw [Rendered.ofValue, render_eq_error config other]
  rfl

theorem Rendered.formatted_ofValue (config : Config) (value : Value) :
    (Rendered.ofValue config value).formatted = some value.toPretty := by
  rw [Rendered.ofValue]
  cases render config value <;> rfl

theorem renderText_of_error {fault : Fault} (h : parse text = .error fault) :
    renderText config text = ⟨none, "Invalid Json String", "Invalid Json String"⟩ := by
  rw [renderText, h]
  rfl

theorem renderText_of_ok {value : Value} (h : parse text = .ok value) :
    renderText config text = .ofValue config value := by
  rw [renderText, h]

theorem renderText_of_object {members : List (String × Value)} (h : parse text = .ok (.object members)) :
    renderText config text =
      ⟨some (Value.object members).toPretty, classText config members, interfaceText config members⟩ := by
  rw [renderText_of_ok h, Rendered.ofValue_object]

theorem renderText_of_other {value : Value} (h : parse text = .ok value) (other : value.kind ≠ .object) :
    renderText config text =
      ⟨some value.toPretty, "expected a JSON object at the top level, found " ++ value.kind.name,
        "expected a JSON object at the top level, found " ++ value.kind.name⟩ := by
  rw [renderText_of_ok h, Rendered.ofValue_other config other]

end

/-! ## Messages -/

/-- The text of a message that has one. -/
def Message.text? : Message → Option String
  | .input text => some text
  | .rename _ _ => none

/-- The names of the class and the interface in a message that has them. -/
def Message.names? : Message → Option (String × String)
  | .input _ => none
  | .rename className interfaceName => some (className, interfaceName)

/-- The last text among some messages. -/
def lastText (messages : List Message) : Option String := (messages.filterMap Message.text?).getLast?

/-- The last declaration names among some messages. -/
def lastNames (messages : List Message) : Option (String × String) :=
  (messages.filterMap Message.names?).getLast?

theorem lastText_append (messages : List Message) (message : Message) :
    lastText (messages ++ [message]) = message.text?.or (lastText messages) := by
  cases h : message.text? <;> simp [lastText, h]

theorem lastNames_append (messages : List Message) (message : Message) :
    lastNames (messages ++ [message]) = message.names?.or (lastNames messages) := by
  cases h : message.names? <;> simp [lastNames, h]

/-- A configuration with the last names of some messages, where they have any. -/
def Config.renamedBy (initial : Config) (messages : List Message) : Config :=
  match lastNames messages with
  | some names => { initial with className := names.1, interfaceName := names.2 }
  | none => initial

namespace Session

/-! ## Runs -/

/-- The state after some messages. -/
def after (session : Session) (messages : List Message) : Session :=
  messages.foldl (fun session message => (session.handle message).1) session

/-- The state and the answer after every message. -/
def transcript (session : Session) : List Message → List (Session × Rendered)
  | [] => []
  | message :: rest => session.handle message :: transcript (session.handle message).1 rest

theorem after_append (session : Session) (messages : List Message) (message : Message) :
    session.after (messages ++ [message]) = ((session.after messages).handle message).1 := by
  rw [after, List.foldl_append]
  rfl

theorem transcript_getElem? (session : Session) (messages : List Message) (i : Nat) :
    (session.transcript messages)[i]? =
      messages[i]?.map fun message => (session.after (messages.take i)).handle message := by
  induction messages generalizing session i with
  | nil => simp [transcript]
  | cons message rest ih =>
    cases i with
    | zero => simp [transcript, after]
    | succ i =>
      rw [transcript, List.getElem?_cons_succ, ih, List.getElem?_cons_succ, List.take_succ_cons]
      rfl

/-! ## What a session recalls -/

/-- The state that the last text and the last names of some messages stand for. -/
def recalled (initial : Config) (messages : List Message) : Session :=
  ⟨initial.renamedBy messages, lastText messages⟩

/-- **One message** is answered from the state after it, in which its text or its names are the last
ones. -/
theorem handle_recalled (initial : Config) (messages : List Message) (message : Message) :
    (recalled initial messages).handle message =
      (recalled initial (messages ++ [message]), (recalled initial (messages ++ [message])).shown) := by
  cases message with
  | input text =>
    have state : recalled initial (messages ++ [.input text]) =
        ⟨initial.renamedBy messages, some text⟩ := by
      simp [recalled, Config.renamedBy, lastText_append, lastNames_append, Message.text?, Message.names?]
    rw [state]
    rfl
  | rename className interfaceName =>
    have state : recalled initial (messages ++ [.rename className interfaceName]) =
        ⟨(initial.renamedBy messages).rename className interfaceName, lastText messages⟩ := by
      simp only [recalled, Config.renamedBy, lastText_append, lastNames_append, Message.text?, Message.names?,
        Option.none_or, Option.some_or]
      cases lastNames messages <;> rfl
    rw [state]
    rfl

theorem after_eq_recalled (initial : Config) (messages : List Message) :
    after ⟨initial, none⟩ messages = recalled initial messages := by
  induction messages using List.reverseRecOn with
  | nil => rfl
  | append_singleton messages message ih =>
    rw [after_append, ih, handle_recalled]

/-- **After every message** the configuration is the initial one with the last names, the text is the
last one whether or not it is a document, and the answer is that text rendered anew. So messages
that end in the same text and the same names leave the same state, whatever their order. -/
theorem transcript_recalls (initial : Config) (messages : List Message) :
    (∀ i, (transcript ⟨initial, none⟩ messages)[i]? = messages[i]?.map fun _ =>
      let seen := messages.take (i + 1)
      (⟨initial.renamedBy seen, lastText seen⟩,
        match lastText seen with
        | some text => renderText (initial.renamedBy seen) text
        | none => ⟨none, "", ""⟩)) ∧
    ∀ others, lastText others = lastText messages → lastNames others = lastNames messages →
      after ⟨initial, none⟩ others = after ⟨initial, none⟩ messages := by
  constructor
  · intro i
    rw [transcript_getElem?]
    cases h : messages[i]? with
    | none => rfl
    | some message =>
      have seen : messages.take (i + 1) = messages.take i ++ [message] := by rw [List.take_add_one, h]; rfl
      rw [Option.map_some, Option.map_some, after_eq_recalled, handle_recalled, seen]
      rfl
  · intro others text names
    rw [after_eq_recalled, after_eq_recalled, recalled, recalled, Config.renamedBy, Config.renamedBy, text, names]

/-- A text that is no document, other names, and the document `{}` come in two orders. -/
theorem transcript_recalls_interleaved :
    lastText [.input "\x7b", .rename "A" "B", .input "\x7b\x7d"] = lastText [.input "\x7b\x7d", .rename "A" "B"] ∧
    lastNames [.input "\x7b", .rename "A" "B", .input "\x7b\x7d"] = lastNames [.input "\x7b\x7d", .rename "A" "B"] ∧
    after ⟨{}, none⟩ [.input "\x7b", .rename "A" "B", .input "\x7b\x7d"] =
      after ⟨{}, none⟩ [.input "\x7b\x7d", .rename "A" "B"] :=
  ⟨rfl, rfl, (transcript_recalls {} _).2 _ rfl rfl⟩

end Session

end TypeSketch
