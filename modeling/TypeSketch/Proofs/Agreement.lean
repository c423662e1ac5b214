import TypeSketch.Proofs.Inputs
import TypeSketch.Proofs.Surface

/-!
# One text before the surface and the command line

* `classText_ne_interfaceText` : the two declarations of an object are never the same text;
* `Rendered.Tells`, `renderText_tells` : what a text is can be told from what the surface shows of it;
* `runIn_file` : and so can the outcome of a run on a file with that text.
-/

namespace TypeSketch

open Json

variable {config : Config} {text : String}

/-! ## What the surface shows -/

/-- A class starts with another letter than an interface, whatever the configuration. -/
theorem classText_ne_interfaceText (config : Config) (members : List (String × Value)) :
    classText config members ≠ interfaceText config members := by
  intro same
  have first := congrArg (fun block => block.toList.head?) same
  unfold classText interfaceText at first
  simp only [String.toList_append] at first
  cases first

/-- What a text is can be told from an answer: nothing is formatted if it is no document, the blocks are
the same if it is a document but no object, and they differ if it is an object. -/
structure Rendered.Tells (shown : Rendered) (text : String) : Prop where
  notJson : shown.formatted = none ↔ ∃ fault, parse text = .error fault
  notObject : shown.formatted ≠ none ∧ shown.classBlock = shown.interfaceBlock ↔
    ∃ value, parse text = .ok value ∧ value.kind ≠ .object
  object : shown.formatted ≠ none ∧ shown.classBlock ≠ shown.interfaceBlock ↔
    ∃ members, parse text = .ok (.object members)

theorem renderText_tells (config : Config) (text : String) : (renderText config text).Tells text := by
  cases accepted : parse text with
  | error fault =>
    rw [renderText_of_error accepted]
    constructor <;> simp [accepted]
  | ok value =>
    by_cases object : value.kind = .object
    · obtain ⟨members, rfl⟩ := kind_eq_object_iff.1 object
      rw [renderText_of_object accepted]
      constructor <;> simp [accepted, object, classText_ne_interfaceText]
    · have notObject : ∀ members, value ≠ .object members := fun members e => object (e ▸ rfl)
      rw [renderText_of_other accepted object]
      constructor <;> simp [accepted, object, notObject]

namespace Command

open World

variable {world : World} {path : String}

/-! ## Runs on one file -/

/-- A whole text is one document, or none. -/
theorem documents_of_parse (origin text : String) :
    Selection.documents {} origin text =
      [⟨origin, match Json.parse text with
        | .ok value => .value value
        | .error _ => .notJson⟩] := by
  have whole : Selection.documents {} origin text = Selection.documentsOf {} origin text.toList := rfl
  rw [whole, Selection.documentsOf, Json.parse]
  cases parseChars text.toList with
  | error fault => rfl
  | ok value => rfl

/-- What one document adds is all that it adds up to. -/
theorem declareAll_singleton {blocks : Blocks} {document : Document} {contribution : Contribution}
    (h : Contributes blocks config document contribution) :
    declareAll blocks config [document] =
      ⟨contribution.rendering.text ++ "\n", contribution.rendering.report?.toList,
        contribution.rendering.declared⟩ := by
  rw [declareAll_eq (.cons h .nil)]
  cases contribution <;> rfl

variable {blocks : Blocks} {config? : Option String} {overrides : Overrides}

/-- A run on one file that can be read, named by a path, has the document of its text. -/
theorem completes_file (name : path ≠ "-") (literal : isPattern path = false)
    (readable : world.disk.readText path = .ok text)
    (loaded : ((loadConfig host ⟨blocks, [path], {}, config?, overrides, none⟩).run world).1 = .ok config) :
    Completes world ⟨blocks, [path], {}, config?, overrides, none⟩ config (Selection.documents {} path text) := by
  have resolved : ((resolve host [path]).run world).1 = .ok [path] := by
    rw [resolve, resolveOne, literal]
    rfl
  have source : ((readSource host path).run world).1 = ⟨path, .ok text⟩ := by
    have read : (host.readText path).run world = (.ok text, world) := congrArg (·, world) readable
    rw [readSource, if_neg name, run_bind, read]
    rfl
  have documents : documentsOf world {} [path] = Selection.documents {} path text := by
    rw [documentsOf, readSources, run_bind, source]
    exact List.append_nil _
  refine ⟨prepare_eq_ok_iff.2 ⟨loaded, [path], resolved, documents.symm⟩, fun _ some => ?_⟩
  cases some

/-- **A run on one file** prints the blocks that the surface shows of its text and reports nothing, unless
they are the same two blocks of a document, which it reports instead. It succeeds just if the text is an
object, and what the text is can be told from the blocks alone. -/
theorem runIn_file (name : path ≠ "-") (literal : isPattern path = false)
    (readable : world.disk.readText path = .ok text)
    (loaded : ((loadConfig host ⟨blocks, [path], {}, config?, overrides, none⟩).run world).1 = .ok config) :
    (let shown := renderText config text
    (runIn world ⟨blocks, [path], {}, config?, overrides, none⟩).1 =
      if shown.formatted = none then ⟨1, blocks.text shown.classBlock shown.interfaceBlock ++ "\n", [], none⟩
      else if shown.classBlock = shown.interfaceBlock then
        ⟨1, "\n", ["error: " ++ path ++ ": " ++ shown.classBlock ++ "\n"], none⟩
      else ⟨0, blocks.text shown.classBlock shown.interfaceBlock ++ "\n", [], none⟩) ∧
    (let shown := renderText config text
    ∀ errors, (runIn world ⟨blocks, [path], {}, config?, overrides, none⟩).1.Prints errors ↔
      errors = if shown.formatted ≠ none ∧ shown.classBlock = shown.interfaceBlock then
        "error: " ++ path ++ ": " ++ shown.classBlock ++ "\n" else "") ∧
    (renderText config text).Tells text := by
  have outcome : (runIn world ⟨blocks, [path], {}, config?, overrides, none⟩).1 =
      let shown := renderText config text
      if shown.formatted = none then ⟨1, blocks.text shown.classBlock shown.interfaceBlock ++ "\n", [], none⟩
      else if shown.classBlock = shown.interfaceBlock then
        ⟨1, "\n", ["error: " ++ path ++ ": " ++ shown.classBlock ++ "\n"], none⟩
      else ⟨0, blocks.text shown.classBlock shown.interfaceBlock ++ "\n", [], none⟩ := by
    rw [(completes_file name literal readable loaded).runIn_printed rfl, documents_of_parse]
    dsimp only
    cases accepted : Json.parse text with
    | error fault =>
      rw [renderText_of_error accepted, declareAll_singleton (.notJson path)]
      rfl
    | ok value =>
      by_cases object : value.kind = .object
      · obtain ⟨members, rfl⟩ := kind_eq_object_iff.1 object
        rw [renderText_of_object accepted, declareAll_singleton (.object path members), if_neg (by simp),
          if_neg (classText_ne_interfaceText config members)]
        rfl
      · rw [renderText_of_other accepted object, declareAll_singleton (.notObject path object),
          if_neg (by simp), if_pos rfl]
        rfl
  refine ⟨outcome, fun errors => ?_, renderText_tells config text⟩
  have silent (exitCode : Nat) (out : String) : (Outcome.mk exitCode out [] none).Prints errors ↔ errors = "" :=
    Outcome.prints_iff_of_length_le_one (Nat.zero_le 1)
  rw [outcome]
  dsimp only
  by_cases notJson : (renderText config text).formatted = none
  · rw [if_pos notJson, if_neg fun both => both.1 notJson]
    exact silent ..
  by_cases same : (renderText config text).classBlock = (renderText config text).interfaceBlock
  · have one (line : String) : (Outcome.mk 1 "\n" [line] none).Prints errors ↔ _ :=
      Outcome.prints_iff_of_length_le_one (Nat.le_refl 1)
    rw [if_neg notJson, if_pos same, if_pos ⟨notJson, same⟩, one]
    simp only [Outcome.errors, Outcome.lastReport, String.join_cons, String.join_nil, String.append_empty]
  · rw [if_neg notJson, if_neg same, if_neg fun both => same both.2]
    exact silent ..

/-- The file `x` holds an array. -/
def arrayWorld : World where
  disk.entries := [(["x"], .file (.text "[]"))]

theorem runIn_file_array :
    arrayWorld.disk.readText "x" = .ok "[]" ∧
    renderText {} "[]" = ⟨some "[]", "expected a JSON object at the top level, found array",
      "expected a JSON object at the top level, found array"⟩ ∧
    (runIn arrayWorld ⟨.both, ["x"], {}, none, {}, none⟩).1 =
      ⟨1, "\n", ["error: x: expected a JSON object at the top level, found array\n"], none⟩ := by
  have readable : arrayWorld.disk.readText "x" = .ok "[]" := by cbv
  have accepted : Json.parse "[]" = .ok (.array []) :=
    parse_eq_ok_iff.2 ⟨[], .array (t := [']']) rfl (.close rfl), rfl⟩
  have shown : renderText {} "[]" = ⟨some "[]", "expected a JSON object at the top level, found array",
      "expected a JSON object at the top level, found array"⟩ := renderText_of_other accepted (by decide)
  refine ⟨readable, shown, ?_⟩
  have outcome := @runIn_file {} "[]" arrayWorld "x" .both none {} (by decide) (by decide) readable rfl
  rw [outcome.1, shown]
  decide +kernel

end Command

end TypeSketch
