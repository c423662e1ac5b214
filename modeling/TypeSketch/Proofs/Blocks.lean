import TypeSketch.Command.Arguments
import TypeSketch.Proofs.Output

/-!
# The same run with other declarations

* `Blocks.name`, `Request.withBlocks` : the command for some declarations, and a request for them;
* `parse_withBlocks` : the words after the command mean the same whatever it is;
* `Document.pair?`, `declare_cases` : a document has a text of each kind or of neither;
* `Blocks.page`, `declareAll_text` : the texts of all documents, a class before its interface;
* `runIn_withBlocks` : the runs of one command line with each of the three commands.
-/

namespace TypeSketch.Command

open World

/-! ## Commands -/

/-- The command that asks for these declarations. -/
def Blocks.name : Blocks → String
  | .classes => "csharp"
  | .interfaces => "typescript"
  | .both => "both"

/-- The request for other declarations. -/
def Request.withBlocks (blocks : Blocks) (request : Request) : Request := { request with blocks }

theorem Draft.request_withBlocks (draft : Draft) (blocks : Blocks) :
    draft.request blocks = (draft.request .classes).map (Request.withBlocks blocks) := by
  unfold Draft.request
  split <;> rfl

theorem parse_name (blocks : Blocks) (rest : List String) :
    parse (blocks.name :: rest) = Draft.read {} rest >>= fun draft => draft.request blocks := by
  cases blocks <;> rfl

/-- The words after a command mean the same whatever the command is. -/
theorem parse_withBlocks (blocks : Blocks) (rest : List String) :
    parse (blocks.name :: rest) = (parse (Blocks.classes.name :: rest)).map (Request.withBlocks blocks) := by
  rw [parse_name, parse_name]
  cases Draft.read {} rest with
  | error usage => rfl
  | ok draft => exact draft.request_withBlocks blocks

/-! ## Documents -/

/-- The texts of a pair that are wanted, that of a class before that of an interface. -/
def Blocks.texts (blocks : Blocks) (pair : String × String) : List String :=
  match blocks with
  | .classes => [pair.1]
  | .interfaces => [pair.2]
  | .both => [pair.1, pair.2]

theorem Blocks.texts_ne_nil (blocks : Blocks) (pair : String × String) : blocks.texts pair ≠ [] := by
  cases blocks <;> simp [texts]

theorem Blocks.text_eq_intercalate (blocks : Blocks) (pair : String × String) :
    blocks.text pair.1 pair.2 = "\n\n".intercalate (blocks.texts pair) := by
  cases blocks with
  | classes => exact String.intercalate_singleton.symm
  | interfaces => exact String.intercalate_singleton.symm
  | both =>
    rw [texts, String.intercalate_cons_cons, String.intercalate_singleton]
    rfl

/-- The text of a document in a class and that in an interface, unless the first is empty. -/
def Document.pair? (config : Config) (document : Document) : Option (String × String) :=
  if (document.declare .classes config).text = "" then none
  else some ((document.declare .classes config).text, (document.declare .interfaces config).text)

variable {config : Config} {document : Document} {documents : List Document} {blocks : Blocks}

/-- A document has no text whatever is wanted of it, or one for a class and one for an interface. -/
theorem declare_cases (config : Config) (document : Document) :
    (∀ blocks, (document.declare blocks config).text = "") ∨
      ∃ classText interfaceText, classText ≠ "" ∧ interfaceText ≠ "" ∧
        ∀ blocks, (document.declare blocks config).text = blocks.text classText interfaceText := by
  obtain ⟨origin, value | _ | reason⟩ := document
  · by_cases object : value.kind = .object
    · obtain ⟨members, rfl⟩ := kind_eq_object_iff.1 object
      refine .inr ⟨_, _, classText_ne_empty config members, interfaceText_ne_empty config members, fun blocks => ?_⟩
      rw [(Contributes.object origin members).declare_eq]
      rfl
    · refine .inl fun blocks => ?_
      rw [(Contributes.notObject origin object).declare_eq]
      rfl
  · exact .inr ⟨_, _, by decide, by decide, fun blocks => rfl⟩
  · exact .inl fun blocks => rfl

/-- What is reported of a document, and whether it is declared, is the same whatever is wanted of it. -/
theorem declare_report? (blocks other : Blocks) (config : Config) (document : Document) :
    (document.declare blocks config).report? = (document.declare other config).report? ∧
      (document.declare blocks config).declared = (document.declare other config).declared := by
  obtain ⟨origin, value | _ | reason⟩ := document
  · unfold Document.declare
    dsimp only
    cases render config value <;> exact ⟨rfl, rfl⟩
  · exact ⟨rfl, rfl⟩
  · exact ⟨rfl, rfl⟩

/-- A document has a text in a class exactly if it has one in an interface. -/
theorem declare_text_eq_empty_iff :
    (document.declare .classes config).text = "" ↔ (document.declare .interfaces config).text = "" := by
  rcases declare_cases config document with none | ⟨classText, interfaceText, some, some', texts⟩
  · rw [none, none]
  · rw [texts, texts]
    exact iff_of_false some some'

/-- With both declarations a document has the text of each, with a blank line between them. -/
theorem declare_both_text :
    (document.declare .both config).text =
      if (document.declare .classes config).text = "" then ""
      else (document.declare .classes config).text ++ "\n\n" ++ (document.declare .interfaces config).text := by
  rcases declare_cases config document with none | ⟨classText, interfaceText, some, -, texts⟩
  · rw [none, none, if_pos rfl]
  · rw [texts, texts, texts]
    exact (if_neg some).symm

/-! ## Texts of all documents -/

/-- The wanted texts of some pairs, in order, with blank lines between them and a line end. -/
def Blocks.page (blocks : Blocks) (pairs : List (String × String)) : String :=
  "\n\n".intercalate (pairs.flatMap blocks.texts) ++ "\n"

example : Blocks.page .both [("a", "b"), ("c", "d")] = "a\n\nb\n\nc\n\nd\n" := by decide

theorem intercalate_flatMap {α : Type} {texts : α → List String} (separator : String) (nonempty : ∀ a, texts a ≠ [])
    (list : List α) :
    separator.intercalate (list.map fun a => separator.intercalate (texts a)) =
      separator.intercalate (list.flatMap texts) := by
  induction list with
  | nil => rfl
  | cons a rest ih =>
    cases rest with
    | nil => rw [List.map_singleton, List.flatMap_singleton, String.intercalate_singleton]
    | cons next rest =>
      have later : (next :: rest).flatMap texts ≠ [] := by
        rw [List.flatMap_cons]
        exact List.append_ne_nil_of_left_ne_nil (nonempty next) _
      rw [List.flatMap_cons, String.intercalate_append_of_ne_nil (nonempty a) later, ← ih]
      exact String.intercalate_cons_cons

theorem shownTexts_cons (rendering : Rendering) (renderings : List Rendering) :
    shownTexts (rendering :: renderings) =
      if rendering.text = "" then shownTexts renderings else rendering.text :: shownTexts renderings := by
  by_cases empty : rendering.text = "" <;> simp [shownTexts, empty]

/-- The texts that are shown of some documents, by the pairs that these have. -/
theorem shownTexts_declare (blocks : Blocks) (config : Config) (documents : List Document) :
    shownTexts (documents.map (Document.declare blocks config)) =
      (documents.filterMap (Document.pair? config)).map fun pair => "\n\n".intercalate (blocks.texts pair) := by
  induction documents with
  | nil => rfl
  | cons document rest ih =>
    rw [List.map_cons, shownTexts_cons, ih]
    rcases declare_cases config document with none | ⟨classText, interfaceText, some, some', texts⟩
    · have noPair : document.pair? config = .none := by rw [Document.pair?, if_pos (none _)]
      rw [if_pos (none blocks), List.filterMap_cons_none noPair]
    · have pair : document.pair? config = .some (classText, interfaceText) := by
        rw [Document.pair?, texts, texts]
        exact if_neg some
      have shown : (document.declare blocks config).text ≠ "" := by
        rw [texts]
        exact blocks.text_ne_empty some some'
      rw [if_neg shown, List.filterMap_cons_some pair, List.map_cons, texts,
        blocks.text_eq_intercalate (classText, interfaceText)]

theorem declareAll_text (blocks : Blocks) (config : Config) (documents : List Document) :
    (declareAll blocks config documents).text = blocks.page (documents.filterMap (Document.pair? config)) := by
  rw [Blocks.page, ← intercalate_flatMap _ blocks.texts_ne_nil, ← shownTexts_declare]
  rfl

/-- What is reported, and whether all documents are declared, is the same whatever is wanted of them. -/
theorem declareAll_reports (blocks other : Blocks) (config : Config) (documents : List Document) :
    (declareAll blocks config documents).reports = (declareAll other config documents).reports ∧
      (declareAll blocks config documents).complete = (declareAll other config documents).complete := by
  have reports : (fun document : Document => (document.declare blocks config).report?) =
      fun document => (document.declare other config).report? :=
    funext fun document => (declare_report? blocks other config document).1
  have declared : (fun document : Document => (document.declare blocks config).declared) =
      fun document => (document.declare other config).declared :=
    funext fun document => (declare_report? blocks other config document).2
  simp only [declareAll, Tally.ofRenderings, List.filterMap_map, List.all_map, Function.comp_def, reports, declared,
    and_self]

/-! ## Writing -/

/-- Whether a file can be written, and if not why, does not depend on the text. -/
theorem writeText_result (disk : Disk) (path text other : String) :
    (disk.writeText path text).map (fun _ => ()) = (disk.writeText path other).map fun _ => () := by
  unfold Disk.writeText
  cases disk.above path with
  | error e => rfl
  | ok place =>
    dsimp only [bind, Except.bind]
    cases (Disk.ending path).name? with
    | none => rfl
    | some name =>
      dsimp only
      split_ifs <;> rfl

theorem overwrite_fst (path text : String) (world : World) :
    ((overwrite host path text).run world).1 =
      ((world.disk.writeText path text).map fun _ => ()).mapError (.notWritten path) := by
  unfold overwrite
  rw [run_bind]
  cases written : world.disk.writeText path text with
  | error e =>
    have failed : (host.writeText path text).run world = (.error e, world) := by
      simp only [host, change, StateT.run, written]
    rw [failed]
    rfl
  | ok disk =>
    have done : (host.writeText path text).run world = (.ok (), { world with disk }) := by
      simp only [host, change, StateT.run, written]
    rw [done]
    rfl

theorem writeFile_fst (path text other : String) (world : World) :
    ((writeFile host path text).run world).1 = ((writeFile host path other).run world).1 := by
  have same (made : World) :
      ((overwrite host path text).run made).1 = ((overwrite host path other).run made).1 := by
    rw [overwrite_fst, overwrite_fst, writeText_result _ path text other]
  unfold writeFile
  cases Path.parent? path with
  | none => exact same world
  | some directory =>
    dsimp only
    rw [run_bind, run_bind]
    cases ((host.makeDirectories directory).run world).1 with
    | error e => rfl
    | ok _ => exact same _

/-! ## Runs -/

variable {world : World} {request : Request}

/-- A run prints a text, or writes it where its output is to go. -/
def Delivers (world : World) (request : Request) (text : String) : Prop :=
  match request.output? with
  | none => (runIn world request).1.out = text
  | some path => (runIn world request).1.out = "" ∧ (runIn world request).2.disk.readText path = .ok text

theorem Completes.delivers (h : Completes world request config documents) :
    Delivers world request (declareAll request.blocks config documents).text := by
  unfold Delivers
  cases output : request.output? with
  | none =>
    rw [h.runIn_printed output]
    rfl
  | some path =>
    obtain ⟨outcome, file⟩ := h.runIn_written output
    rw [outcome]
    exact ⟨rfl, file⟩

/-- A run comes to its end, or fails as a whole, whatever is wanted of the documents. -/
theorem completes_or_fails_withBlocks (world : World) (request : Request) :
    (∃ config documents, ∀ blocks, Completes world (request.withBlocks blocks) config documents) ∨
      ∃ reports failure, ∀ blocks, (runIn world (request.withBlocks blocks)).1 = .ofFailure reports failure := by
  have prepares (blocks : Blocks) : prepare host (request.withBlocks blocks) = prepare host request := rfl
  cases prepared : ((prepare host request).run world).1 with
  | error failure =>
    refine .inr ⟨[], failure, fun blocks => runIn_of_prepare_error ?_⟩
    rw [prepares, prepared]
  | ok both =>
    obtain ⟨config, documents⟩ := both
    cases output : request.output? with
    | none =>
      refine .inl ⟨config, documents, fun blocks => ⟨prepared, fun path some => ?_⟩⟩
      cases output.symm.trans some
    | some path =>
      -- whether the file can be written is asked with no text at all
      have writes (blocks : Blocks) := writeFile_fst path (declareAll blocks config documents).text ""
        ((prepare host request).run world).2
      cases written : ((writeFile host path "").run ((prepare host request).run world).2).1 with
      | ok _ =>
        refine .inl ⟨config, documents, fun blocks => ⟨prepared, fun path' some => ?_⟩⟩
        obtain rfl := Option.some.inj (output.symm.trans some)
        exact (writes blocks).trans written
      | error failure =>
        refine .inr ⟨(declareAll .classes config documents).reports, failure, fun blocks => ?_⟩
        rw [(declareAll_reports .classes blocks config documents).1]
        exact runIn_of_writeFile_error prepared output ((writes blocks).trans written)

/-- **One command line with each of the three commands** is refused with one complaint, or runs with one exit code
and the same reports. If the run does not fail as a whole, the three have the same documents, and what they print
or write are the texts of these in order: with both declarations, those of the two others document by document,
for a document has a text in a class exactly if it has one in an interface. -/
theorem runIn_withBlocks (world : World) (rest : List String) :
    (∀ (config : Config) (document : Document),
      ((document.declare .classes config).text = "" ↔ (document.declare .interfaces config).text = "") ∧
      (document.declare .both config).text =
        if (document.declare .classes config).text = "" then ""
        else (document.declare .classes config).text ++ "\n\n" ++ (document.declare .interfaces config).text) ∧
    ((∃ usage, ∀ blocks : Blocks, parse (blocks.name :: rest) = .error usage) ∨
      ∃ request : Request, (∀ blocks : Blocks, parse (blocks.name :: rest) = .ok (request.withBlocks blocks)) ∧
        (∀ blocks other,
          (runIn world (request.withBlocks blocks)).1.exitCode = (runIn world (request.withBlocks other)).1.exitCode ∧
          (runIn world (request.withBlocks blocks)).1.reports = (runIn world (request.withBlocks other)).1.reports ∧
          (runIn world (request.withBlocks blocks)).1.errors = (runIn world (request.withBlocks other)).1.errors ∧
          ∀ errors, (runIn world (request.withBlocks blocks)).1.Prints errors ↔
            (runIn world (request.withBlocks other)).1.Prints errors) ∧
        ((∃ config documents, ∀ blocks, Completes world (request.withBlocks blocks) config documents ∧
            Delivers world (request.withBlocks blocks)
              (blocks.page (documents.filterMap (Document.pair? config)))) ∨
          ∃ reports failure, ∀ blocks, (runIn world (request.withBlocks blocks)).1 = .ofFailure reports failure)) := by
  refine ⟨fun config document => ⟨declare_text_eq_empty_iff, declare_both_text⟩, ?_⟩
  cases asked : parse (Blocks.classes.name :: rest) with
  | error usage =>
    refine .inl ⟨usage, fun blocks => ?_⟩
    rw [parse_withBlocks, asked]
    rfl
  | ok request =>
    refine .inr ⟨request, fun blocks => ?_, ?_⟩
    · rw [parse_withBlocks, asked]
      rfl
    rcases completes_or_fails_withBlocks world request with ⟨config, documents, completes⟩ | ⟨reports, failure, fails⟩
    · refine ⟨fun blocks other => ?_, .inl ⟨config, documents, fun blocks => ⟨completes blocks, ?_⟩⟩⟩
      · obtain ⟨reports, complete⟩ := declareAll_reports blocks other config documents
        obtain ⟨out, one⟩ := (completes blocks).exists_out
        obtain ⟨out', two⟩ := (completes other).exists_out
        have same : (runIn world (request.withBlocks blocks)).1 =
            .ofTally (declareAll other config documents) out := by
          rw [one, Outcome.ofTally, Outcome.ofTally, ← reports, ← complete]
          rfl
        rw [same, two]
        exact ⟨rfl, rfl, rfl, fun errors => Iff.rfl⟩
      · rw [← declareAll_text]
        exact (completes blocks).delivers
    · refine ⟨fun blocks other => ?_, .inr ⟨reports, failure, fails⟩⟩
      rw [fails, fails]
      exact ⟨rfl, rfl, rfl, fun errors => Iff.rfl⟩

/-- The request for an object to be read, a file that is not JSON and a file that is not there. -/
def threeRequest : Request := ⟨.both, ["-", "/*", "x"], {}, none, {}, none⟩

/-- The object has its class before its interface, the text that is not JSON takes the place of both, and the
missing file that of neither. -/
theorem runIn_withBlocks_three :
    (∀ blocks : Blocks,
      parse (blocks.name :: ["--input", "-", "/*", "x"]) = .ok (threeRequest.withBlocks blocks) ∧
      Completes twiceWorld (threeRequest.withBlocks blocks) {}
        [⟨"<stdin>", .value (.object [])⟩, ⟨"/a", .notJson⟩, ⟨"x", .failed (.unreadable "x" .notFound)⟩]) ∧
    (∀ blocks other, (runIn twiceWorld (threeRequest.withBlocks blocks)).1.errors =
      (runIn twiceWorld (threeRequest.withBlocks other)).1.errors) ∧
    (runIn twiceWorld (threeRequest.withBlocks .classes)).1.out =
      "public class ClassName \x7b\n\x7d\n\nInvalid Json String\n" ∧
    (runIn twiceWorld (threeRequest.withBlocks .interfaces)).1.out =
      "interface interfaceName \x7b\n\x7d\n\nInvalid Json String\n" ∧
    (runIn twiceWorld (threeRequest.withBlocks .both)).1.out = "public class ClassName \x7b\n\x7d\n\n" ++
      "interface interfaceName \x7b\n\x7d\n\nInvalid Json String\n\nInvalid Json String\n" := by
  have words : parse (Blocks.both.name :: ["--input", "-", "/*", "x"]) = .ok threeRequest := by decide +kernel
  have resolved : ((resolve host threeRequest.inputs).run twiceWorld).1 = .ok ["-", "/a", "x"] := by cbv
  have read : ((readSources host ["-", "/a", "x"]).run twiceWorld).1 =
      [⟨"<stdin>", .ok "\x7b\x7d"⟩, ⟨"/a", .ok "t"⟩, ⟨"x", .error (.unreadable "x" .notFound)⟩] := by cbv
  have prepared : ((prepare host threeRequest).run twiceWorld).1 = .ok ({},
      [⟨"<stdin>", .value (.object [])⟩, ⟨"/a", .notJson⟩, ⟨"x", .failed (.unreadable "x" .notFound)⟩]) := by
    refine prepare_eq_ok_iff.2 ⟨rfl, _, resolved, ?_⟩
    rw [documentsOf, read]
    simp only [List.flatMap_cons, Source.documents]
    rw [show threeRequest.selection = {} from rfl, documents_braces]
    rfl
  have completes (blocks : Blocks) : Completes twiceWorld (threeRequest.withBlocks blocks) {}
      [⟨"<stdin>", .value (.object [])⟩, ⟨"/a", .notJson⟩, ⟨"x", .failed (.unreadable "x" .notFound)⟩] :=
    ⟨prepared, fun path some => by cases some⟩
  obtain ⟨-, ⟨usage, refused⟩ | ⟨request, asked, same, rendered⟩⟩ :=
    runIn_withBlocks twiceWorld ["--input", "-", "/*", "x"]
  · cases words.symm.trans (refused .both)
  have both : request.withBlocks .both = threeRequest := Except.ok.inj ((asked .both).symm.trans words)
  have own (blocks : Blocks) : request.withBlocks blocks = threeRequest.withBlocks blocks := by
    rw [← both]
    rfl
  simp only [own] at asked same rendered
  rcases rendered with ⟨config, documents, each⟩ | ⟨reports, failure, fails⟩
  · have found := (each .both).1.prepared.symm.trans prepared
    obtain ⟨rfl, rfl⟩ := Prod.mk.inj (Except.ok.inj found)
    have out (blocks : Blocks) : (runIn twiceWorld (threeRequest.withBlocks blocks)).1.out =
        blocks.page (List.filterMap (Document.pair? {}) _) := (each blocks).2
    refine ⟨fun blocks => ⟨asked blocks, completes blocks⟩, fun blocks other => (same blocks other).2.2.1, ?_, ?_, ?_⟩
    · rw [out]
      decide +kernel
    · rw [out]
      decide +kernel
    · rw [out]
      decide +kernel
  · obtain ⟨out, outcome⟩ := (completes .both).exists_out
    cases congrArg Outcome.failure? (outcome.symm.trans (fails .both))

end TypeSketch.Command
