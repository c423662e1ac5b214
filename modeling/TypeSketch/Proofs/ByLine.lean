import TypeSketch.Proofs.Inputs
import TypeSketch.Proofs.Lines
import TypeSketch.Proofs.Trailing

/-!
# Lines of one file and files of one line

* `Finding`, `Selection.findings`, `documentsOf_eq` : what is found in a text, wherever the text is from;
* `Finding.report?`, `Selection.reports` : what is reported of it, under the origin of the text;
* `declare_eq`, `declareAll_congr` : the origin of a document matters to its report alone;
* `Holds`, `holds_of_literal` : the inputs that stand for files with some texts;
* `documents_byLine` : the documents of a file by its lines;
* `runIn_byLine` : a run on the lines of a file, by a run on files that hold a line each.
-/

namespace TypeSketch.Command

open Json Text World

/-! ## Findings -/

/-- What is found in a text, with its number if it is an output of a filter. -/
structure Finding where
  number? : Option Nat := none
  loaded : Loaded

/-- What is found in a text: every output of the filter, or one thing that is not an output. -/
def Selection.findings (selection : Selection) (text : List Char) : List Finding :=
  match parseChars text with
  | .error _ => [{ loaded := .notJson }]
  | .ok value =>
    match selection.part value with
    | .error reason => [{ loaded := .failed reason }]
    | .ok part =>
      match selection.filter? with
      | none => [{ loaded := .value part }]
      | some code =>
        match Filter.run code part with
        | .ok outputs => outputs.zipIdx.map fun output => ⟨some output.2, .value output.1⟩
        | .error failure => [{ loaded := .failed (.filter code failure) }]

/-- Why there is nothing to declare, if that is reported. -/
def Loaded.reason? : Loaded → Option Reason
  | .value (.object _) => none
  | .value other => some (.notObject ⟨other.kind⟩)
  | .notJson => none
  | .failed reason => some reason

namespace Finding

/-- What a number adds to the origin of a text. -/
def suffix (finding : Finding) : String :=
  match finding.number? with
  | none => ""
  | some number => "#" ++ toString number

/-- The document that a finding is, under the origin of its text. -/
def document (origin : String) (finding : Finding) : Document := ⟨origin ++ finding.suffix, finding.loaded⟩

/-- The report of a finding, if there is one, under the origin of its text. -/
def report? (origin : String) (finding : Finding) : Option String :=
  finding.loaded.reason?.map fun reason =>
    "error: " ++ (origin ++ finding.suffix) ++ ": " ++ reason.message ++ "\n"

end Finding

/-- The documents of some texts, each under an origin. -/
def Selection.placed (selection : Selection) (texts : List (String × String)) : List Document :=
  texts.flatMap fun text => (selection.findings text.2.toList).map (Finding.document text.1)

/-- What is reported of some texts, each under an origin. -/
def Selection.reports (selection : Selection) (texts : List (String × String)) : List String :=
  texts.flatMap fun text => (selection.findings text.2.toList).filterMap (Finding.report? text.1)

theorem numbered_eq (origin : String) (n : Nat) (outputs : List Value) :
    Document.numbered origin n outputs =
      (outputs.zipIdx n).map fun output => Finding.document origin ⟨some output.2, .value output.1⟩ := by
  induction outputs generalizing n with
  | nil => rfl
  | cons output rest ih =>
    rw [Document.numbered, ih, List.zipIdx_cons, List.map_cons, String.append_assoc]
    rfl

/-- The documents of a text are what is found in it. -/
theorem documentsOf_eq (selection : Selection) (origin : String) (text : List Char) :
    selection.documentsOf origin text = (selection.findings text).map (Finding.document origin) := by
  have single (loaded : Loaded) : [(⟨origin, loaded⟩ : Document)] = [Finding.document origin { loaded }] := by
    rw [Finding.document, Finding.suffix, String.append_empty]
  unfold Selection.documentsOf Selection.findings
  cases parseChars text with
  | error fault => exact single _
  | ok value =>
    dsimp only
    cases selection.part value with
    | error reason => exact single _
    | ok part =>
      unfold Selection.filtered
      dsimp only
      cases selection.filter? with
      | none => exact single _
      | some code =>
        dsimp only
        cases Filter.run code part with
        | error failure => exact single _
        | ok outputs =>
          dsimp only
          rw [numbered_eq, List.map_map]
          rfl

theorem findings_returned (selection : Selection) {line text : List Char} (h : Returned line text) :
    selection.findings line = selection.findings text := by
  rcases h with rfl | rfl
  · rfl
  have same : ∀ value, parseChars (line ++ ['\r']) = .ok value ↔ parseChars line = .ok value :=
    fun _ => parse_concat_iff rfl
  unfold Selection.findings
  cases accepted : parseChars line with
  | ok value => rw [(same value).2 accepted]
  | error fault =>
    cases longer : parseChars (line ++ ['\r']) with
    | ok value => cases accepted.symm.trans ((same value).1 longer)
    | error fault' => rfl

/-! ## Renderings -/

section

variable {blocks : Blocks} {config : Config}

/-- The origin of a document matters to its report alone. -/
theorem declare_eq (origin : String) (loaded : Loaded) :
    Document.declare blocks config ⟨origin, loaded⟩ =
      { Document.declare blocks config ⟨"", loaded⟩ with
        report? := Finding.report? origin { loaded } } := by
  unfold Finding.report? Finding.suffix
  rw [String.append_empty]
  cases loaded with
  | notJson => rfl
  | failed reason => rfl
  | value value => cases value <;> rfl

theorem declareAll_congr {documents others : List Document}
    (same : documents.map Document.loaded = others.map Document.loaded) :
    (declareAll blocks config documents).text = (declareAll blocks config others).text ∧
      (declareAll blocks config documents).complete = (declareAll blocks config others).complete := by
  have texts (documents : List Document) :
      (documents.map (Document.declare blocks config)).map Rendering.text =
        (documents.map Document.loaded).map fun loaded => (Document.declare blocks config ⟨"", loaded⟩).text := by
    rw [List.map_map, List.map_map]
    refine List.map_congr_left fun document _ => ?_
    obtain ⟨origin, loaded⟩ := document
    rw [Function.comp_apply, declare_eq]
    rfl
  have declared (documents : List Document) :
      (documents.map (Document.declare blocks config)).all Rendering.declared =
        (documents.map Document.loaded).all fun loaded => (Document.declare blocks config ⟨"", loaded⟩).declared := by
    rw [List.all_map, List.all_map]
    congr 1
    funext document
    obtain ⟨origin, loaded⟩ := document
    rw [Function.comp_apply, declare_eq]
    rfl
  constructor
  · rw [declareAll, declareAll, Tally.ofRenderings, Tally.ofRenderings, texts, texts, same]
  · rw [declareAll, declareAll, Tally.ofRenderings, Tally.ofRenderings, declared, declared, same]

theorem reports_placed (selection : Selection) (texts : List (String × String)) :
    (declareAll blocks config (selection.placed texts)).reports = selection.reports texts := by
  have single (origin : String) (finding : Finding) :
      (Document.declare blocks config (Finding.document origin finding)).report? = Finding.report? origin finding := by
    rw [Finding.document, declare_eq, Finding.report?, Finding.report?]
    simp only [Finding.suffix, String.append_empty]
  simp only [declareAll, Tally.ofRenderings, Selection.placed, Selection.reports, List.filterMap_map,
    List.filterMap_flatMap, Function.comp_def, single]

/-- The same texts under other origins are declared in the same way. -/
theorem declareAll_placed (selection : Selection) {texts others : List (String × String)}
    (same : texts.map Prod.snd = others.map Prod.snd) :
    (declareAll blocks config (selection.placed texts)).text =
        (declareAll blocks config (selection.placed others)).text ∧
      (declareAll blocks config (selection.placed texts)).complete =
        (declareAll blocks config (selection.placed others)).complete := by
  have loaded (texts : List (String × String)) : (selection.placed texts).map Document.loaded =
      (texts.map Prod.snd).flatMap fun text => (selection.findings text.toList).map Finding.loaded := by
    rw [Selection.placed, List.map_flatMap, List.flatMap_map]
    simp only [List.map_map]
    rfl
  exact declareAll_congr (by rw [loaded, loaded, same])

end

/-! ## Files -/

/-- Some inputs stand for files that hold some texts. -/
structure Holds (world : World) (inputs paths texts : List String) : Prop where
  resolved : ((resolve host inputs).run world).1 = .ok paths
  read : List.Forall₂ (fun path text => path ≠ "-" ∧ world.disk.readText path = .ok text) paths texts

variable {world : World} {inputs paths texts : List String}

/-- Paths that can be taken for nothing else stand for the files they lead to. -/
theorem holds_of_literal (literal : ∀ path ∈ paths, isPattern path = false)
    (read : List.Forall₂ (fun path text => path ≠ "-" ∧ world.disk.readText path = .ok text) paths texts) :
    Holds world paths paths texts := by
  refine ⟨?_, read⟩
  clear read
  induction paths with
  | nil => rfl
  | cons path rest ih =>
    obtain ⟨head, tail⟩ := List.forall_mem_cons.1 literal
    refine resolve_cons_eq_ok_iff.2 ⟨[path], rest, ?_, ih tail, rfl⟩
    rw [resolveOne, head]
    rfl

theorem Holds.documents (h : Holds world inputs paths texts) (selection : Selection) :
    documentsOf world selection paths = (paths.zip texts).flatMap fun entry => selection.documents entry.1 entry.2 := by
  obtain ⟨-, read⟩ := h
  unfold documentsOf
  induction read with
  | nil => rfl
  | @cons path text paths texts head _ ih =>
    have source : (readSource host path).run world = (⟨path, .ok text⟩, world) := by
      have found : (host.readText path).run world = (.ok text, world) := congrArg (·, world) head.2
      rw [readSource, if_neg head.1, run_bind, found]
      rfl
    rw [readSources, run_bind, source, run_bind, List.zip_cons_cons, List.flatMap_cons, ← ih]
    rfl

/-- The lines of a text that are not blank are texts under the numbers of the lines. -/
def underLines (origin : String) (numbered : List (Nat × String)) : List (String × String) :=
  numbered.map fun line => (origin ++ ":" ++ toString line.1, line.2)

theorem documents_byLine {text : String} {numbered : List (Nat × String)} (laid : OnLines 1 numbered text.toList)
    (selection : Selection) (origin : String) :
    Selection.documents { selection with byLine := true } origin text =
      selection.placed (underLines origin numbered) := by
  have skipped (lines : List (Nat × List Char)) :
      lines.flatMap (Selection.documentsOfLine { selection with byLine := true } origin) =
        (lines.filter fun line => !isWhiteOnly line.2).flatMap fun line =>
          (selection.findings line.2).map (Finding.document (origin ++ ":" ++ toString line.1)) := by
    induction lines with
    | nil => rfl
    | cons line rest ih =>
      rw [List.flatMap_cons, ih, Selection.documentsOfLine]
      cases white : isWhiteOnly line.2 with
      | true =>
        rw [List.filter_cons_of_neg (by rw [white]; decide)]
        rfl
      | false =>
        rw [List.filter_cons_of_pos (by rw [white]; rfl), List.flatMap_cons, documentsOf_eq]
        rfl
  have held := shown_lines laid
  rw [Selection.documents, if_pos rfl, numberedLines, skipped, Selection.placed, underLines, List.flatMap_map]
  clear laid skipped
  generalize (numberedFrom 1 (lines text.toList)).filter (fun line => !isWhiteOnly line.2) = shown at held ⊢
  induction held with
  | nil => rfl
  | cons head _ ih => rw [List.flatMap_cons, List.flatMap_cons, ih, head.1, findings_returned selection head.2]

/-! ## Runs -/

variable {request : Request} {config : Config}

/-- A run without a configuration fails before it reads its inputs. -/
theorem runIn_of_loadConfig_error {failure : Failure}
    (failed : ((loadConfig host request).run world).1 = .error failure) :
    (runIn world request).1 = .ofFailure [] failure := by
  rw [runIn, run, run_bind, prepare, run_bind, failed]
  rfl

/-- A run on files that prints its texts adds up the documents of the files. -/
theorem Holds.runIn_printed (request : Request) {documents : List Document}
    (h : Holds world request.inputs paths texts) (printed : request.output? = none)
    (loaded : ((loadConfig host request).run world).1 = .ok config)
    (found : ((paths.zip texts).flatMap fun entry => request.selection.documents entry.1 entry.2) = documents) :
    (runIn world request).1 =
      .ofTally (declareAll request.blocks config documents) (declareAll request.blocks config documents).text := by
  rw [← found, ← h.documents]
  refine Completes.runIn_printed ⟨prepare_eq_ok_iff.2 ⟨loaded, paths, h.resolved, rfl⟩, fun path some => ?_⟩ printed
  cases printed.symm.trans some

variable {other : World} {others : List String} {file text : String} {numbered : List (Nat × String)}

/-- **A run on the lines of a file** prints the same and ends with the same exit code as a run on files
that hold the texts of these lines. It reports the same reasons in the same order, each under the number
of its line in place of the path of its file. -/
theorem runIn_byLine (printed : request.output? = none) (whole : Holds world inputs [file] [text])
    (laid : OnLines 1 numbered text.toList) (apart : Holds other others paths (numbered.map Prod.snd))
    (same : ((loadConfig host request).run other).1 = ((loadConfig host request).run world).1) :
    let byLine := (runIn world
      { request with inputs := inputs, selection := { request.selection with byLine := true } }).1
    let byFile := (runIn other
      { request with inputs := others, selection := { request.selection with byLine := false } }).1
    byLine.out = byFile.out ∧ byLine.exitCode = byFile.exitCode ∧
      match ((loadConfig host request).run world).1 with
      | .error failure => byLine.reports = [] ∧ byFile.reports = [] ∧
        byLine.errors = "error: " ++ failure.message ++ "\n" ∧ byFile.errors = "error: " ++ failure.message ++ "\n"
      | .ok _ =>
        byLine.reports = request.selection.reports (underLines file numbered) ∧
          byFile.reports = request.selection.reports (paths.zip (numbered.map Prod.snd)) ∧
          byLine.errors = String.join (request.selection.reports (underLines file numbered)) ∧
          byFile.errors = String.join (request.selection.reports (paths.zip (numbered.map Prod.snd))) := by
  intro byLine byFile
  cases loaded : ((loadConfig host request).run world).1 with
  | error failure =>
    have lined : byLine = .ofFailure [] failure := runIn_of_loadConfig_error loaded
    have filed : byFile = .ofFailure [] failure := runIn_of_loadConfig_error (same.trans loaded)
    have errors := Outcome.errors_ofFailure_nil failure
    rw [lined, filed]
    exact ⟨rfl, rfl, rfl, rfl, errors, errors⟩
  | ok config =>
    let onLines := declareAll request.blocks config (request.selection.placed (underLines file numbered))
    let inFiles := declareAll request.blocks config (request.selection.placed (paths.zip (numbered.map Prod.snd)))
    have lined : byLine = .ofTally onLines onLines.text := by
      refine Holds.runIn_printed _ whole printed loaded ?_
      exact (List.flatMap_singleton ..).trans (documents_byLine laid request.selection file)
    have filed : byFile = .ofTally inFiles inFiles.text := by
      refine Holds.runIn_printed _ apart printed (same.trans loaded) ?_
      exact List.flatMap_congr fun entry _ => documentsOf_eq ..
    have texts : (underLines file numbered).map Prod.snd = (paths.zip (numbered.map Prod.snd)).map Prod.snd := by
      rw [List.map_snd_zip (le_of_eq apart.read.length_eq.symm), underLines, List.map_map]
      rfl
    obtain ⟨text, complete⟩ := @declareAll_placed request.blocks config request.selection _ _ texts
    have reports (texts : List (String × String)) :=
      @reports_placed request.blocks config request.selection texts
    rw [lined, filed]
    refine ⟨text, ?_, reports _, reports _, ?_, ?_⟩
    · rw [Outcome.ofTally, Outcome.ofTally, complete]
    · rw [← reports]
      exact String.append_empty
    · rw [← reports]
      exact String.append_empty

/-- The file `l` holds the texts of `a` and `b` with a line of an em space between them. The first of
them ends in a carriage return. -/
def linesWorld : World where
  disk.entries := [(["l"], .file (.text "t\r\n\u2003\r\n[]")), (["a"], .file (.text "t\r")),
    (["b"], .file (.text "[]"))]

theorem runIn_byLine_return :
    Holds linesWorld ["l"] ["l"] ["t\r\n\u2003\r\n[]"] ∧
    OnLines 1 [(1, "t\r"), (3, "[]")] "t\r\n\u2003\r\n[]".toList ∧
    Holds linesWorld ["a", "b"] ["a", "b"] ["t\r", "[]"] ∧
    (let byLine := (runIn linesWorld ⟨.both, ["l"], { byLine := true }, none, {}, none⟩).1
    let byFile := (runIn linesWorld ⟨.both, ["a", "b"], {}, none, {}, none⟩).1
    byLine.out = byFile.out ∧ byLine.exitCode = byFile.exitCode ∧
      byLine.errors = "error: l:3: expected a JSON object at the top level, found array\n" ∧
      byFile.errors = "error: b: expected a JSON object at the top level, found array\n") := by
  have whole : Holds linesWorld ["l"] ["l"] ["t\r\n\u2003\r\n[]"] :=
    holds_of_literal (by decide) (.cons ⟨by decide, by cbv⟩ .nil)
  have apart : Holds linesWorld ["a", "b"] ["a", "b"] ["t\r", "[]"] :=
    holds_of_literal (by decide) (.cons ⟨by decide, by cbv⟩ (.cons ⟨by decide, by cbv⟩ .nil))
  have laid : OnLines 1 [(1, "t\r"), (3, "[]")] "t\r\n\u2003\r\n[]".toList := by
    have last : OnLines 3 [(3, "[]")] "[]".toList := .lastText (by decide) (by decide)
    have blank : OnLines 2 [(3, "[]")] (['\u2003'] ++ ['\r', '\n'] ++ "[]".toList) :=
      .blank (by decide) (by decide) (.inr rfl) last
    exact .text (by decide) (by decide) (.inl rfl) blank
  refine ⟨whole, laid, apart, ?_⟩
  obtain ⟨out, exitCode, -, -, lined, filed⟩ :=
    @runIn_byLine linesWorld _ _ ⟨.both, [], {}, none, {}, none⟩ linesWorld _ _ _ _ rfl whole laid apart rfl
  have word : Selection.findings {} "t\r".toList = [{ loaded := .notJson }] := rfl
  have array : Selection.findings {} "[]".toList = [{ loaded := .value (.array []) }] := by
    have accepted : parseChars "[]".toList = .ok (.array []) :=
      parse_eq_ok_iff.2 ⟨[], .array (t := [']']) rfl (.close rfl), rfl⟩
    rw [Selection.findings, accepted]
    rfl
  refine ⟨out, exitCode, lined.trans ?_, filed.trans ?_⟩
  · simp only [Selection.reports, underLines, List.map_cons, List.map_nil, List.flatMap_cons, word, array]
    decide +kernel
  · simp only [Selection.reports, List.map_cons, List.zip_cons_cons, List.flatMap_cons, word, array]
    decide +kernel

end TypeSketch.Command
