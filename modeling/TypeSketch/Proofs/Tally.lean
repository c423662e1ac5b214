import Mathlib
import TypeSketch.Command.Run
import TypeSketch.Proofs.Declaration
import TypeSketch.Proofs.Disk
import TypeSketch.Proofs.Host

/-!
# What documents add to a run

* `Contribution`, `Contributes` : what a document can add to a run, and when it does;
* `exists_contributes`, `Contributes.unique`, `Contributes.text_ne_empty` : a document adds exactly one
  thing, and no text that it adds is empty;
* `Contributes.declare_eq`, `declareAll_eq` : a document is rendered as what it adds, and what all of
  them add up to;
* `writeFile_eq_ok_iff`, `readText_of_writeFile` : what writing a file does, and that what was written is
  there afterwards;
* `Completes`, `failure?_eq_none_iff` : the runs that do not fail as a whole, by what they do and by what they
  leave behind;
* `outcome_of_contributions` : what such a run prints, reports and returns.
-/

namespace TypeSketch.Command

open Json World

/-! ## Contributions -/

/-- What a document adds to a run. -/
inductive Contribution where
  /-- The declarations of an object. -/
  | declared (text : String)
  /-- The text in place of declarations of what is not JSON. -/
  | notJson (text : String)
  /-- A line that says why there is nothing to declare. -/
  | reported (line : String)
deriving DecidableEq, Repr

namespace Contribution

/-- The text for the output. -/
def text? : Contribution → Option String
  | .declared text => some text
  | .notJson text => some text
  | .reported _ => none

/-- The line for the reports. -/
def line? : Contribution → Option String
  | .reported line => some line
  | _ => none

def isDeclared : Contribution → Bool
  | .declared _ => true
  | _ => false

/-- The rendering that adds this. -/
def rendering : Contribution → Rendering
  | .declared text => ⟨text, none, true⟩
  | .notJson text => ⟨text, none, false⟩
  | .reported line => ⟨"", some (line ++ "\n"), false⟩

end Contribution

variable {blocks : Blocks} {config : Config} {document : Document} {contribution : Contribution}

/-- What a document adds: an object its declarations, a text that is not JSON a fixed text for each
declaration, and everything else a report. -/
inductive Contributes (blocks : Blocks) (config : Config) : Document → Contribution → Prop
  | object (origin : String) (members : List (String × Value)) :
    Contributes blocks config ⟨origin, .value (.object members)⟩
      (.declared (blocks.text (classText config members) (interfaceText config members)))
  | notJson (origin : String) :
    Contributes blocks config ⟨origin, .notJson⟩
      (.notJson (blocks.text "Invalid Json String" "Invalid Json String"))
  | failed (origin : String) (reason : Reason) :
    Contributes blocks config ⟨origin, .failed reason⟩
      (.reported ("error: " ++ origin ++ ": " ++ reason.message))
  | notObject (origin : String) {value : Value} (other : value.kind ≠ .object) :
    Contributes blocks config ⟨origin, .value value⟩
      (.reported ("error: " ++ origin ++ ": " ++
        ("expected a JSON object at the top level, found " ++ value.kind.name)))

theorem Contributes.unique {other : Contribution} (h : Contributes blocks config document contribution)
    (h' : Contributes blocks config document other) : contribution = other := by
  cases h with
  | object origin members =>
    cases h' with
    | object => rfl
    | notObject _ other => exact absurd rfl other
  | notJson origin => cases h'; rfl
  | failed origin reason => cases h'; rfl
  | notObject origin other =>
    cases h' with
    | object => exact absurd rfl other
    | notObject => rfl

/-- A document is rendered as what it adds. -/
theorem Contributes.declare_eq (h : Contributes blocks config document contribution) :
    document.declare blocks config = contribution.rendering := by
  cases h with
  | object origin members => simp only [Document.declare, render_object]; rfl
  | notJson origin => rfl
  | failed origin reason => rfl
  | notObject origin other => simp only [Document.declare, render_eq_error config other]; rfl

/-! ## Texts that are not empty -/

theorem Blocks.text_ne_empty (blocks : Blocks) {classBlock interfaceBlock : String} (hc : classBlock ≠ "")
    (hi : interfaceBlock ≠ "") : blocks.text classBlock interfaceBlock ≠ "" := by
  cases blocks with
  | classes => exact hc
  | interfaces => exact hi
  | both => exact fun empty => hc (String.append_eq_empty_iff.1 (String.append_eq_empty_iff.1 empty).1).1

theorem classText_ne_empty (config : Config) (members : List (String × Value)) : classText config members ≠ "" := by
  unfold classText
  simp

theorem interfaceText_ne_empty (config : Config) (members : List (String × Value)) :
    interfaceText config members ≠ "" := by
  unfold interfaceText
  simp

theorem Contributes.text_ne_empty (h : Contributes blocks config document contribution) {text : String}
    (ht : contribution.text? = some text) : text ≠ "" := by
  cases h with
  | object origin members =>
    obtain rfl := Option.some.inj ht
    exact blocks.text_ne_empty (classText_ne_empty config members) (interfaceText_ne_empty config members)
  | notJson origin =>
    obtain rfl := Option.some.inj ht
    exact blocks.text_ne_empty (by decide) (by decide)
  | failed origin reason => cases ht
  | notObject origin other => cases ht

/-! ## Tallies -/

variable {contributions : List Contribution} {documents : List Document}

theorem map_declare_eq (h : List.Forall₂ (Contributes blocks config) documents contributions) :
    documents.map (Document.declare blocks config) = contributions.map Contribution.rendering := by
  induction h with
  | nil => rfl
  | cons head _ ih => rw [List.map_cons, List.map_cons, head.declare_eq, ih]

/-- The texts that are not left out are those of the contributions. -/
theorem filter_texts (h : List.Forall₂ (Contributes blocks config) documents contributions) :
    ((contributions.map Contribution.rendering).map Rendering.text).filter (fun text => text ≠ "") =
      contributions.filterMap Contribution.text? := by
  induction h with
  | nil => rfl
  | @cons document contribution _ _ head _ ih =>
    rw [List.map_cons, List.map_cons, List.filter_cons, ih]
    cases contribution with
    | reported line => rfl
    | declared text => simp [Contribution.rendering, Contribution.text?, head.text_ne_empty rfl]
    | notJson text => simp [Contribution.rendering, Contribution.text?, head.text_ne_empty rfl]

theorem filterMap_report? (contributions : List Contribution) :
    (contributions.map Contribution.rendering).filterMap Rendering.report? =
      (contributions.filterMap Contribution.line?).map (· ++ "\n") := by
  rw [List.filterMap_map, List.map_filterMap]
  congr 1
  funext contribution
  cases contribution <;> rfl

theorem all_declared (contributions : List Contribution) :
    (contributions.map Contribution.rendering).all Rendering.declared =
      contributions.all Contribution.isDeclared := by
  rw [List.all_map]
  congr 1
  funext contribution
  cases contribution <;> rfl

/-- Documents add up to what they contribute, in order. -/
theorem declareAll_eq (h : List.Forall₂ (Contributes blocks config) documents contributions) :
    declareAll blocks config documents =
      ⟨"\n\n".intercalate (contributions.filterMap Contribution.text?) ++ "\n",
        (contributions.filterMap Contribution.line?).map (· ++ "\n"),
        contributions.all Contribution.isDeclared⟩ := by
  rw [declareAll, map_declare_eq h, Tally.ofRenderings, filter_texts h, filterMap_report?, all_declared]

/-! ## Files that are written -/

theorem overwrite_eq_ok_iff {path text : String} {world after : World} :
    (overwrite World.host path text).run world = (.ok (), after) ↔
      ∃ place, world.disk.Writable path place ∧
        after = { world with disk := world.disk.put place (.file (.text text)) } := by
  unfold overwrite
  rw [run_bind]
  cases written : world.disk.writeText path text with
  | error e =>
    have failed : (World.host.writeText path text).run world = (.error e, world) := by
      simp only [World.host, World.change, StateT.run, written]
    rw [failed]
    constructor
    · intro h; cases h
    · rintro ⟨place, writable, -⟩
      rw [Disk.writeText_eq_ok_iff.2 ⟨place, writable, rfl⟩] at written
      cases written
  | ok disk =>
    have done : (World.host.writeText path text).run world = (.ok (), { world with disk }) := by
      simp only [World.host, World.change, StateT.run, written]
    rw [done]
    constructor
    · intro h
      obtain ⟨place, writable, rfl⟩ := Disk.writeText_eq_ok_iff.1 written
      exact ⟨place, writable, (Prod.mk.inj h).2.symm⟩
    · rintro ⟨place, writable, rfl⟩
      rw [Disk.writeText_eq_ok_iff.2 ⟨place, writable, rfl⟩] at written
      obtain rfl := Except.ok.inj written
      rfl

/-- The world once the directory is there that a path is in. -/
def Made (world : World) (path : String) (made : World) : Prop :=
  match Path.parent? path with
  | none => made = world
  | some directory => (World.host.makeDirectories directory).run world = (.ok (), made)

/-- What writing a file does, whatever its text is: it makes the directory that the file is in, and puts
the file where the path then names one. -/
theorem writeFile_eq_ok_iff {path text : String} {world after : World} :
    (writeFile World.host path text).run world = (.ok (), after) ↔
      ∃ made place, Made world path made ∧ made.disk.Writable path place ∧
        after = { made with disk := made.disk.put place (.file (.text text)) } := by
  unfold writeFile Made
  cases Path.parent? path with
  | none =>
    dsimp only
    rw [overwrite_eq_ok_iff]
    constructor
    · rintro ⟨place, h⟩
      exact ⟨world, place, rfl, h⟩
    · rintro ⟨_, place, rfl, h⟩
      exact ⟨place, h⟩
  | some directory =>
    dsimp only
    rw [run_bind]
    cases ran : (World.host.makeDirectories directory).run world with
    | mk result made =>
      cases result with
      | error e =>
        constructor
        · intro h; cases h
        · rintro ⟨_, _, h, -⟩; cases h
      | ok _ =>
        refine overwrite_eq_ok_iff.trans ⟨?_, ?_⟩
        · rintro ⟨place, h⟩
          exact ⟨made, place, rfl, h⟩
        · rintro ⟨_, place, h, rest⟩
          obtain rfl := (Prod.mk.inj h).2
          exact ⟨place, rest⟩

/-- Where a file was written, it could be. -/
theorem exists_writable {path text : String} {world : World}
    (h : ((writeFile World.host path text).run world).1 = .ok ()) :
    ∃ made place, Made world path made ∧ made.disk.Writable path place ∧
      ((writeFile World.host path text).run world).2 =
        { made with disk := made.disk.put place (.file (.text text)) } :=
  writeFile_eq_ok_iff.1 (Prod.ext h rfl)

/-- What a run writes is there afterwards, also where directories had to be made for it. -/
theorem readText_of_writeFile {path text : String} {world : World}
    (h : ((writeFile World.host path text).run world).1 = .ok ()) :
    ((writeFile World.host path text).run world).2.disk.readText path = .ok text := by
  obtain ⟨made, place, -, writable, after⟩ := exists_writable h
  rw [after]
  exact Disk.readText_of_writeText (Disk.writeText_eq_ok_iff.2 ⟨place, writable, rfl⟩)

/-! ## Runs that do not fail as a whole -/

/-- The run of a request does not fail as a whole: there is a configuration, every input stands for
paths, and what the documents add up to can be written where it is to be written. -/
structure Completes (world : World) (request : Request) (config : Config) (documents : List Document) : Prop where
  prepared : ((prepare World.host request).run world).1 = .ok (config, documents)
  written : ∀ path, request.output? = some path →
    ((writeFile World.host path (declareAll request.blocks config documents).text).run
      ((prepare World.host request).run world).2).1 = .ok ()

variable {world : World} {request : Request}

theorem runIn_eq_deliver (prepared : ((prepare World.host request).run world).1 = .ok (config, documents)) :
    runIn world request =
      (deliver World.host request.output? (declareAll request.blocks config documents)).run
        ((prepare World.host request).run world).2 := by
  rw [runIn, run, run_bind, prepared]

/-- A run without a configuration or documents fails before anything is reported of a document. -/
theorem runIn_of_prepare_error {failure : Failure}
    (failed : ((prepare World.host request).run world).1 = .error failure) :
    (runIn world request).1 = .ofFailure [] failure := by
  rw [runIn, run, run_bind, failed]
  rfl

/-- A run that cannot write its texts fails when everything has been reported of the documents. -/
theorem runIn_of_writeFile_error {path : String} {failure : Failure}
    (prepared : ((prepare World.host request).run world).1 = .ok (config, documents))
    (output : request.output? = some path)
    (failed : ((writeFile World.host path (declareAll request.blocks config documents).text).run
      ((prepare World.host request).run world).2).1 = .error failure) :
    (runIn world request).1 = .ofFailure (declareAll request.blocks config documents).reports failure := by
  rw [runIn_eq_deliver prepared, output, deliver, run_bind, failed]
  rfl

/-- A run to the end prints what its documents add up to. -/
theorem Completes.runIn_printed (h : Completes world request config documents) (output : request.output? = none) :
    (runIn world request).1 =
      .ofTally (declareAll request.blocks config documents) (declareAll request.blocks config documents).text := by
  rw [runIn_eq_deliver h.prepared, output]
  rfl

/-- A run to the end writes what its documents add up to, and prints nothing. -/
theorem Completes.runIn_written (h : Completes world request config documents) {path : String}
    (output : request.output? = some path) :
    (runIn world request).1 = .ofTally (declareAll request.blocks config documents) "" ∧
      (runIn world request).2.disk.readText path = .ok (declareAll request.blocks config documents).text := by
  have written := h.written path output
  rw [runIn_eq_deliver h.prepared, output, deliver, run_bind, written]
  exact ⟨rfl, readText_of_writeFile written⟩

/-- A run to the end has the outcome of its documents, whatever it prints. -/
theorem Completes.exists_out (h : Completes world request config documents) :
    ∃ out, (runIn world request).1 = .ofTally (declareAll request.blocks config documents) out := by
  cases output : request.output? with
  | none => exact ⟨_, h.runIn_printed output⟩
  | some path => exact ⟨_, (h.runIn_written output).1⟩

/-- The runs that end without a failure are those to the end. -/
theorem failure?_eq_none_iff :
    (runIn world request).1.failure? = none ↔ ∃ config documents, Completes world request config documents := by
  constructor
  · intro whole
    cases prepared : ((prepare World.host request).run world).1 with
    | error failure =>
      rw [runIn_of_prepare_error prepared] at whole
      cases whole
    | ok both =>
      obtain ⟨config, documents⟩ := both
      refine ⟨config, documents, prepared, fun path output => ?_⟩
      cases written : ((writeFile World.host path (declareAll request.blocks config documents).text).run
          ((prepare World.host request).run world).2).1 with
      | ok _ => rfl
      | error failure =>
        rw [runIn_of_writeFile_error prepared output written] at whole
        cases whole
  · rintro ⟨config, documents, completes⟩
    obtain ⟨out, outcome⟩ := completes.exists_out
    rw [outcome]
    rfl

theorem documents_braces (origin : String) :
    Selection.documents {} origin "\x7b\x7d" = [⟨origin, .value (.object [])⟩] := by
  have accepted : parseChars "\x7b\x7d".toList = .ok (.object []) := parse_braces
  simp only [Selection.documents, Selection.documentsOf, accepted]
  rfl

end TypeSketch.Command
