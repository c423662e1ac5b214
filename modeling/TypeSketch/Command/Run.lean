import TypeSketch.Command.Document
import TypeSketch.Config.Reader

/-!
# Runs

A run renders every document of its inputs. What goes wrong with one document does not keep the
others from being rendered.

* `Rendering` : what rendering a document gives;
* `Document.declare` : renders a document;
* `Tally` : the renderings of all documents put together;
* `Failure` : what ends a run as a whole, with its wording;
* `Outcome` : the exit code, what was printed, and what was reported;
* `Outcome.Prints` : the texts that the reports can be printed as;
* `prepare` : the configuration and the documents of a request;
* `run` : the outcome of a request.
-/

namespace TypeSketch.Command

/-! ## Renderings -/

/-- What rendering a document gives: a text for the output, a line that is reported if there is one, and
whether the document was declared. -/
structure Rendering where
  text : String
  report? : Option String
  declared : Bool
deriving DecidableEq, Repr

namespace Document

/-- Reports why a document is not declared. -/
def report (document : Document) (reason : Reason) : Rendering :=
  ⟨"", some ("error: " ++ document.origin ++ ": " ++ reason.message ++ "\n"), false⟩

/-- Renders a document. What is not JSON has a text in place of each declaration. -/
def declare (blocks : Blocks) (config : Config) (document : Document) : Rendering :=
  match document.loaded with
  | .notJson => ⟨blocks.text invalidText invalidText, none, false⟩
  | .failed reason => document.report reason
  | .value value =>
    match render config value with
    | .ok declarations => ⟨blocks.text declarations.classBlock declarations.interfaceBlock, none, true⟩
    | .error e => document.report (.notObject e)

end Document

/-! ## Tallies -/

/-- What all documents of a run add up to. -/
structure Tally where
  /-- The texts with blank lines between them, and a line end. -/
  text : String
  /-- The lines that are reported, each with its end, in the order of the documents. -/
  reports : List String
  /-- Whether all documents were declared. -/
  complete : Bool
deriving DecidableEq, Repr

/-- Puts renderings together. Empty texts are left out. -/
def Tally.ofRenderings (renderings : List Rendering) : Tally where
  text := "\n\n".intercalate ((renderings.map Rendering.text).filter fun text => text ≠ "") ++ "\n"
  reports := renderings.filterMap Rendering.report?
  complete := renderings.all Rendering.declared

/-- Renders documents. -/
def declareAll (blocks : Blocks) (config : Config) (documents : List Document) : Tally :=
  Tally.ofRenderings (documents.map (Document.declare blocks config))

/-! ## Failures -/

/-- What ends a run as a whole. -/
inductive Failure where
  | configUnreadable (path : String) (error : FileError)
  | configRejected (path text : String) (rejection : Config.Rejection)
  | unresolved (why : Unresolved)
  | notMade (path : String) (error : FileError)
  | notWritten (path : String) (error : FileError)
deriving DecidableEq, Repr

/-- The wording of a failure. -/
def Failure.message : Failure → String
  | .configUnreadable path error => "failed to load config " ++ path ++ ": " ++ unreadableText path error
  | .configRejected path text rejection => "failed to load config " ++ path ++ ": " ++ rejection.message text
  | .unresolved why => "failed to resolve input file paths: " ++ why.message
  | .notMade path error => "failed to create " ++ path ++ ": " ++ error.message
  | .notWritten path error => "failed to write " ++ path ++ ": " ++ error.message

/-! ## Outcomes -/

/-- What a run leaves behind apart from files: the exit code, what it prints, the lines that it reports on
documents, in the order of these, and the failure that ends it. Warnings that are logged beside the reports (of
inputs that cannot be read, texts that are not JSON and empty lists) are no part of it, and neither are colours. -/
structure Outcome where
  exitCode : Nat
  out : String
  reports : List String
  failure? : Option Failure
deriving DecidableEq, Repr

namespace Outcome

/-- The outcome of a failure after some reports. -/
def ofFailure (reports : List String) (failure : Failure) : Outcome := ⟨1, "", reports, some failure⟩

/-- The outcome of a run to the end, `out` being what it printed. -/
def ofTally (tally : Tally) (out : String) : Outcome :=
  ⟨if tally.complete then 0 else 1, out, tally.reports, none⟩

/-- The line that reports the failure. -/
def lastReport (outcome : Outcome) : String :=
  match outcome.failure? with
  | none => ""
  | some failure => "error: " ++ failure.message ++ "\n"

/-- A text that the reports can be printed as. Documents are rendered side by side, each reporting as it is
rendered, so that nothing fixes the order of their lines. A failure is reported when all of them are. -/
def Prints (outcome : Outcome) (errors : String) : Prop :=
  ∃ lines, lines.Perm outcome.reports ∧ errors = String.join lines ++ outcome.lastReport

/-- What is printed if documents are rendered one after the other. -/
def errors (outcome : Outcome) : String := String.join outcome.reports ++ outcome.lastReport

/-- A failure before any document is rendered is all that is reported. -/
theorem errors_ofFailure_nil (failure : Failure) :
    (ofFailure [] failure).errors = "error: " ++ failure.message ++ "\n" := by
  simp only [errors, ofFailure, lastReport, String.join_nil, String.empty_append]

theorem prints_errors (outcome : Outcome) : outcome.Prints outcome.errors := ⟨outcome.reports, .refl _, rfl⟩

/-- With one report at most there is no order to choose. -/
theorem prints_iff_of_length_le_one {outcome : Outcome} {errors : String} (few : outcome.reports.length ≤ 1) :
    outcome.Prints errors ↔ errors = outcome.errors := by
  constructor
  · rintro ⟨lines, some, rfl⟩
    match reports : outcome.reports with
    | [] =>
      rw [reports] at some
      rw [some.eq_nil, Outcome.errors, reports]
    | [line] =>
      rw [reports] at some
      rw [List.perm_singleton.1 some, Outcome.errors, reports]
    | _ :: _ :: _ =>
      rw [reports] at few
      simp at few
  · rintro rfl
    exact outcome.prints_errors

end Outcome

/-! ## Runs -/

variable {m : Type → Type} [Monad m]

/-- The configuration of a run. -/
def loadConfig (host : Host m) (request : Request) : m (Except Failure Config) := do
  match request.config? with
  | none => return .ok (request.overrides.apply {})
  | some path =>
    match ← host.readText path with
    | .error e => return .error (.configUnreadable path e)
    | .ok text =>
      match Config.parse text with
      | .error rejection => return .error (.configRejected path text rejection)
      | .ok config => return .ok (request.overrides.apply config)

/-- The documents of a run. -/
def loadDocuments (host : Host m) (request : Request) : m (Except Failure (List Document)) := do
  match ← resolve host request.inputs with
  | .error why => return .error (.unresolved why)
  | .ok paths => return .ok ((← readSources host paths).flatMap (Source.documents request.selection))

/-- Writes a text into a file of a directory that is there. -/
def overwrite (host : Host m) (path text : String) : m (Except Failure Unit) := do
  match ← host.writeText path text with
  | .error e => return .error (.notWritten path e)
  | .ok _ => return .ok ()

/-- Writes a text into a file, after making the directory that the file is in. -/
def writeFile (host : Host m) (path text : String) : m (Except Failure Unit) := do
  match Path.parent? path with
  | none => overwrite host path text
  | some directory =>
    match ← host.makeDirectories directory with
    | .error e => return .error (.notMade directory e)
    | .ok _ => overwrite host path text

/-- Prints or writes what the documents add up to. -/
def deliver (host : Host m) (output? : Option String) (tally : Tally) : m Outcome := do
  match output? with
  | none => return .ofTally tally tally.text
  | some path =>
    match ← writeFile host path tally.text with
    | .error failure => return .ofFailure tally.reports failure
    | .ok _ => return .ofTally tally ""

/-- The configuration and the documents of a run. -/
def prepare (host : Host m) (request : Request) : m (Except Failure (Config × List Document)) := do
  match ← loadConfig host request with
  | .error failure => return .error failure
  | .ok config =>
    match ← loadDocuments host request with
    | .error failure => return .error failure
    | .ok documents => return .ok (config, documents)

/-- The outcome of a request. -/
def run (host : Host m) (request : Request) : m Outcome := do
  match ← prepare host request with
  | .error failure => return .ofFailure [] failure
  | .ok (config, documents) => deliver host request.output? (declareAll request.blocks config documents)

/-- The outcome of a request in a world, and the world after it. -/
def runIn (world : World) (request : Request) : Outcome × World := (run World.host request).run world

end TypeSketch.Command
