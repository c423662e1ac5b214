import TypeSketch.Command.Request
import TypeSketch.Filter.Program
import TypeSketch.Glob.Search
import TypeSketch.Json.Pointer
import TypeSketch.Surface
import TypeSketch.Text.Line
import TypeSketch.Text.White

/-!
# Documents of a run

* `Reason` : why there is no document, or none that can be declared, with its wording;
* `Document` : where a document comes from, and its value if it has one;
* `Source` : where a text comes from, and the text if it could be read;
* `Selection.documents` : the documents of a text;
* `Source.documents` : the documents of a source;
* `readSource`, `resolve` : the source of a path, and the paths of inputs.
-/

namespace TypeSketch.Command

open Json Text

/-! ## Reasons -/

/-- Why there is no document, or none that can be declared. -/
inductive Reason where
  | unreadable (path : String) (error : FileError)
  | unreadableInput (error : FileError)
  | noPart (pointer : String)
  | filter (code : String) (failure : Filter.Failure)
  | notObject (error : NotObject)

/-- The wording of a file that cannot be read. -/
def unreadableText (path : String) (error : FileError) : String :=
  "failed to access " ++ path ++ ": " ++ error.message

/-- The wording of a reason. -/
def Reason.message : Reason → String
  | .unreadable path error => unreadableText path error
  | .unreadableInput error => "failed to read stdin: " ++ error.message
  | .noPart pointer => "JSON pointer " ++ pointer ++ " matched nothing"
  | .filter code failure => "jq filter failed: " ++ failure.message code
  | .notObject error => error.message

/-! ## Documents -/

/-- What was found where a document was expected. -/
inductive Loaded where
  | value (value : Value)
  | notJson
  | failed (reason : Reason)

/-- Where a document comes from, and what was found there. -/
structure Document where
  origin : String
  loaded : Loaded

namespace Document

/-- The outputs of a filter, numbered from `n`. -/
def numbered (origin : String) (n : Nat) : List Value → List Document
  | [] => []
  | value :: rest => ⟨origin ++ "#" ++ toString n, .value value⟩ :: numbered origin (n + 1) rest

end Document

namespace Selection

/-- The part of a value that is selected. -/
def part (selection : Selection) (value : Value) : Except Reason Value :=
  match selection.pointer? with
  | none => .ok value
  | some pointer =>
    match value.atPointer? pointer with
    | some part => .ok part
    | none => .error (.noPart pointer)

/-- The documents that the filter makes of a value. -/
def filtered (selection : Selection) (origin : String) (value : Value) : List Document :=
  match selection.filter? with
  | none => [⟨origin, .value value⟩]
  | some code =>
    match Filter.run code value with
    | .ok outputs => Document.numbered origin 0 outputs
    | .error failure => [⟨origin, .failed (.filter code failure)⟩]

/-- The documents of a text that is one document before its parts are selected. -/
def documentsOf (selection : Selection) (origin : String) (text : List Char) : List Document :=
  match parseChars text with
  | .error _ => [⟨origin, .notJson⟩]
  | .ok value =>
    match selection.part value with
    | .ok part => selection.filtered origin part
    | .error reason => [⟨origin, .failed reason⟩]

/-- The documents of a line, if there is something in it. -/
def documentsOfLine (selection : Selection) (origin : String) (line : Nat × List Char) : List Document :=
  if isWhiteOnly line.2 then [] else selection.documentsOf (origin ++ ":" ++ toString line.1) line.2

/-- The documents of a text. -/
def documents (selection : Selection) (origin : String) (text : String) : List Document :=
  if selection.byLine then (numberedLines text.toList).flatMap (selection.documentsOfLine origin)
  else selection.documentsOf origin text.toList

end Selection

/-! ## Sources -/

/-- Where a text comes from, and the text or why it could not be read. -/
structure Source where
  origin : String
  content : Except Reason String

/-- The documents of a source. -/
def Source.documents (selection : Selection) (source : Source) : List Document :=
  match source.content with
  | .ok text => selection.documents source.origin text
  | .error reason => [⟨source.origin, .failed reason⟩]

variable {m : Type → Type} [Monad m]

/-- Reads what a path leads to, a hyphen meaning the standard input. -/
def readSource (host : Host m) (path : String) : m Source := do
  if path = "-" then
    match ← host.readInput with
    | .ok text => return ⟨"<stdin>", .ok text⟩
    | .error e => return ⟨path, .error (.unreadableInput e)⟩
  else
    match ← host.readText path with
    | .ok text => return ⟨path, .ok text⟩
    | .error e => return ⟨path, .error (.unreadable path e)⟩

/-- Reads what some paths lead to, in order. -/
def readSources (host : Host m) : List String → m (List Source)
  | [] => return []
  | path :: rest => do
    let source ← readSource host path
    return source :: (← readSources host rest)

/-! ## Inputs -/

/-- Why an input stands for no paths. -/
inductive Unresolved where
  | noPattern (mistake : Glob.Mistake)
  | unlisted (directory : Glob.Unlisted)
  | noMatch (pattern : String)
deriving DecidableEq, Repr

/-- The wording of the error. -/
def Unresolved.message : Unresolved → String
  | .noPattern mistake => mistake.message
  | .unlisted directory => directory.message
  | .noMatch pattern => "glob pattern matched no files: " ++ pattern

/-- Whether an input is a pattern. -/
def isPattern (input : String) : Bool := input.toList.any fun c => ['*', '?', '[', '\x7b'].contains c

/-- The paths that an input stands for. -/
def resolveOne (host : Host m) (input : String) : m (Except Unresolved (List String)) := do
  if isPattern input then
    match Glob.Query.parse input with
    | .error mistake => return .error (.noPattern mistake)
    | .ok query =>
      match ← query.search host with
      | .error directory => return .error (.unlisted directory)
      | .ok [] => return .error (.noMatch input)
      | .ok paths => return .ok paths
  else return .ok [input]

/-- The paths that some inputs stand for, in order, or why the first one that stands for none does
not. -/
def resolve (host : Host m) : List String → m (Except Unresolved (List String))
  | [] => return .ok []
  | input :: rest => do
    match ← resolveOne host input with
    | .error e => return .error e
    | .ok paths =>
      match ← resolve host rest with
      | .error e => return .error e
      | .ok others => return .ok (paths ++ others)

end TypeSketch.Command
