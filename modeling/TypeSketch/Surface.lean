import TypeSketch.Declaration
import TypeSketch.Json.Parser
import TypeSketch.Json.Printer

/-!
# A surface that shows a document beside its declarations

Every message gives one answer. Nothing fails: what goes wrong becomes the text of both blocks.

* `Rendered` : the document on lines, if it is one, and the two blocks;
* `renderText` : the answer to a text;
* `Session` : a configuration and the last text, under the messages of `Message`.
-/

namespace TypeSketch

open Json

/-- The text of both blocks for a text that is not a document. -/
def invalidText : String := "Invalid Json String"

/-- A document on lines. -/
def formatJson (text : String) : Except Fault String := (parse text).map Value.toPretty

/-- An answer of the surface. -/
structure Rendered where
  formatted : Option String
  classBlock : String
  interfaceBlock : String
deriving DecidableEq, Repr

namespace Rendered

/-- The answer with one text in both blocks. -/
def message (formatted : Option String) (text : String) : Rendered := ⟨formatted, text, text⟩

/-- The answer to a document. -/
def ofValue (config : Config) (value : Value) : Rendered :=
  match render config value with
  | .ok declarations => ⟨some value.toPretty, declarations.classBlock, declarations.interfaceBlock⟩
  | .error e => message (some value.toPretty) e.message

end Rendered

/-- The answer to a text. -/
def renderText (config : Config) (text : String) : Rendered :=
  match parse text with
  | .ok value => Rendered.ofValue config value
  | .error _ => Rendered.message none invalidText

/-! ## Sessions -/

/-- What a surface is told: a new text, or other declaration names. -/
inductive Message where
  | input (text : String)
  | rename (className interfaceName : String)
deriving DecidableEq, Repr

/-- The state of a surface. -/
structure Session where
  config : Config := {}
  lastInput : Option String := none
deriving DecidableEq, Repr

namespace Session

/-- A copy of the session with other declaration names. -/
def renamed (session : Session) (className interfaceName : String) : Session :=
  { session with config := session.config.rename className interfaceName }

/-- What the session shows of its last text. -/
def shown (session : Session) : Rendered :=
  match session.lastInput with
  | some text => renderText session.config text
  | none => Rendered.message none ""

/-- Handles a message: the new state and the answer. A text is rendered before it is kept, and other
names are taken over before the last text is rendered again. -/
def handle (session : Session) : Message → Session × Rendered
  | .input text => ({ session with lastInput := some text }, renderText session.config text)
  | .rename className interfaceName =>
    let session := session.renamed className interfaceName
    (session, session.shown)

end Session

end TypeSketch
