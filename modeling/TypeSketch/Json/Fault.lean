import TypeSketch.Text.Position

/-!
# Why a text is not JSON

* `Cause` : what a reader met, with its wording in `Cause.message`;
* `Fault` : a cause and how many bytes of the text were still unread;
* `Fault.here`, `Fault.past` : at the next byte to read, and after it.
-/

namespace TypeSketch.Json

open Text

/-- What stopped a reader. -/
inductive Cause where
  | endInValue
  | endInList
  | endInObject
  | endInString
  | expectedColon
  | expectedItemEnd
  | expectedMemberEnd
  | expectedValue
  | expectedWord
  | invalidEscape
  | invalidNumber
  | numberOutOfRange
  | loneSurrogate
  | unfinishedEscape
  | controlCharacter
  | keyNotString
  | trailingComma
  | trailingCharacters
  | tooDeep
deriving DecidableEq, Repr

/-- The wording of a cause. -/
def Cause.message : Cause → String
  | .endInValue => "EOF while parsing a value"
  | .endInList => "EOF while parsing a list"
  | .endInObject => "EOF while parsing an object"
  | .endInString => "EOF while parsing a string"
  | .expectedColon => "expected `:`"
  | .expectedItemEnd => "expected `,` or `]`"
  | .expectedMemberEnd => "expected `,` or `\x7d`"
  | .expectedValue => "expected value"
  | .expectedWord => "expected ident"
  | .invalidEscape => "invalid escape"
  | .invalidNumber => "invalid number"
  | .numberOutOfRange => "number out of range"
  | .loneSurrogate => "lone leading surrogate in hex escape"
  | .unfinishedEscape => "unexpected end of hex escape"
  | .controlCharacter => "control character (\\u0000-\\u001F) found while parsing a string"
  | .keyNotString => "key must be a string"
  | .trailingComma => "trailing comma"
  | .trailingCharacters => "trailing characters"
  | .tooDeep => "recursion limit exceeded"

/-- A cause, and the bytes that were unread when it was met. -/
structure Fault where
  cause : Cause
  unread : Nat
deriving DecidableEq, Repr

namespace Fault

/-- A fault before the rest of the text. -/
def here (cause : Cause) (rest : List Char) : Fault := ⟨cause, byteCount rest⟩

/-- A fault after the first byte of the rest, if there is one. -/
def past (cause : Cause) (rest : List Char) : Fault := ⟨cause, byteCount rest - 1⟩

end Fault

/-- A wording followed by the place in `text` where `unread` bytes were left. -/
def messageAt (message : String) (unread : Nat) (text : String) : String :=
  let p := Position.after (byteCount text.toList - unread) text.toList
  message ++ " at line " ++ toString p.line ++ " column " ++ toString p.column

/-- The wording of a fault in `text`. -/
def Fault.message (fault : Fault) (text : String) : String :=
  messageAt fault.cause.message fault.unread text

end TypeSketch.Json
