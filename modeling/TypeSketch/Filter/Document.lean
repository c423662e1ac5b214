import TypeSketch.Filter.Value
import TypeSketch.Json.Reader

/-!
# Documents inside filters

A filter may take a text for a document. Numbers are kept as they are written unless they are
integers of 64 bits, and a text that is no document is told by what was expected in it.

* `Val.ofText` : the value of a text that is a document;
* `Val.ofNumberText` : the value of a number.
-/

namespace TypeSketch.Filter

open Json

/-- What was expected in a text that is no document. -/
inductive DocumentFault where
  | value
  | valueOrEnd
  | commaOrEnd
  | string
  | colon
  | textEnd
  | digit
  | stringEnd
  | noControl
  | escapeEnd
  | escapeLetter
  | hexDigits
  | lowSurrogate
  /-- A unit that stands for no character by itself. -/
  | character (unit : Nat)

/-- The wording of what was expected. -/
def DocumentFault.message : DocumentFault → String
  | .value => "value expected"
  | .valueOrEnd => "value or end of sequence expected"
  | .commaOrEnd => "comma or end of sequence expected"
  | .string => "string expected"
  | .colon => "colon expected"
  | .textEnd => "end of file expected"
  | .digit => "expected digit"
  | .stringEnd => "unterminated string"
  | .noControl => "unescaped control character"
  | .escapeEnd => "unexpected end of file"
  | .escapeLetter => "unknown escape sequence type"
  | .hexDigits => "invalid hexadecimal sequence"
  | .lowSurrogate => "expected low surrogate"
  | .character unit => "invalid character with index " ++ toString unit

/-- The value of a number as it is written: an integer if it fits 64 bits with a sign. -/
def Val.ofNumberText (negative : Bool) (text : List Char) : Val :=
  let n : Nat := text.foldl (fun n c => n * 10 + digitValue c) 0
  let written := if negative then '-' :: text else text
  if text.all Char.isDigit ∧ n < Nat.pow 2 63 + (if negative then 1 else 0) then
    .int (if negative then -(n : Int) else n)
  else .decimal (String.ofList written)

namespace Document

/-- Takes digits, of which there must be some. -/
def digits (s : List Char) : Except DocumentFault (List Char × List Char) :=
  match s.takeWhile Char.isDigit with
  | [] => .error .digit
  | ds => .ok (ds, s.dropWhile Char.isDigit)

/-- Takes an exponent if there is one. -/
def exponent (s : List Char) : Except DocumentFault (List Char × List Char) :=
  match s with
  | c :: rest =>
    if c = 'e' ∨ c = 'E' then do
      let sign := (rest.head?.filter fun c => c = '+' ∨ c = '-').toList
      let (ds, rest) ← digits (rest.drop sign.length)
      return (c :: sign ++ ds, rest)
    else .ok ([], s)
  | [] => .ok ([], s)

/-- Takes a number after its sign. A zero at the start stands alone. -/
def number (negative : Bool) (s : List Char) : Except DocumentFault (Val × List Char) := do
  let (whole, rest) ← match s with
    | '0' :: rest => pure (['0'], rest)
    | s => digits s
  let (fraction, rest) ← match rest with
    | '.' :: rest => do
      let (ds, rest) ← digits rest
      pure ('.' :: ds, rest)
    | rest => pure ([], rest)
  let (scale, rest) ← exponent rest
  return (Val.ofNumberText negative (whole ++ fraction ++ scale), rest)

/-- The text after a word. -/
def word (letters s : List Char) (v : Val) : Except DocumentFault (Val × List Char) :=
  if letters.isPrefixOf s then .ok (v, s.drop letters.length) else .error .value

/-- Takes the four digits of a unit. -/
def unit (s : List Char) : Except DocumentFault (Nat × List Char) :=
  if Text.byteCount (s.take 4) < 4 then .error .escapeEnd
  else
    match s with
    | a :: b :: c :: d :: rest =>
      match unitOf? a b c d with
      | some unit => .ok (unit, rest)
      | none => .error .hexDigits
    | _ => .error .hexDigits

/-- Takes the unit that ends a pair, from its backslash on. -/
def lowUnit (s : List Char) : Except DocumentFault (Nat × List Char) :=
  match s with
  | '\\' :: 'u' :: rest => do
    let (low, rest) ← unit rest
    if isLowSurrogate low then return (low, rest) else throw .lowSurrogate
  | ['\\'] => .error .escapeEnd
  | '\\' :: c :: _ => .error (if (shortEscape? c).isSome then .lowSurrogate else .escapeLetter)
  | _ => .error .lowSurrogate

/-- Takes an escape after its backslash. -/
def escaped (s : List Char) : Except DocumentFault (Char × List Char) :=
  match s with
  | [] => .error .escapeEnd
  | 'u' :: rest => do
    let (high, rest) ← unit rest
    if isHighSurrogate high then
      let (low, rest) ← lowUnit rest
      return (pairChar high low, rest)
    else if isLowSurrogate high then throw (.character high)
    else return (Char.ofNat high, rest)
  | c :: rest =>
    match shortEscape? c with
    | some e => .ok (e, rest)
    | none => .error .escapeLetter

/-- Takes a text after its opening quote, `read` being the characters so far in reverse. -/
def text (fuel : Nat) (read s : List Char) : Except DocumentFault (String × List Char) :=
  match fuel, s with
  | 0, _ => .error .stringEnd
  | _, [] => .error .stringEnd
  | fuel + 1, c :: rest =>
    if c = '"' then .ok (String.ofList read.reverse, rest)
    else if c = '\\' then
      match escaped rest with
      | .ok (e, rest) => text fuel (e :: read) rest
      | .error fault => .error fault
    else if c.toNat < 0x20 then .error .noControl
    else text fuel (c :: read) rest

mutual

/-- Takes a value. -/
def value (fuel : Nat) (s : List Char) : Except DocumentFault (Val × List Char) :=
  match fuel with
  | 0 => .error .value
  | fuel + 1 =>
    match skipBlanks s with
    | [] => .error .value
    | s@(c :: rest) =>
      if c = 'n' then word "null".toList s .null
      else if c = 't' then word "true".toList s (.bool true)
      else if c = 'f' then word "false".toList s (.bool false)
      else if c = '-' then number true rest
      else if c.isDigit then number false s
      else if c = '"' then
        (text fuel [] rest).map fun (text, rest) => (.str text, rest)
      else if c = '[' then
        match skipBlanks rest with
        | [] => .error .valueOrEnd
        | ']' :: rest => .ok (.arr [], rest)
        | rest => (items fuel rest).map fun (vs, rest) => (.arr vs, rest)
      else if c = '\x7b' then
        match skipBlanks rest with
        | [] => .error .valueOrEnd
        | rest@(c :: after) =>
          if c = '\x7d' then .ok (.obj [], after)
          else (members fuel rest).map fun (ms, rest) => (.obj (Members.ofPairs ms), rest)
      else .error .value

/-- Takes items up to the closing bracket. -/
def items (fuel : Nat) (s : List Char) : Except DocumentFault (List Val × List Char) :=
  match fuel with
  | 0 => .error .value
  | fuel + 1 => do
    let (v, rest) ← value fuel s
    match skipBlanks rest with
    | ']' :: rest => return ([v], rest)
    | ',' :: rest =>
      let (vs, rest) ← items fuel rest
      return (v :: vs, rest)
    | _ => throw DocumentFault.commaOrEnd

/-- Takes members up to the closing brace. -/
def members (fuel : Nat) (s : List Char) : Except DocumentFault (List (String × Val) × List Char) :=
  match fuel with
  | 0 => .error .value
  | fuel + 1 => do
    match skipBlanks s with
    | [] => throw DocumentFault.value
    | '"' :: rest =>
      let (key, rest) ← text fuel [] rest
      match skipBlanks rest with
      | ':' :: rest =>
        let (v, rest) ← value fuel rest
        match skipBlanks rest with
        | [] => throw DocumentFault.commaOrEnd
        | c :: rest =>
          if c = '\x7d' then return ([(key, v)], rest)
          else if c = ',' then
            let (ms, rest) ← members fuel rest
            return ((key, v) :: ms, rest)
          else throw DocumentFault.commaOrEnd
      | _ => throw DocumentFault.colon
    | _ => throw DocumentFault.string

end

end Document

/-- The value of a text that is a document. -/
def Val.ofText (text : String) : Except DocumentFault Val := do
  let s := text.toList
  let (v, rest) ← Document.value (2 * s.length + 2) s
  if (skipBlanks rest).isEmpty then return v else throw DocumentFault.textEnd

end TypeSketch.Filter
