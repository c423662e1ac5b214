import TypeSketch.Text.White

/-!
# Tokens of filters

Brackets and strings are tokens that hold the tokens inside them, so what is left for the parser is
a tree. A text that cannot be cut into tokens gives every place where something else was expected.

* `Token`, `Piece` : the tokens, and the pieces of a string;
* `Lacking` : what was expected where a text could not be cut;
* `tokenize` : the tokens of a text, or what it lacks.
-/

namespace TypeSketch.Filter

mutual

/-- A token with its text. -/
inductive Token where
  | word (text : String)
  | var (text : String)
  | format (text : String)
  | number (text : String)
  | symbol (text : String)
  | string (text : String) (pieces : List Piece)
  /-- A bracket with the tokens up to its end, the closing bracket being the last of them. -/
  | block (text : String) (tokens : List Token)

/-- A piece of a string. -/
inductive Piece where
  | text (text : String)
  | char (c : Char)
  /-- Tokens between `\(` and `)`, the closing parenthesis being the last of them. -/
  | tokens (tokens : List Token)

end

/-- The text of a token. -/
def Token.text : Token → String
  | .word text | .var text | .format text | .number text | .symbol text | .string text _
  | .block text _ => text

/-- What was expected in a text. -/
inductive Expected where
  | digit
  | ident
  | delim (opening : String)
  | escape
  | unicode
  | token
deriving DecidableEq, Repr

/-- What was expected, and the text from there on. -/
structure Lacking where
  expected : Expected
  rest : List Char
deriving DecidableEq, Repr

namespace Lexer

/-! ## Characters -/

/-- The characters that a name starts with. -/
def isNameStart (c : Char) : Bool := c.isAlpha || c = '_'

/-- The characters of a name. -/
def isNameChar (c : Char) : Bool := c.isAlphanum || c = '_'

/-- The characters of operators. -/
def isOperator (c : Char) : Bool := "|=!<>+-*/%".toList.contains c

/-- The characters that continue an operator: a minus sign starts an operator of its own. -/
def continuesOperator (c : Char) : Bool := isOperator c && c ≠ '-'

/-- The text after a comment. A comment goes to the end of its line, and on to the next line if the
line ends with an odd number of backslashes. -/
def skipComment (odd : Bool) : List Char → List Char
  | [] => []
  | '\r' :: '\n' :: rest => if odd then skipComment false rest else rest
  | c :: rest => if c = '\n' then if odd then skipComment false rest else rest
    else skipComment (c = '\\' && !odd) rest

/-- The text after spaces and comments. -/
def skipSpace (fuel : Nat) (s : List Char) : List Char :=
  match fuel, s.dropWhile Text.isWhite with
  | fuel + 1, '#' :: rest => skipSpace fuel (skipComment false rest)
  | _, s => s

/-- The text that was cut off to leave `rest`. -/
def cutOff (s rest : List Char) : String := String.ofList (s.take (s.length - rest.length))

/-! ## Names and numbers -/

/-- Cuts a name off, or says that one is lacking. -/
def name (s : List Char) : List Char × List Lacking :=
  match s with
  | c :: rest => if isNameStart c then (rest.dropWhile isNameChar, []) else (s, [⟨.ident, s⟩])
  | [] => (s, [⟨.ident, s⟩])

/-- Cuts the rest of a name off, and the name after `::` if there is one. -/
def qualified (s : List Char) : List Char × List Lacking :=
  match s.dropWhile isNameChar with
  | ':' :: ':' :: rest => name rest
  | rest => (rest, [])

/-- Cuts digits off, or says that one is lacking. -/
def digits (s : List Char) : List Char × List Lacking :=
  match s with
  | c :: rest => if c.isDigit then (rest.dropWhile Char.isDigit, []) else (s, [⟨.digit, s⟩])
  | [] => (s, [⟨.digit, s⟩])

/-- Cuts the rest of a number off. -/
def number (s : List Char) : List Char × List Lacking :=
  let (s, e) := match s.dropWhile Char.isDigit with
    | '.' :: rest => digits rest
    | rest => (rest, [])
  let exponent (rest : List Char) : List Char × List Lacking :=
    let (rest, e') := digits (match rest with
      | '+' :: rest => rest
      | '-' :: rest => rest
      | rest => rest)
    (rest, e ++ e')
  match s with
  | 'e' :: rest => exponent rest
  | 'E' :: rest => exponent rest
  | rest => (rest, e)

/-! ## Escapes -/

/-- The value of a hexadecimal digit. -/
def hex? (c : Char) : Option Nat :=
  if c.isDigit then some (c.toNat - '0'.toNat)
  else if 'a' ≤ c ∧ c ≤ 'f' then some (c.toNat - 'a'.toNat + 10)
  else if 'A' ≤ c ∧ c ≤ 'F' then some (c.toNat - 'A'.toNat + 10)
  else none

/-- Reads `count` hexadecimal digits; the text from the first other character on if they are not
there. -/
def hexNumber (count value : Nat) (s : List Char) : Except (List Char) (Nat × List Char) :=
  match count, s with
  | 0, s => .ok (value, s)
  | _ + 1, [] => .error []
  | count + 1, c :: rest =>
    match hex? c with
    | some digit => hexNumber count (value * 16 + digit) rest
    | none => .error (c :: rest)

/-- Cuts an escape other than an interpolation off, after its backslash. -/
def escape (s : List Char) : Option Char × List Char × List Lacking :=
  match s with
  | 'u' :: rest =>
    match hexNumber 4 0 rest with
    | .error stop => (none, stop, [⟨.unicode, stop⟩])
    | .ok (code, after) =>
      if code.isValidChar then (some (Char.ofNat code), after, []) else (none, rest, [⟨.unicode, rest⟩])
  | c :: rest =>
    match c with
    | '\\' | '/' | '"' => (some c, rest, [])
    | 'b' => (some '\x08', rest, [])
    | 'f' => (some '\x0c', rest, [])
    | 'n' => (some '\n', rest, [])
    | 'r' => (some '\r', rest, [])
    | 't' => (some '\t', rest, [])
    | _ => (none, s, [⟨.escape, s⟩])
  | [] => (none, s, [⟨.escape, s⟩])

/-- The bracket that closes one. -/
def closing? : Char → Option Char
  | '(' => some ')'
  | '[' => some ']'
  | '\x7b' => some '\x7d'
  | _ => none

/-! ## Tokens -/

mutual

/-- Cuts tokens off until no token starts. -/
def tokens (fuel : Nat) (s : List Char) : List Token × List Char × List Lacking :=
  match fuel with
  | 0 => ([], s, [])
  | fuel + 1 =>
    let s := skipSpace s.length s
    match token fuel s with
    | none => ([], s, [])
    | some (t, rest, e) =>
      let (ts, rest, e') := tokens fuel rest
      (t :: ts, rest, e ++ e')

/-- Cuts one token off. -/
def token (fuel : Nat) (s : List Char) : Option (Token × List Char × List Lacking) :=
  match fuel with
  | 0 => none
  | fuel + 1 =>
    match s with
    | [] => none
    | c :: rest =>
      if isNameStart c then
        let (rest, e) := qualified rest
        some (.word (cutOff s rest), rest, e)
      else if c = '$' then
        let (rest, e) := name rest
        some (.var (cutOff s rest), rest, e)
      else if c = '@' then
        let (rest, e) := name rest
        some (.format (cutOff s rest), rest, e)
      else if c.isDigit then
        let (rest, e) := number rest
        some (.number (cutOff s rest), rest, e)
      else if isOperator c then
        let rest := rest.dropWhile continuesOperator
        some (.symbol (cutOff s rest), rest, [])
      else if c = '.' then
        match rest with
        | '.' :: rest => some (.symbol "..", rest, [])
        | d :: _ =>
          let rest := if isNameStart d then rest.dropWhile isNameChar else rest
          some (.symbol (cutOff s rest), rest, [])
        | [] => some (.symbol ".", [], [])
      else if c = ':' ∨ c = ';' ∨ c = ',' ∨ c = '?' then
        some (.symbol (String.singleton c), rest, [])
      else if c = '"' then
        let (pieces, rest, e) := string fuel rest
        some (.string (cutOff s rest) pieces, rest, e)
      else
        match closing? c with
        | some close =>
          let (ts, rest, e) := block fuel c close rest
          some (.block (cutOff s rest) ts, rest, e)
        | none => none

/-- Cuts the tokens of a bracket off, after the opening one. -/
def block (fuel : Nat) (opening close : Char) (s : List Char) : List Token × List Char × List Lacking :=
  match fuel with
  | 0 => ([], s, [])
  | fuel + 1 =>
    let (ts, rest, e) := tokens fuel s
    match rest with
    | c :: rest' =>
      if c = close then (ts ++ [.symbol (String.singleton c)], rest', e)
      else (ts, rest, e ++ [⟨.delim (String.singleton opening), rest⟩])
    | [] => (ts, rest, e ++ [⟨.delim (String.singleton opening), rest⟩])

/-- Cuts the pieces of a string off, after the opening quote. -/
def string (fuel : Nat) (s : List Char) : List Piece × List Char × List Lacking :=
  match fuel with
  | 0 => ([], s, [])
  | fuel + 1 =>
    let plain := s.takeWhile fun c => c ≠ '\\' ∧ c ≠ '"'
    let before : List Piece := if plain.isEmpty then [] else [.text (String.ofList plain)]
    match s.drop plain.length with
    | '"' :: rest => (before, rest, [])
    | '\\' :: '(' :: rest =>
      let (ts, rest, e) := block fuel '(' ')' rest
      let (pieces, rest, e') := string fuel rest
      (before ++ .tokens ts :: pieces, rest, e ++ e')
    | '\\' :: rest =>
      let (c, rest, e) := escape rest
      let (pieces, rest, e') := string fuel rest
      (before ++ (c.map Piece.char).toList ++ pieces, rest, e ++ e')
    | rest => (before, rest, [⟨.delim "\"", rest⟩])

end

end Lexer

/-- The tokens of a text, or every place where something is lacking. -/
def tokenize (s : List Char) : Except (List Lacking) (List Token) :=
  let (ts, rest, e) := Lexer.tokens (4 * s.length + 4) s
  let e := if rest.isEmpty then e else e ++ [⟨.token, rest⟩]
  if e.isEmpty then .ok ts else .error e

end TypeSketch.Filter
