import TypeSketch.Filter.Unbound
import TypeSketch.Json.Parser

/-!
# Filters as programs

* `Failure` : why a filter gives no documents, with its wording;
* `compile` : the filter of a text, all of whose names mean something;
* `run` : the documents that a filter makes of one.
-/

namespace TypeSketch.Filter

open Json Text

/-- Why a filter gives no documents. -/
inductive Failure where
  | lexical (lacking : List Lacking)
  | grammatical (surprises : List Surprise)
  | imports (paths : List String)
  | unbound (names : List Reference)
  | problem (p : Problem)
  /-- A limit of this library is reached, where a filter by itself would go on. -/
  | tooDeep
  /-- An output whose text is no document. -/
  | output (text : String) (fault : Fault)

/-! ## Wording -/

/-- The name of what was expected in a text. -/
def Expected.name : Expected → String
  | .digit => "Digit"
  | .ident => "Ident"
  | .delim opening => "Delim(" ++ literal opening ++ ")"
  | .escape => "Escape"
  | .unicode => "Unicode"
  | .token => "Token"

/-- The name of what was wanted among tokens. -/
def Wanted.name : Wanted → String
  | .just text => "Just(" ++ literal text ++ ")"
  | .elseOrEnd => "ElseOrEnd"
  | .commaOrBracket => "CommaOrRBrack"
  | .commaOrBrace => "CommaOrRBrace"
  | .semicolonOrParen => "SemicolonOrRParen"
  | .term => "Term"
  | .key => "Key"
  | .pattern => "Pattern"
  | .ident => "Ident"
  | .param => "Arg"
  | .var => "Var"
  | .string => "Str"
  | .nothing => "Nothing"

/-- Pairs between brackets. -/
def listed (pairs : List (String × String)) : String :=
  "([" ++ ", ".intercalate (pairs.map fun pair => "(" ++ pair.1 ++ ", " ++ pair.2 ++ ")") ++ "])"

/-- The wording of a failure of the filter `code`. -/
def Failure.message (code : String) : Failure → String
  | .lexical lacking =>
    let pairs := lacking.map fun e => (e.expected.name, literal (String.ofList e.rest))
    "parse error: Lex" ++ listed pairs ++ " in `" ++ code ++ "`\n"
  | .grammatical surprises =>
    let pairs := surprises.map fun e => (e.wanted.name, literal e.found)
    "parse error: Parse" ++ listed pairs ++ " in `" ++ code ++ "`\n"
  | .imports paths =>
    let pairs := paths.map fun path => (literal path, literal "module loading not supported")
    "parse error: Io" ++ listed pairs ++ " in `" ++ code ++ "`\n"
  | .unbound names => String.join (names.map fun name =>
    let kind := match name.kind with
      | .filter arity => "Filter(" ++ toString arity ++ ")"
      | .module => "Mod"
      | .var => "Var"
      | .label => "Label"
    "undefined `" ++ name.text ++ "`: " ++ kind ++ " in `" ++ code ++ "`\n")
  | .problem p => p.show
  | .tooDeep => "calls nest too deep"
  | .output text fault => "filter output `" ++ text ++ "` is not JSON: " ++ fault.message text

/-! ## Programs -/

namespace Parse

/-- A string with nothing to compute and no escapes in it. -/
def plainString : Parse String := do
  match ← next with
  | some (.string _ []) => return ""
  | some (.string _ [.text s]) => return s
  | found => unexpected .string found

/-- Takes what may stand before the semicolon of an import, and the semicolon. -/
def importEnd (fuel : Nat) : Parse Unit := do
  match ← ahead with
  | t :: _ => if t.text = ";" then pure () else discard (term fuel)
  | [] => pure ()
  just ";"

/-- The paths of the modules that a program asks for filters. A module that a variable names is one
of data, which is not loaded. -/
def imports : Nat → Parse (List String)
  | 0 => return []
  | fuel + 1 => do
    if ← accept "include" then
      let path ← plainString
      importEnd fuel
      return path :: (← imports fuel)
    else if ← accept "import" then
      let path ← plainString
      just "as"
      let asked ← match ← next with
        | some t@(.word name) => if isQualified name then unexpected .ident t else pure [path]
        | some (.var _) => pure []
        | found => unexpected .ident found
      importEnd fuel
      return asked ++ (← imports fuel)
    else return []

/-- A program: the modules it asks for, and a term. -/
def program (fuel : Nat) : Parse (List String × Term) := do
  if ← accept "module" then
    discard (term fuel)
    just ";"
  let paths ← imports fuel
  return (paths, ← term fuel)

end Parse

/-- A measure of a text that no nesting in it exceeds. -/
def depthOf (s : List Char) : Nat := 8 * s.length + 16

/-- The filter of a text, if every name in it means something. -/
def compile (code : String) : Except Failure Term := do
  let s := code.toList
  let tokens ← (tokenize s).mapError .lexical
  let (paths, t) ← (Parse.runAll ([], .id) (Parse.program (depthOf s)) tokens).mapError .grammatical
  if ¬paths.isEmpty then throw (.imports paths)
  match unbound (depthOf s) [] t with
  | [] => return t
  | names => throw (.unbound names)

/-- How deep calls may nest. Filters know no such limit: it is what the recursion is on, and the memory for calls
is used up long before. -/
def maxCalls : Nat := 1000000000

/-- The document of an output, or why there is none. A jump out of the whole filter is taken for a nesting that is
too deep: there is no label to jump to, and `compile` refuses the filters in which that could happen. -/
def readOutput : Except Exit At → Except Failure Value
  | .error (.problem p) => .error (.problem p)
  | .error _ => .error .tooDeep
  | .ok y => (parse y.value.text).mapError (.output y.value.text)

/-- The documents of outputs, those before having been read in reverse; or why the first output
that gives none gives none. -/
def readOutputs (read : List Value) : Results At → Except Failure (List Value)
  | .done => .ok read.reverse
  | .last r =>
    match readOutput r with
    | .ok value => .ok (value :: read).reverse
    | .error e => .error e
  | .next r more =>
    match readOutput r with
    | .ok value => readOutputs (value :: read) (more ())
    | .error e => .error e

/-- The outputs of a filter on a document. -/
def outputs (t : Term) (document : Value) : Results At :=
  eval maxCalls {} t ⟨Val.ofJson document, none⟩

/-- The documents that a filter makes of one, in order, or why it makes none. -/
def run (code : String) (document : Value) : Except Failure (List Value) := do
  let t ← compile code
  readOutputs [] (outputs t document)

end TypeSketch.Filter
