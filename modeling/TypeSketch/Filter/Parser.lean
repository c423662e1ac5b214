import TypeSketch.Filter.Term

/-!
# Reading filters

The parser goes on after an error inside brackets, so that one text can have several errors.

* `Wanted`, `Surprise` : what was wanted, and the token found instead;
* `Parse` : a parser over the tokens left, with the errors so far;
* `parseTerm` : the term of some tokens, or all errors.
-/

namespace TypeSketch.Filter

/-- What the parser wanted. -/
inductive Wanted where
  /-- A token with a given text. -/
  | just (text : String)
  | elseOrEnd
  | commaOrBracket
  | commaOrBrace
  | semicolonOrParen
  | term
  | key
  | pattern
  | ident
  /-- A parameter of a definition. -/
  | param
  | var
  | string
  | nothing
deriving DecidableEq, Repr

/-- What was wanted, and the text of the token found instead; it is empty at the end. -/
structure Surprise where
  wanted : Wanted
  found : String
deriving DecidableEq, Repr

/-- The tokens left and the errors so far, the last one first. -/
structure Progress where
  tokens : List Token
  errors : List Surprise

/-- A parser. -/
abbrev Parse := EStateM Surprise Progress

namespace Parse

/-! ## Single tokens -/

/-- Fails at a token. -/
def unexpected {α : Type} (wanted : Wanted) (found : Option Token) : Parse α :=
  throw ⟨wanted, (found.map Token.text).getD ""⟩

/-- Takes the next token. -/
def next : Parse (Option Token) := fun s =>
  match s.tokens with
  | [] => .ok none s
  | t :: tokens => .ok (some t) { s with tokens }

/-- Looks at the tokens left. -/
def ahead : Parse (List Token) := fun s => .ok s.tokens s

/-- Takes the next token if its text is `text`. -/
def accept (text : String) : Parse Bool := do
  match ← ahead with
  | t :: _ => if t.text = text then discard next; return true else return false
  | [] => return false

/-- Takes a token with a given text. -/
def just (text : String) : Parse Unit := do
  match ← next with
  | some t => if t.text = text then return () else unexpected (.just text) t
  | none => unexpected (.just text) none

/-- Whether a name says which module it is from. -/
def isQualified (name : String) : Bool := name.toList.contains ':'

/-- Takes a variable. -/
def varName : Parse String := do
  match ← next with
  | some (.var text) => return text
  | found => unexpected .var found

/-- Fails unless the only token left is `last`, or none is left if that is empty. -/
def finish (last : String) : Parse Unit := do
  let wanted : Wanted := if last.isEmpty then .nothing else .just last
  match ← ahead with
  | [] => if last.isEmpty then return () else unexpected wanted none
  | [t] => if t.text = last ∧ ¬last.isEmpty then return () else unexpected wanted t
  | t :: _ => unexpected wanted t

/-- Parses some tokens by themselves, up to a last one. An error is noted, and `default` stands for
the result. -/
def within {α : Type} (tokens : List Token) (last : String) (default : α) (p : Parse α) : Parse α := fun s =>
  match (do let x ← p; finish last; return x : Parse α) { s with tokens } with
  | .ok x s' => .ok x { s' with tokens := s.tokens }
  | .error e s' => .ok default { tokens := s.tokens, errors := e :: s'.errors }

/-! ## Lists -/

/-- Parses items until `more` says that none follows. -/
def many {α : Type} (p : Parse α) (more : Parse Bool) : Nat → Parse (List α)
  | 0 => return []
  | fuel + 1 => do
    let x ← p
    if ← more then return x :: (← many p more fuel) else return [x]

/-- Parses the entries of a pair of braces up to the closing one. A comma may follow the last. -/
def entries {α : Type} (p : Parse α) (fuel : Nat) : Parse (List α) := do
  match ← ahead with
  | [t] => if t.text = "\x7d" then discard next; return []
  | _ => pure ()
  many p separator fuel
where
  separator : Parse Bool := do
    match ← next with
    | some t =>
      if t.text = "\x7d" then return false
      else if t.text = "," then
        match ← ahead with
        | [t] => if t.text = "\x7d" then discard next; return false else return true
        | _ => return true
      else unexpected .commaOrBrace t
    | none => unexpected .commaOrBrace none

/-- Parses the items of a pair of brackets up to the closing one. -/
def items {α : Type} (p : Parse α) (fuel : Nat) : Parse (List α) := many p separator fuel
where
  separator : Parse Bool := do
    match ← next with
    | some t =>
      if t.text = "]" then return false
      else if t.text = "," then return true
      else unexpected .commaOrBracket t
    | none => unexpected .commaOrBracket none

/-- Parses what stands in parentheses after a name, separated by semicolons, if there is any. -/
def args {α : Type} (p : Parse α) (fuel : Nat) : Parse (List α) := do
  match ← ahead with
  | .block text tokens :: _ =>
    if text.startsWith "(" then
      discard next
      within tokens "" [] (many p separator fuel)
    else return []
  | _ => return []
where
  separator : Parse Bool := do
    match ← next with
    | some t =>
      if t.text = ")" then return false
      else if t.text = ";" then return true
      else unexpected .semicolonOrParen t
    | none => unexpected .semicolonOrParen none

/-! ## Terms -/

/-- A text as a term. -/
def literal (text : String) : Term := .string none [.text text]

/-- Takes all question marks; whether there is any. -/
def optional : Nat → Parse Bool
  | 0 => return false
  | fuel + 1 => do
    if ← accept "?" then discard (optional fuel); return true else return false

mutual

/-- Parses a term. -/
def term (fuel : Nat) : Parse Term :=
  match fuel with
  | 0 => unexpected .term none
  | fuel + 1 => termWith fuel true

/-- Parses a term, with or without commas at its top. -/
def termWith (fuel : Nat) (commas : Bool) : Parse Term :=
  match fuel with
  | 0 => unexpected .term none
  | fuel + 1 => do
    let head ← atom fuel
    let tail ← operands fuel commas
    return (group (2 * tail.length + 1) 0 head tail).1

/-- Parses the operators and operands after a term. -/
def operands (fuel : Nat) (commas : Bool) : Parse (List (BinaryOp × Term)) :=
  match fuel with
  | 0 => return []
  | fuel + 1 => do
    match ← ahead with
    | [] => return []
    | t :: _ =>
      if t.text = "as" then
        discard next
        let p ← pattern fuel
        just "|"
        let right ← atom fuel
        return (.pipe (some p), right) :: (← operands fuel commas)
      else
        match t with
        | .string _ _ => return []
        | _ =>
          match BinaryOp.ofSymbol? t.text with
          | some op =>
            if t.text = "," ∧ ¬commas then return []
            else
              discard next
              let right ← atom fuel
              return (op, right) :: (← operands fuel commas)
          | none => return []

/-- Parses a term that operators stand between: a term in front of the steps of a path. -/
def atom (fuel : Nat) : Parse Term :=
  match fuel with
  | 0 => unexpected .term none
  | fuel + 1 => do
    let head ← match ← next with
      | some (.symbol "-") => return .neg (← atom fuel)
      | some (.word "def") => do
        let first ← definition fuel
        let more ← definitions fuel
        return .define (first :: more) (← term fuel)
      | some (.word "if") => branches fuel
      | some (.word "try") => do
        let body ← atom fuel
        if ← accept "catch" then pure (.tryCatch body (some (← atom fuel))) else pure (.tryCatch body none)
      | some (.word "label") => do
        let name ← varName
        just "|"
        pure (.label name (← term fuel))
      | some (.word "break") => do pure (.breakTo (← varName))
      | some (.word "reduce") => fold fuel "reduce"
      | some (.word "foreach") => fold fuel "foreach"
      | some (.word name) => do pure (.call name (← args (term fuel) fuel))
      | some (.var name) => pure (.var name)
      | some (.number text) => pure (.number text)
      | some (.format name) => do
        match ← ahead with
        | .string _ pieces :: _ =>
          discard next
          pure (.string (some name) (← stringParts fuel pieces))
        | _ => pure (.call name [])
      | some (.string _ pieces) => do pure (.string none (← stringParts fuel pieces))
      | some (.symbol "..") => pure .recurse
      | some (.symbol ".") => do
        match ← ahead with
        | .string _ _ :: _ | .format _ :: .string _ _ :: _ =>
          let key ← quotedKey fuel
          pure (.path .id [(.index key, ← optional fuel)])
        | _ => pure .id
      | some t@(.symbol text) =>
        if text.startsWith "." then do
          pure (.path .id [(.index (literal (text.drop 1).toString), ← optional fuel)])
        else unexpected .term t
      | some (.block text tokens) =>
        if text.startsWith "(" then within tokens ")" .id (term fuel)
        else if text.startsWith "[" then
          match tokens with
          | [_] => pure (.array none)
          | _ => do pure (.array (some (← within tokens "]" .id (term fuel))))
        else within tokens "" .id (do return .object (← entries (entry fuel) fuel))
      | none => unexpected .term none
    let head ← if ← optional fuel then pure (.tryCatch head none) else pure head
    match ← path fuel with
    | [] => return head
    | parts => return .path head parts

/-- Parses a conditional after its first word. -/
def branches (fuel : Nat) : Parse Term :=
  match fuel with
  | 0 => unexpected .term none
  | fuel + 1 => do
    let condition ← term fuel
    just "then"
    let body ← term fuel
    match ← next with
    | some t =>
      if t.text = "end" then return .branch [(condition, body)] none
      else if t.text = "else" then
        let otherwise ← term fuel
        just "end"
        return .branch [(condition, body)] (some otherwise)
      else if t.text = "elif" then
        match ← branches fuel with
        | .branch cases otherwise => return .branch ((condition, body) :: cases) otherwise
        | other => return other
      else unexpected .elseOrEnd t
    | none => unexpected .elseOrEnd none

/-- Parses a fold after its name. -/
def fold (fuel : Nat) (kind : String) : Parse Term :=
  match fuel with
  | 0 => unexpected .term none
  | fuel + 1 => do
    let source ← atom fuel
    just "as"
    let p ← pattern fuel
    return .fold kind source p (← args (term fuel) fuel)

/-- Parses the pieces of a string. -/
def stringParts (fuel : Nat) (pieces : List Piece) : Parse (List TextPart) :=
  match fuel, pieces with
  | 0, _ => return []
  | _, [] => return []
  | fuel + 1, .text s :: pieces => return .text s :: (← stringParts fuel pieces)
  | fuel + 1, .char c :: pieces => return .text (String.singleton c) :: (← stringParts fuel pieces)
  | fuel + 1, .tokens tokens :: pieces => do
    let t ← within tokens ")" .id (term fuel)
    return .term t :: (← stringParts fuel pieces)

/-- Parses the steps of a path. -/
def path (fuel : Nat) : Parse (List (Part × Bool)) :=
  match fuel with
  | 0 => return []
  | fuel + 1 => do
    match ← ahead with
    | .block text tokens :: _ =>
      if text.startsWith "[" then
        discard next
        let p ← within tokens "]" (.index .id) (part fuel)
        let o ← optional fuel
        return (p, o) :: (← path fuel)
      else return []
    | .symbol "." :: rest => do
      discard next
      match rest with
      | .block text _ :: _ => if text.startsWith "[" then path fuel else keyed fuel
      | _ => keyed fuel
    | .symbol text :: _ =>
      if text.startsWith "." ∧ text ≠ "." ∧ text ≠ ".." then
        discard next
        let o ← optional fuel
        return (.index (literal (text.drop 1).toString), o) :: (← path fuel)
      else return []
    | _ => return []

/-- Parses the steps of a path after a dot that a key must follow. -/
def keyed (fuel : Nat) : Parse (List (Part × Bool)) :=
  match fuel with
  | 0 => return []
  | fuel + 1 => do
    let key ← quotedKey fuel
    let o ← optional fuel
    return (.index key, o) :: (← path fuel)

/-- Parses a key that is written as a string. -/
def quotedKey (fuel : Nat) : Parse Term :=
  match fuel with
  | 0 => unexpected .key none
  | fuel + 1 => do
    match ← next with
    | some (.string _ pieces) => return .string none (← stringParts fuel pieces)
    | some (.format name) =>
      match ← next with
      | some (.string _ pieces) => return .string (some name) (← stringParts fuel pieces)
      | found => unexpected .string found
    | found => unexpected .key found

/-- Parses a key that is written as a word or a string. -/
def plainKey (fuel : Nat) : Parse Term :=
  match fuel with
  | 0 => unexpected .key none
  | fuel + 1 => do
    match ← ahead with
    | t@(.word name) :: _ =>
      discard next
      if isQualified name then unexpected .key t else return literal name
    | _ => quotedKey fuel

/-- Parses what stands in the brackets of a path. -/
def part (fuel : Nat) : Parse Part :=
  match fuel with
  | 0 => unexpected .term none
  | fuel + 1 => do
    if ← done then return .range none none
    else if ← accept ":" then return .range none (some (← term fuel))
    else
      let first ← term fuel
      if ← accept ":" then
        if ← done then return .range (some first) none else return .range (some first) (some (← term fuel))
      else return .index first
where
  done : Parse Bool := do
    match ← ahead with
    | [] | [_] => return true
    | _ => return false

/-- Parses an entry of an object. -/
def entry (fuel : Nat) : Parse (Term × Option Term) :=
  match fuel with
  | 0 => unexpected .key none
  | fuel + 1 => do
    match ← ahead with
    | t@(.block text tokens) :: _ =>
      discard next
      if text.startsWith "(" then
        let key ← within tokens ")" .id (term fuel)
        just ":"
        return (key, some (← termWith fuel false))
      else unexpected .key t
    | .var name :: _ =>
      discard next
      entryValue fuel (.var name)
    | _ => entryValue fuel (← plainKey fuel)

/-- Parses the value of an entry, if it has one. -/
def entryValue (fuel : Nat) (key : Term) : Parse (Term × Option Term) :=
  match fuel with
  | 0 => unexpected .term none
  | fuel + 1 => do
    if ← accept ":" then return (key, some (← termWith fuel false)) else return (key, none)

/-- Parses a pattern. -/
def pattern (fuel : Nat) : Parse Pattern :=
  match fuel with
  | 0 => unexpected .pattern none
  | fuel + 1 => do
    match ← next with
    | some (.var name) => return .var name
    | some t@(.block text tokens) =>
      if text.startsWith "[" then
        within tokens "" (.var "$_") (do return .array (← items (pattern fuel) fuel))
      else if text.startsWith "\x7b" then
        within tokens "" (.var "$_") (do return .object (← entries (patternEntry fuel) fuel))
      else unexpected .pattern t
    | found => unexpected .pattern found

/-- Parses an entry of an object pattern. -/
def patternEntry (fuel : Nat) : Parse (Term × Pattern) :=
  match fuel with
  | 0 => unexpected .key none
  | fuel + 1 => do
    match ← ahead with
    | .var name :: _ =>
      discard next
      let key := literal (name.drop 1).toString
      if ← accept ":" then return (key, ← pattern fuel) else return (key, .var name)
    | t@(.block text tokens) :: _ =>
      discard next
      if text.startsWith "(" then
        let key ← within tokens ")" .id (term fuel)
        just ":"
        return (key, ← pattern fuel)
      else unexpected .key t
    | _ =>
      let key ← plainKey fuel
      just ":"
      return (key, ← pattern fuel)

/-- Parses a definition after its first word. -/
def definition (fuel : Nat) : Parse Definition :=
  match fuel with
  | 0 => unexpected .ident none
  | fuel + 1 => do
    match ← next with
    | some t@(.word name) | some t@(.format name) =>
      if isQualified name then unexpected .ident t
      else
        let params ← args param fuel
        just ":"
        let body ← term fuel
        just ";"
        return .mk name params body
    | found => unexpected .ident found
where
  param : Parse String := do
    match ← next with
    | some t@(.word name) => if isQualified name then unexpected .param t else return name
    | some (.var name) => return name
    | found => unexpected .param found

/-- Parses all definitions that follow. -/
def definitions (fuel : Nat) : Parse (List Definition) :=
  match fuel with
  | 0 => return []
  | fuel + 1 => do
    if ← accept "def" then
      let first ← definition fuel
      return first :: (← definitions fuel)
    else return []

end

end Parse

/-- Runs a parser on all of some tokens. -/
def Parse.runAll {α : Type} (default : α) (p : Parse α) (tokens : List Token) : Except (List Surprise) α :=
  match Parse.within tokens "" default p ⟨[], []⟩ with
  | .ok x s => if s.errors.isEmpty then .ok x else .error s.errors.reverse
  | .error e _ => .error [e]

end TypeSketch.Filter
