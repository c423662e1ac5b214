import TypeSketch.Regex.Expression
import TypeSketch.Regex.Fault
import TypeSketch.Text.White

/-!
# Reading regular expressions

* `Reading`, `Read` : what is left to read, and readers of it;
* `Read.escape`, `Read.bracket`, `Read.counted`, `Read.flags` : escapes, classes in brackets, counts in
  braces and flags in parentheses;
* `Read.alternatives` : an expression.
-/

namespace TypeSketch.Regex

/-- What is left to read, the flags in force, and the names of the groups so far. -/
structure Reading where
  rest : List Char
  flags : Flags
  names : List (Option String)

/-- A reader of expressions. -/
abbrev Read := StateT Reading (Except Fault)

namespace Read

/-! ## Characters -/

/-- The text after white space and comments. A comment goes from a hash to the end of its line. -/
def skipSpaces (inComment : Bool) : List Char → List Char
  | [] => []
  | c :: rest =>
    if inComment then skipSpaces (c ≠ '\n') rest
    else if Text.isWhite c then skipSpaces false rest
    else if c = '#' then skipSpaces true rest
    else c :: rest

/-- Skips white space and comments where expressions may be spaced. -/
def skip : Read Unit :=
  modify fun s => if s.flags.spaced then { s with rest := skipSpaces false s.rest } else s

/-- The next character, which is left to read. -/
def ahead : Read (Option Char) := return (← get).rest.head?

/-- Takes one character; the next one, if there is one. -/
def step : Read (Option Char) := do
  modify fun s => { s with rest := s.rest.tail }
  ahead

/-- Takes one character and what may be skipped after it; the next character, if there is one. -/
def stepSkip : Read (Option Char) := do
  discard step
  skip
  ahead

/-- Takes some characters if they come next. -/
def accept (text : String) : Read Bool := do
  let s ← get
  if text.toList.isPrefixOf s.rest then
    set { s with rest := s.rest.drop text.length }
    return true
  else return false

/-- Takes characters while a test holds. Each may be followed by what may be skipped. -/
def takeWhile (p : Char → Bool) : Nat → Read (List Char)
  | 0 => return []
  | fuel + 1 => do
    match ← ahead with
    | some c =>
      if p c then
        discard stepSkip
        return c :: (← takeWhile p fuel)
      else return []
    | none => return []

/-- A measure of what is left to read. -/
def size : Read Nat := return (← get).rest.length

/-- A character as an expression. -/
def char (c : Char) : Read Expression := do
  let one : Range := ⟨c.toNat, c.toNat⟩
  if (← get).flags.ignoreCase then return .chars ⟨foldCase [one], false⟩ else return .chars ⟨[one], false⟩

/-! ## Numbers -/

/-- The value of a hexadecimal digit. -/
def hexDigit? (c : Char) : Option Nat :=
  if c.isDigit then some (c.toNat - 48)
  else if 'a' ≤ c ∧ c ≤ 'f' then some (c.toNat - 87)
  else if 'A' ≤ c ∧ c ≤ 'F' then some (c.toNat - 55)
  else none

/-- The character whose code point some hexadecimal digits give. -/
def hexChar (digits : List Char) (fault : Fault) : Read Expression := do
  let code := digits.foldl (fun n c => n * 16 + (hexDigit? c).getD 0) 0
  if code.isValidChar then char (Char.ofNat code) else throw fault

/-- Takes the hexadecimal digits between braces, after the opening one. -/
def braceDigits : Nat → Read (List Char)
  | 0 => return []
  | fuel + 1 => do
    match ← stepSkip with
    | none => throw .endInBraceHex
    | some c =>
      if c = '\x7d' then return []
      else if (hexDigit? c).isNone then throw .noBraceHexDigit
      else return c :: (← braceDigits fuel)

/-- Takes so many more hexadecimal digits. -/
def fixedDigits (first : Bool) : Nat → Read (List Char)
  | 0 => return []
  | count + 1 => do
    let next ← if first then ahead else stepSkip
    match next with
    | none => throw .endInFixedHex
    | some c => if (hexDigit? c).isNone then throw .noFixedHexDigit else return c :: (← fixedDigits false count)

/-- Takes a code point after the letter of its escape, of `count` digits unless it stands in braces. -/
def hexEscape (count : Nat) : Read Expression := do
  match ← stepSkip with
  | none => throw .endBeforeHex
  | some '\x7b' =>
    let digits ← braceDigits (← size)
    discard stepSkip
    if digits.isEmpty then throw .emptyBraceHex else hexChar digits .invalidBraceHex
  | some _ =>
    let digits ← fixedDigits true count
    discard stepSkip
    hexChar digits .invalidFixedHex

/-- Takes a decimal number with white space around it. -/
def decimal : Read Nat := do
  modify fun s => { s with rest := s.rest.dropWhile Text.isWhite }
  let ds ← takeWhile Char.isDigit (← size)
  discard (takeWhile Text.isWhite (← size))
  if ds.isEmpty then throw .noDecimalDigits
  let n := ds.foldl (fun n c => n * 10 + (c.toNat - 48)) 0
  if 4294967296 ≤ n then throw .invalidDecimal
  return n

/-! ## Escapes -/

/-- The characters that an escape by themselves stand for themselves. -/
def isMark (c : Char) : Bool := c.toNat < 128 && !c.isAlphanum && c ≠ '<' && c ≠ '>'

/-- Takes the name in braces of a test of words, if it is one, after its letter. -/
def namedWordEdge : Read (Option Expression) := do
  let before ← get
  let isNameChar (c : Char) : Bool := c.isAlpha || c = '-'
  match ← stepSkip with
  | none => throw .endAfterBrace
  | some c =>
    if !isNameChar c then
      set before
      return none
    let name ← takeWhile isNameChar (← size)
    match ← ahead with
    | some '\x7d' =>
      discard step
      match String.ofList name with
      | "start" => return some (.anchor .wordStart)
      | "end" => return some (.anchor .wordEnd)
      | "start-half" => return some (.anchor .noWordBefore)
      | "end-half" => return some (.anchor .noWordAfter)
      | _ => throw .unknownWordEdge
    | _ => throw .unclosedWordEdge

/-- Takes an escape, from its backslash on. -/
def escape : Read Expression := do
  match ← step with
  | none => throw .endInEscape
  | some c =>
    if c.isDigit then throw .backreference
    else if c = 'p' ∨ c = 'P' then throw .unicodeClass
    else if c = 'x' then hexEscape 2
    else if c = 'u' then hexEscape 4
    else if c = 'U' then hexEscape 8
    else
      discard step
      match letterClass? c with
      | some ranges => return .chars ⟨ranges, false⟩
      | none =>
        if isMark c then char c
        else
          match c with
          | 'a' => char '\x07'
          | 'f' => char '\x0c'
          | 't' => char '\t'
          | 'n' => char '\n'
          | 'r' => char '\r'
          | 'v' => char '\x0b'
          | 'A' => return .anchor .textStart
          | 'z' => return .anchor .textEnd
          | 'b' =>
            if (← ahead) = some '\x7b' then return (← namedWordEdge).getD (.anchor .wordEdge)
            else return .anchor .wordEdge
          | 'B' => return .anchor .noWordEdge
          | '<' => return .anchor .wordStart
          | '>' => return .anchor .wordEnd
          | _ => throw .unknownEscape

/-! ## Classes in brackets -/

/-- Takes a named class, from its opening bracket on, if it is one. -/
def named : Read (Option (List Range)) := do
  let before ← get
  let rest := before.rest.drop 2
  if !"[:".toList.isPrefixOf before.rest then return none
  let negated := rest.head? = some '^'
  let rest := if negated then rest.tail else rest
  let name := rest.takeWhile (· ≠ ':')
  let after := rest.drop name.length
  if !":]".toList.isPrefixOf after then return none
  match namedClass? (String.ofList name) with
  | some ranges =>
    set { before with rest := after.drop 2 }
    return some (if negated then outside 0 ranges else ranges)
  | none => return none

/-- Takes one item of a class. -/
def item : Read Expression := do
  match ← ahead with
  | some '\\' => escape
  | some c =>
    discard step
    return .chars (.one c)
  | none => throw .unclosedClass

/-- The ranges of an item of a class. -/
def itemRanges : Expression → Except Fault (List Range)
  | .chars set => .ok set.ranges
  | _ => .error .invalidClassItem

/-- The code point of an item that is an end of a range. -/
def rangeEnd : Expression → Except Fault Nat
  | .chars ⟨[r], _⟩ => if r.low = r.high then .ok r.low else .error .invalidRangeEnd
  | _ => .error .invalidRangeEnd

/-- Takes an item of a class, or two with a dash between them. -/
def itemOrRange : Read (List Range) := do
  let first ← item
  skip
  let s ← get
  let afterDash := (if s.flags.spaced then skipSpaces false s.rest.tail else s.rest.tail).head?
  match s.rest.head? with
  | none => throw .unclosedClassItem
  | some c =>
    if c ≠ '-' ∨ afterDash = some ']' ∨ afterDash = some '-' then itemRanges first
    else
      if (← stepSkip).isNone then throw .unclosedClassDash
      let second ← item
      let low ← rangeEnd first
      let high ← rangeEnd second
      if high < low then throw .emptyRange
      return [⟨low, high⟩]

/-- Takes the items of a class up to its closing bracket. -/
def classItems : Nat → Read (List Range)
  | 0 => throw .unclosedClass
  | fuel + 1 => do
    skip
    let s ← get
    let doubled := s.rest.tail.head? = s.rest.head?
    match s.rest.head? with
    | none => throw .unclosedClass
    | some '[' =>
      match ← named with
      | some ranges => return ranges ++ (← classItems fuel)
      | none => throw .nestedClass
    | some ']' =>
      discard step
      return []
    | some c =>
      if doubled ∧ c = '&' then throw .intersection
      else if doubled ∧ c = '-' then throw .difference
      else if doubled ∧ c = '~' then throw .symmetricDifference
      else return (← itemOrRange) ++ (← classItems fuel)

/-- Takes the dashes at the start of a class. -/
def dashes : Nat → Read (List Range)
  | 0 => return []
  | fuel + 1 => do
    if (← ahead) = some '-' then
      if (← stepSkip).isNone then throw .unclosedClassDash
      return ⟨45, 45⟩ :: (← dashes fuel)
    else return []

/-- Takes a class, from its opening bracket on. A closing bracket that comes first is an item. -/
def bracket : Read Expression := do
  let fuel ← size
  match ← stepSkip with
  | none => throw .unclosedClass
  | some c =>
    let negated := c = '^'
    if negated then
      if (← stepSkip).isNone then throw .unclosedNegation
    let before ← dashes fuel
    let before ← if before.isEmpty ∧ (← ahead) = some ']' then do
        if (← stepSkip).isNone then throw .unclosedClassBracket
        pure [⟨93, 93⟩]
      else pure before
    let ranges := before ++ (← classItems fuel)
    return .chars ⟨if (← get).flags.ignoreCase then foldCase ranges else ranges, negated⟩

/-! ## Repetition -/

/-- Takes the mark of a repetition that is not of the usual kind; whether it is greedy. -/
def greed : Read Bool := do
  let marked ← accept "?"
  return marked == (← get).flags.lazy

/-- The last item repeated. -/
def repeatLast (items : List Expression) (least : Nat) (most : Option Nat) (greedy : Bool) : List Expression :=
  match items with
  | [] => []
  | e :: es => .repeated least most greedy e :: es

/-- Takes a sign of repetition and applies it to the last item. -/
def uncounted (items : List Expression) (c : Char) : Read (List Expression) := do
  if items.isEmpty then throw .nothingToRepeat
  discard step
  let greedy ← greed
  return match c with
    | '?' => repeatLast items 0 (some 1) greedy
    | '*' => repeatLast items 0 none greedy
    | _ => repeatLast items 1 none greedy

/-- Takes a count in braces, from the opening one on, and applies it to the last item. -/
def counted (items : List Expression) : Read (List Expression) := do
  if items.isEmpty then throw .nothingToCount
  if (← stepSkip).isNone then throw .unclosedCount
  let least ← decimal
  let most : Option Nat ← match ← ahead with
    | none => throw .unclosedLeast
    | some ',' => do
      match ← stepSkip with
      | none => throw .unclosedComma
      | some c =>
        let most ← if c = '\x7d' then pure none else some <$> decimal
        if (← ahead).isNone then throw .unclosedMost
        pure most
    | some _ => pure (some least)
  if (← ahead) ≠ some '\x7d' then throw .invalidCount
  discard stepSkip
  let greedy ← greed
  if most.any (· < least) then throw .emptyCount
  return repeatLast items least most greedy

/-! ## Groups -/

/-- The flags with one set or cleared. -/
def setFlag? (flags : Flags) (on : Bool) : Char → Option Flags
  | 'i' => some { flags with ignoreCase := on }
  | 'm' => some { flags with multiLine := on }
  | 's' => some { flags with dotAll := on }
  | 'U' => some { flags with lazy := on }
  | 'R' => some { flags with anyLine := on }
  | 'x' => some { flags with spaced := on }
  | 'u' => some flags
  | _ => none

/-- Takes the letters of flags up to the colon or the closing parenthesis after them. A minus sign
clears the flags after it. -/
def flagLetters (on : Bool) (last : Option Char) (seen : List Char) (flags : Flags) : Nat → Read Flags
  | 0 => throw .endInFlags
  | fuel + 1 => do
    match ← ahead with
    | none => throw .endInFlags
    | some c =>
      if c = ':' ∨ c = ')' then
        if last = some '-' then throw .danglingNegation else return flags
      else if c = '-' then
        if !on then throw .repeatedNegation
        if (← step).isNone then throw .endInFlags
        flagLetters false (some c) seen flags fuel
      else
        match setFlag? flags on c with
        | none => throw .unknownFlag
        | some flags =>
          if seen.contains c then throw .duplicateFlag
          if (← step).isNone then throw .endInFlags
          flagLetters on (some c) (c :: seen) flags fuel

/-- Whether a character may stand in the name of a group. -/
def isNameChar (first : Bool) (c : Char) : Bool :=
  c = '_' || c.isAlpha || 127 < c.toNat || (!first && (c.isDigit || c = '.' || c = '[' || c = ']'))

/-- Takes the name of a group and the bracket after it. -/
def groupName : Read String := do
  let s ← get
  if s.rest.isEmpty then throw .missingName
  let name := s.rest.takeWhile (· ≠ '>')
  let isName := match name with
    | [] => true
    | c :: rest => isNameChar true c && rest.all (isNameChar false)
  if !isName then throw .invalidName
  match s.rest.drop name.length with
  | [] => throw .unclosedName
  | _ :: rest =>
    if name.isEmpty then throw .emptyName
    let name := String.ofList name
    if s.names.contains (some name) then throw .duplicateName
    set { s with rest }
    return name

/-- The deepest nesting of groups. -/
def maxNesting : Nat := 50

mutual

/-- Takes alternatives up to the end or the closing parenthesis of the group that they stand in. -/
def alternatives (fuel depth : Nat) : Read Expression :=
  match fuel with
  | 0 => throw .tooMuchNesting
  | fuel + 1 => do
    if maxNesting < depth then throw .tooMuchNesting
    pieces fuel depth [] []

/-- Takes what follows some alternatives and some items, the last ones first. -/
def pieces (fuel depth : Nat) (cases items : List Expression) : Read Expression :=
  match fuel with
  | 0 => throw .tooMuchNesting
  | fuel + 1 => do
    skip
    let whole : Expression := .ofCases ((.ofSeq items.reverse) :: cases).reverse
    match ← ahead with
    | none => return whole
    | some ')' => if depth = 0 then throw .unopenedGroup else return whole
    | some '(' =>
      let flags := (← get).flags
      let inner ← group fuel depth
      if inner.isSome then modify fun s => { s with flags }
      if (← ahead) ≠ some ')' then throw .unclosedGroup
      discard step
      pieces fuel depth cases (inner.toList ++ items)
    | some '|' =>
      discard step
      pieces fuel depth (.ofSeq items.reverse :: cases) []
    | some '[' => do pieces fuel depth cases ((← bracket) :: items)
    | some '\x7b' => do pieces fuel depth cases (← counted items)
    | some '\\' => do pieces fuel depth cases ((← escape) :: items)
    | some c =>
      if c = '?' ∨ c = '*' ∨ c = '+' then pieces fuel depth cases (← uncounted items c)
      else
        discard step
        let flags := (← get).flags
        let e ← match c with
          | '.' => pure (.chars flags.dot)
          | '^' => pure (.anchor flags.caret)
          | '$' => pure (.anchor flags.dollar)
          | c => char c
        pieces fuel depth cases (e :: items)

/-- Takes a group up to its closing parenthesis, from its opening one on; none if it only sets
flags. -/
def group (fuel depth : Nat) : Read (Option Expression) :=
  match fuel with
  | 0 => throw .tooMuchNesting
  | fuel + 1 => do
    discard stepSkip
    let rest := (← get).rest
    if ["?=", "?!", "?<=", "?<!"].any fun mark => mark.toList.isPrefixOf rest then throw .lookAround
    let isNamed ← if ← accept "?P<" then pure true else accept "?<"
    if isNamed then
      let index := (← get).names.length
      let name ← groupName
      modify fun s => { s with names := s.names ++ [some name] }
      return some (.group index (← alternatives fuel (depth + 1)))
    else if ← accept "?" then
      let before ← get
      if before.rest.isEmpty then throw .endAfterQuestion
      let flags ← flagLetters true none [] before.flags (before.rest.length + 1)
      modify fun s => { s with flags }
      let after ← get
      if after.rest.head? = some ')' then
        if after.rest.length = before.rest.length then throw .emptyFlags
        return none
      else
        discard step
        return some (← alternatives fuel (depth + 1))
    else
      let index := (← get).names.length
      modify fun s => { s with names := s.names ++ [none] }
      return some (.group index (← alternatives fuel (depth + 1)))

end

end Read

end TypeSketch.Regex
