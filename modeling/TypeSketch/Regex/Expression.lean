/-!
# Regular expressions

* `Range`, `CharSet` : sets of characters, with the named ones in `digits`, `wordChars`, `blanks` and
  `namedClass?`;
* `Anchor` : tests of a place in a text;
* `Expression` : the expressions;
* `Flags` : how an expression is read.
-/

namespace TypeSketch.Regex

/-- The characters with code points between two bounds. -/
structure Range where
  low : Nat
  high : Nat
deriving DecidableEq, Repr

/-- A set of characters: those in some ranges, or all others. -/
structure CharSet where
  ranges : List Range
  negated : Bool := false

/-- A test of a place. -/
inductive Anchor where
  | textStart | textEnd
  /-- The start or the end of a line that a line feed ends. -/
  | lineStart | lineEnd
  /-- The start or the end of a line that a line feed ends, or a carriage return, or both. -/
  | anyLineStart | anyLineEnd
  | wordEdge | noWordEdge | wordStart | wordEnd
  /-- No word goes on before, or after. -/
  | noWordBefore | noWordAfter
deriving DecidableEq, Repr

/-- An expression. -/
inductive Expression where
  | empty
  | chars (set : CharSet)
  | anchor (kind : Anchor)
  /-- A part whose place in a match is kept. -/
  | group (index : Nat) (body : Expression)
  | seq (items : List Expression)
  /-- The first of several expressions that matches, those before being preferred. -/
  | alt (cases : List Expression)
  /-- So many times, as often as possible if it is greedy and as rarely as possible otherwise. -/
  | rep (least : Nat) (most : Option Nat) (greedy : Bool) (body : Expression)

/-- How an expression is read. -/
structure Flags where
  ignoreCase : Bool := false
  /-- Whether a dot stands for a line feed too. -/
  dotAll : Bool := false
  /-- Whether the anchors of the text hold at every line. -/
  multiLine : Bool := false
  /-- Whether repetitions are greedy only if they are marked. -/
  lazy : Bool := false
  /-- Whether a carriage return ends a line too. -/
  anyLine : Bool := false
  /-- Whether white space and comments are skipped. -/
  spaced : Bool := false

/-! ## Characters -/

/-- Whether a set holds a character. -/
def CharSet.holds (set : CharSet) (c : Char) : Bool :=
  set.ranges.any (fun r => r.low ≤ c.toNat && c.toNat ≤ r.high) != set.negated

/-- The set of one character. -/
def CharSet.one (c : Char) : CharSet := ⟨[⟨c.toNat, c.toNat⟩], false⟩

/-- The letters of the other case that belong to those of a range. Where a range holds letters of
both cases, those of the small ones. -/
def Range.otherCase? (r : Range) : Option Range :=
  if r.low ≤ 122 ∧ 97 ≤ r.high then some ⟨max r.low 97 - 32, min r.high 122 - 32⟩
  else if r.low ≤ 90 ∧ 65 ≤ r.high then some ⟨max r.low 65 + 32, min r.high 90 + 32⟩
  else none

/-- Ranges with the letters of the other case. -/
def foldCase (ranges : List Range) : List Range := ranges ++ ranges.filterMap Range.otherCase?

/-- The ranges of all characters outside some ranges that are sorted, from a code point on. -/
def outside (low : Nat) : List Range → List Range
  | [] => [⟨low, 0x10FFFF⟩]
  | r :: rest => (if low < r.low then [⟨low, r.low - 1⟩] else []) ++ outside (r.high + 1) rest

/-- The digits. -/
def digits : List Range := [⟨48, 57⟩]

/-- The characters of words: letters, digits and the low line. -/
def wordChars : List Range := [⟨48, 57⟩, ⟨65, 90⟩, ⟨95, 95⟩, ⟨97, 122⟩]

/-- The spaces, tabs and line ends. -/
def blanks : List Range := [⟨9, 13⟩, ⟨32, 32⟩]

/-- Whether a character belongs to words. -/
def isWordChar (c : Char) : Bool := CharSet.holds ⟨wordChars, false⟩ c

/-- The ranges of the class that a letter stands for. -/
def letterClass? : Char → Option (List Range)
  | 'd' => some digits
  | 'w' => some wordChars
  | 's' => some blanks
  | 'D' => some (outside 0 digits)
  | 'W' => some (outside 0 wordChars)
  | 'S' => some (outside 0 blanks)
  | _ => none

/-- The ranges of the class with a name. -/
def namedClass? : String → Option (List Range)
  | "alnum" => some [⟨48, 57⟩, ⟨65, 90⟩, ⟨97, 122⟩]
  | "alpha" => some [⟨65, 90⟩, ⟨97, 122⟩]
  | "ascii" => some [⟨0, 127⟩]
  | "blank" => some [⟨9, 9⟩, ⟨32, 32⟩]
  | "cntrl" => some [⟨0, 31⟩, ⟨127, 127⟩]
  | "digit" => some digits
  | "graph" => some [⟨33, 126⟩]
  | "lower" => some [⟨97, 122⟩]
  | "print" => some [⟨32, 126⟩]
  | "punct" => some [⟨33, 47⟩, ⟨58, 64⟩, ⟨91, 96⟩, ⟨123, 126⟩]
  | "space" => some blanks
  | "upper" => some [⟨65, 90⟩]
  | "word" => some wordChars
  | "xdigit" => some [⟨48, 57⟩, ⟨65, 70⟩, ⟨97, 102⟩]
  | _ => none

/-! ## Flags -/

namespace Flags

/-- The characters that a dot stands for. -/
def dot (flags : Flags) : CharSet :=
  if flags.dotAll then ⟨[], true⟩ else if flags.anyLine then ⟨[⟨10, 10⟩, ⟨13, 13⟩], true⟩ else ⟨[⟨10, 10⟩], true⟩

/-- The test that a caret stands for. -/
def caret (flags : Flags) : Anchor :=
  if !flags.multiLine then .textStart else if flags.anyLine then .anyLineStart else .lineStart

/-- The test that a dollar sign stands for. -/
def dollar (flags : Flags) : Anchor :=
  if !flags.multiLine then .textEnd else if flags.anyLine then .anyLineEnd else .lineEnd

end Flags

/-! ## Properties of expressions -/

mutual

/-- Whether an expression can match nothing at all. -/
def Expression.matchesEmpty : Expression → Bool
  | .empty => true
  | .chars _ => false
  | .anchor _ => true
  | .group _ body => body.matchesEmpty
  | .seq items => allMatchEmpty items
  | .alt cases => someMatchesEmpty cases
  | .rep least _ _ body => least = 0 || body.matchesEmpty

/-- Whether all of some expressions can match nothing. -/
def allMatchEmpty : List Expression → Bool
  | [] => true
  | e :: es => e.matchesEmpty && allMatchEmpty es

/-- Whether one of some expressions can match nothing. -/
def someMatchesEmpty : List Expression → Bool
  | [] => false
  | e :: es => e.matchesEmpty || someMatchesEmpty es

end

mutual

/-- The memory that the machine of an expression takes. -/
def Expression.memory : Expression → Nat
  | .empty => 32
  | .chars set => if set.ranges.length = 1 && !set.negated then 32 else 32 + 8 * set.ranges.length
  | .anchor _ => 32
  | .group _ body => 64 + body.memory
  | .seq items => memoryOf items
  | .alt cases => 64 + 4 * cases.length + memoryOf cases
  | .rep least most _ body =>
    match most with
    | none => (max least 1) * body.memory + 112
    | some most => least * body.memory + (most - least) * (body.memory + 40) + 32

/-- The memory that the machines of some expressions take. -/
def memoryOf : List Expression → Nat
  | [] => 0
  | e :: es => e.memory + memoryOf es

end

/-- Repetition, simplified where it is no repetition. -/
def Expression.repeated (least : Nat) (most : Option Nat) (greedy : Bool) (body : Expression) : Expression :=
  if most = some 0 then .empty
  else if least = 1 ∧ most = some 1 then body
  else .rep least most greedy body

/-- One expression after the other. -/
def Expression.ofSeq : List Expression → Expression
  | [] => .empty
  | [e] => e
  | es => .seq es

/-- One of several expressions. -/
def Expression.ofCases : List Expression → Expression
  | [e] => e
  | es => .alt es

end TypeSketch.Regex
