/-!
# Patterns of names

A pattern stands for the names that it matches: `?` is any character, `*` any characters, `[a-z]`
one of some characters, `[!a-z]` one of the others, and `**` alone between slashes any directories.

* `Token`, `Pattern` : the parts of a pattern;
* `Mistake` : why a text is no pattern, with its wording;
* `Pattern.parse` : the pattern of a text;
* `Pattern.accepts` : whether a pattern matches a name.
-/

namespace TypeSketch.Glob

/-- The characters between two bounds. -/
structure Range where
  low : Char
  high : Char
deriving DecidableEq, Repr

/-- A part of a pattern. -/
inductive Token where
  | char (c : Char)
  | anyChar
  | anyText
  | anyDepth
  | oneOf (ranges : List Range)
  | noneOf (ranges : List Range)
deriving DecidableEq, Repr

/-- A pattern is matched from its first part on. -/
abbrev Pattern := List Token

/-! ## Mistakes -/

/-- What is wrong with a text that is no pattern. -/
inductive Cause where
  | tooManyStars
  | depthInName
  | unclosedRange
deriving DecidableEq, Repr

/-- What is wrong with a text that is no pattern, and the number of characters before it. -/
structure Mistake where
  cause : Cause
  position : Nat
deriving DecidableEq, Repr

/-- The wording of a cause. -/
def Cause.message : Cause → String
  | .tooManyStars => "wildcards are either regular `*` or recursive `**`"
  | .depthInName => "recursive wildcards must form a single path component"
  | .unclosedRange => "invalid range pattern"

/-- The wording of a mistake. -/
def Mistake.message (e : Mistake) : String :=
  "Pattern syntax error near position " ++ toString e.position ++ ": " ++ e.cause.message

/-! ## Reading -/

/-- The ranges that the characters between brackets stand for. -/
def ranges : List Char → List Range
  | low :: '-' :: high :: rest => ⟨low, high⟩ :: ranges rest
  | c :: rest => ⟨c, c⟩ :: ranges rest
  | [] => []

/-- The characters up to a closing bracket, which is not the first of them, and the text after it. -/
def bracketed? : List Char → Option (List Char × List Char)
  | [] => none
  | first :: rest =>
    match rest.dropWhile (· ≠ ']') with
    | [] => none
    | _ :: after => some (first :: rest.takeWhile (· ≠ ']'), after)

/-- The token of a text after an opening bracket, the characters it takes, and the text after it. -/
def readRange? : List Char → Option (Token × Nat × List Char)
  | '!' :: rest => (bracketed? rest).map fun (inner, after) => (.noneOf (ranges inner), inner.length + 2, after)
  | rest => (bracketed? rest).map fun (inner, after) => (.oneOf (ranges inner), inner.length + 1, after)

theorem length_bracketed?_lt {s inner after : List Char} (h : bracketed? s = some (inner, after)) :
    after.length < s.length := by
  unfold bracketed? at h
  split at h
  · simp at h
  · next first rest =>
    have hle := (List.dropWhile_sublist (fun c => decide (c ≠ ']')) (l := rest)).length_le
    split at h
    · simp at h
    · next d tail ht =>
      rw [ht] at hle
      simp only [Option.some.injEq, Prod.mk.injEq] at h
      simp only [List.length_cons] at hle ⊢
      rw [← h.2]
      omega

theorem length_readRange?_lt {s after : List Char} {token : Token} {n : Nat}
    (h : readRange? s = some (token, n, after)) : after.length < s.length := by
  unfold readRange? at h
  split at h <;>
  · simp only [Option.map_eq_some_iff, Prod.exists, Prod.mk.injEq] at h
    obtain ⟨inner, rest, hb, _, _, rfl⟩ := h
    have := length_bracketed?_lt hb
    grind

/-- Reads a pattern from the character number `n` on, `opening` telling whether a name starts
there. -/
def parseFrom (n : Nat) (opening : Bool) (s : List Char) : Except Mistake Pattern :=
  match s with
  | [] => .ok []
  | '?' :: rest => (parseFrom (n + 1) false rest).map (.anyChar :: ·)
  | '*' :: '*' :: '*' :: _ => .error ⟨.tooManyStars, n + 2⟩
  | '*' :: '*' :: rest =>
    if !opening then .error ⟨.depthInName, n - 1⟩
    else
      match rest with
      | [] => .ok [.anyDepth]
      | c :: after =>
        if c = '/' then (parseFrom (n + 3) true after).map (.anyDepth :: ·)
        else .error ⟨.depthInName, n + 2⟩
  | '*' :: rest => (parseFrom (n + 1) false rest).map (.anyText :: ·)
  | '[' :: rest =>
    match h : readRange? rest with
    | none => .error ⟨.unclosedRange, n⟩
    | some (token, taken, after) =>
      have := length_readRange?_lt h
      (parseFrom (n + 1 + taken) false after).map (token :: ·)
  | c :: rest => (parseFrom (n + 1) (c = '/') rest).map (.char c :: ·)
termination_by s.length

namespace Pattern

/-- The pattern of a text. -/
def parse (s : List Char) : Except Mistake Pattern := parseFrom 0 true s

/-- Whether a pattern stands for any directories. -/
def isAnyDepth (p : Pattern) : Bool := p = [.anyDepth]

/-- The only name that a pattern matches, if it is made of characters. -/
def literal? (p : Pattern) : Option (List Char) :=
  p.mapM fun
    | .char c => some c
    | _ => none

/-! ## Matching -/

/-- Whether some ranges hold a character. -/
def inRanges (ranges : List Range) (c : Char) : Bool :=
  ranges.any fun range => range.low ≤ c && c ≤ range.high

/-- Whether a token matches one character. -/
def matchesChar (c : Char) : Token → Bool
  | .char d => c = d
  | .anyChar => true
  | .oneOf ranges => inRanges ranges c
  | .noneOf ranges => !inRanges ranges c
  | .anyText => false
  | .anyDepth => false

/-- Whether a token matches any number of characters. -/
def isRun (token : Token) : Bool := token = .anyText || token = .anyDepth

/-- Whether a test holds of a text without some of its first characters. -/
def anySuffix (test : List Char → Bool) : List Char → Bool
  | [] => test []
  | c :: rest => test (c :: rest) || anySuffix test rest

/-- Whether a pattern matches a whole name. -/
def accepts : Pattern → List Char → Bool
  | [], s => s.isEmpty
  | token :: p, s =>
    if isRun token then anySuffix (accepts p) s
    else
      match s with
      | [] => false
      | c :: rest => matchesChar c token && accepts p rest

end Pattern

end TypeSketch.Glob
