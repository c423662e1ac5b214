import TypeSketch.Filter.Token

/-!
# Filter terms

* `Term` : the filters, with `Piece` for the parts of strings, `Pattern` for what is bound,
  `Part` for the steps of a path and `Definition` for named filters;
* `MathOp`, `Comparison`, `BinaryOp` : the operators;
* `BinaryOp.precedence`, `BinaryOp.isRightAssociative` : how tightly they bind.
-/

namespace TypeSketch.Filter

/-- The arithmetic operators. -/
inductive MathOp where
  | add | sub | mul | div | rem
deriving DecidableEq, Repr

/-- The sign of an arithmetic operator. -/
def MathOp.sign : MathOp → String
  | .add => "+"
  | .sub => "-"
  | .mul => "*"
  | .div => "/"
  | .rem => "%"

/-- The comparisons. -/
inductive Comparison where
  | eq | ne | lt | le | gt | ge
deriving DecidableEq, Repr

mutual

/-- A filter. -/
inductive Term where
  | id
  | recurse
  | number (text : String)
  | string (format : Option String) (pieces : List TextPart)
  | array (items : Option Term)
  | object (entries : List (Term × Option Term))
  | neg (operand : Term)
  /-- `left | right`, or `left as pattern | right`. -/
  | pipe (left : Term) (pattern : Option Pattern) (right : Term)
  | comma (left right : Term)
  | alternative (left right : Term)
  | and (left right : Term)
  | or (left right : Term)
  | math (op : MathOp) (left right : Term)
  | compare (op : Comparison) (left right : Term)
  | assign (path value : Term)
  | update (path change : Term)
  | updateMath (op : MathOp) (path value : Term)
  | updateAlternative (path value : Term)
  | label (name : String) (body : Term)
  | breakTo (name : String)
  /-- `reduce` and `foreach`, with the terms in parentheses. -/
  | fold (kind : String) (source : Term) (pattern : Pattern) (args : List Term)
  | tryCatch (body : Term) (handler : Option Term)
  | branch (cases : List (Term × Term)) (otherwise : Option Term)
  | define (definitions : List Definition) (body : Term)
  | call (name : String) (args : List Term)
  | var (name : String)
  /-- A path from the outputs of a term. A part that is optional drops its errors. -/
  | path (start : Term) (parts : List (Part × Bool))

/-- A part of a string. -/
inductive TextPart where
  | text (text : String)
  | term (term : Term)

/-- What a value is taken apart into. -/
inductive Pattern where
  | var (name : String)
  | array (items : List Pattern)
  | object (entries : List (Term × Pattern))

/-- A step of a path: an index, or a range whose ends may be open. A range open at both ends gives
every value. -/
inductive Part where
  | index (key : Term)
  | range (start stop : Option Term)

/-- A named filter. A parameter that starts with a dollar sign is bound to values. -/
inductive Definition where
  | mk (name : String) (params : List String) (body : Term)

end

instance : Inhabited Term := ⟨.id⟩

/-- The binary operators between terms. -/
inductive BinaryOp where
  | pipe (pattern : Option Pattern)
  | comma
  | alternative
  | or
  | and
  | math (op : MathOp)
  | compare (op : Comparison)
  | assign
  | update
  | updateMath (op : MathOp)
  | updateAlternative

namespace BinaryOp

/-- How tightly an operator binds. -/
def precedence : BinaryOp → Nat
  | .pipe _ => 0
  | .comma => 1
  | .assign | .update | .updateMath _ | .updateAlternative => 2
  | .alternative => 3
  | .or => 4
  | .and => 5
  | .compare .eq | .compare .ne => 6
  | .compare _ => 7
  | .math .add | .math .sub => 8
  | .math .mul | .math .div => 9
  | .math .rem => 10

/-- Whether equal operators group to the right. -/
def isRightAssociative : BinaryOp → Bool
  | .pipe _ | .assign | .update | .updateMath _ | .updateAlternative => true
  | _ => false

/-- The term of an operator between two terms. -/
def apply (op : BinaryOp) (left right : Term) : Term :=
  match op with
  | .pipe pattern => .pipe left pattern right
  | .comma => .comma left right
  | .alternative => .alternative left right
  | .or => .or left right
  | .and => .and left right
  | .math op => .math op left right
  | .compare op => .compare op left right
  | .assign => .assign left right
  | .update => .update left right
  | .updateMath op => .updateMath op left right
  | .updateAlternative => .updateAlternative left right

/-- The operator of a symbol, apart from `as`. -/
def ofSymbol? : String → Option BinaryOp
  | "|" => some (.pipe none)
  | "," => some .comma
  | "//" => some .alternative
  | "or" => some .or
  | "and" => some .and
  | "+" => some (.math .add)
  | "-" => some (.math .sub)
  | "*" => some (.math .mul)
  | "/" => some (.math .div)
  | "%" => some (.math .rem)
  | "==" => some (.compare .eq)
  | "!=" => some (.compare .ne)
  | "<" => some (.compare .lt)
  | "<=" => some (.compare .le)
  | ">" => some (.compare .gt)
  | ">=" => some (.compare .ge)
  | "=" => some .assign
  | "|=" => some .update
  | "+=" => some (.updateMath .add)
  | "-=" => some (.updateMath .sub)
  | "*=" => some (.updateMath .mul)
  | "/=" => some (.updateMath .div)
  | "%=" => some (.updateMath .rem)
  | "//=" => some .updateAlternative
  | _ => none

end BinaryOp

/-- Groups the operands after `left` while the operators bind at least as tightly as `least`. The
fuel is the number of operands. -/
def group (fuel : Nat) (least : Nat) (left : Term) (rest : List (BinaryOp × Term)) :
    Term × List (BinaryOp × Term) :=
  match fuel, rest with
  | 0, rest => (left, rest)
  | _, [] => (left, [])
  | fuel + 1, (op, right) :: rest =>
    if op.precedence < least then (left, (op, right) :: rest)
    else
      let inner := if op.isRightAssociative then op.precedence else op.precedence + 1
      let (right, rest) := group fuel inner right rest
      group fuel least (op.apply left right) rest

end TypeSketch.Filter
