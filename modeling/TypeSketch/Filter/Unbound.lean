import TypeSketch.Filter.Eval

/-!
# Names that mean nothing

A filter runs only if every name in it means something, so they are looked up before it runs.

* `ReferenceKind`, `Unbound` : a name that means nothing, and what it was taken for;
* `unbound` : all such names in a filter.
-/

namespace TypeSketch.Filter

/-- What a name is taken for. -/
inductive ReferenceKind where
  | filter (arity : Nat)
  /-- The module that a filter is from. -/
  | module
  | var
  | label
deriving DecidableEq, Repr

/-- A name that means nothing, or one that means something. -/
structure Reference where
  text : String
  kind : ReferenceKind
deriving DecidableEq, Repr

/-- The name that a parameter gives to its argument. -/
def Reference.ofParam (param : String) : Reference := ⟨param, if param.startsWith "$" then .var else .filter 0⟩

/-- What the name of a filter refers to: the filter, or the module that it is from. -/
def Reference.ofCall (name : String) (arity : Nat) : Reference :=
  if Parse.isQualified name then ⟨String.ofList (name.toList.takeWhile (· ≠ ':')), .module⟩
  else ⟨name, .filter arity⟩

/-- The name itself if it is not among those that mean something. -/
def Reference.lookUp (known : List Reference) (name : Reference) : List Reference :=
  let provided := match name.kind with
    | .filter arity => Library.provides name.text arity
    | _ => false
  if known.contains name || provided then [] else [name]

mutual

/-- The variables of a pattern, in patterns nested less deep than `depth`. -/
def patternNames (depth : Nat) (p : Pattern) : List Reference :=
  match depth with
  | 0 => []
  | depth + 1 =>
    match p with
    | .var name => [⟨name, .var⟩]
    | .array items => items.flatMap (patternNames depth)
    | .object entries => entries.flatMap fun entry => patternNames depth entry.2

/-- The names in a pattern that mean nothing. -/
def unboundInPattern (depth : Nat) (known : List Reference) (p : Pattern) : List Reference :=
  match depth with
  | 0 => []
  | depth + 1 =>
    match p with
    | .var _ => []
    | .array items => items.flatMap (unboundInPattern depth known)
    | .object entries => entries.flatMap fun entry =>
      unbound depth known entry.1 ++ unboundInPattern depth known entry.2

/-- The names in a definition that mean nothing. -/
def unboundInDefinition (depth : Nat) (known : List Reference) (d : Definition) : List Reference :=
  match depth, d with
  | 0, _ => []
  | depth + 1, .mk name params body =>
    unbound depth (params.reverse.map Reference.ofParam ++ ⟨name, .filter params.length⟩ :: known) body

/-- The names that mean nothing in a term where some definitions hold, and then in the definitions,
the last one first. -/
def unboundInDefinitions (depth : Nat) (known : List Reference) (definitions : List Definition) (body : Term) :
    List Reference :=
  match depth, definitions with
  | 0, _ => []
  | depth + 1, [] => unbound depth known body
  | depth + 1, .mk name params t :: definitions =>
    unboundInDefinitions depth (⟨name, .filter params.length⟩ :: known) definitions body ++
      unboundInDefinition depth known (.mk name params t)

/-- The names in a filter that mean nothing. -/
def unbound (depth : Nat) (known : List Reference) (t : Term) : List Reference :=
  match depth with
  | 0 => []
  | depth + 1 =>
    let inside := unbound depth known
    let option (t : Option Term) : List Reference := (t.map inside).getD []
    match t with
    | .id | .recurse | .number _ => []
    | .string format parts =>
      (format.map fun name => Reference.lookUp known ⟨name, .filter 0⟩).getD [] ++ parts.flatMap fun
        | .text _ => []
        | .term t => inside t
    | .array items => option items
    | .object entries => entries.flatMap fun entry => inside entry.1 ++ option entry.2
    | .neg operand => inside operand
    | .pipe left none right => inside left ++ inside right
    | .pipe left (some p) right =>
      unbound depth (patternNames depth p ++ known) right ++ inside left ++ unboundInPattern depth known p
    | .comma l r | .alternative l r | .and l r | .or l r | .math _ l r | .compare _ l r | .assign l r | .update l r
    | .updateMath _ l r | .updateAlternative l r => inside l ++ inside r
    | .label name body => unbound depth (⟨name, .label⟩ :: known) body
    | .breakTo name => Reference.lookUp known ⟨name, .label⟩
    | .fold kind source p args =>
      let fold : Reference := ⟨kind, .filter args.length⟩
      match args with
      | start :: step :: views =>
        let later := unbound depth (patternNames depth p ++ known)
        inside source ++ unboundInPattern depth known p ++ inside start ++ later step ++
          match foldKind? kind args with
          | some _ => views.flatMap later
          | none => [fold]
      | _ => [fold]
    | .tryCatch body handler => inside body ++ option handler
    | .branch cases otherwise =>
      option otherwise ++ cases.reverse.flatMap fun case => inside case.1 ++ inside case.2
    | .define definitions body => unboundInDefinitions depth known definitions body
    | .call name args => args.flatMap inside ++ Reference.lookUp known (.ofCall name args.length)
    | .var name => Reference.lookUp known ⟨name, .var⟩
    | .path start parts =>
      inside start ++ parts.flatMap fun
        | (.index key, _) => inside key
        | (.range start stop, _) => option start ++ option stop

end

end TypeSketch.Filter
