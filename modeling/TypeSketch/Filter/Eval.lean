import TypeSketch.Filter.Library

/-!
# Running filters

A filter runs on a value, which may carry the path that led to it; where it does, only filters that
are paths may run. Names mean what the innermost definition around them says, and the library where
there is none.

* `Env`, `Scope` : what names mean, and the number of labels in force;
* `At` : a value, with the path that led to it if paths are asked for;
* `eval` : the outputs of a filter;
* `update` : a value with the parts that a path reaches replaced.
-/

namespace TypeSketch.Filter

open Results

/-! ## Names -/

/-- What names mean, the innermost first. -/
inductive Env where
  | empty
  | var (name : String) (value : Val) (outer : Env)
  | label (name : String) (number : Nat) (outer : Env)
  /-- A parameter that stands for a filter, with the names around that filter. -/
  | filter (name : String) (body : Term) (scope : Env) (outer : Env)
  | define (definition : Definition) (outer : Env)

/-- What the name of a filter means. -/
inductive Meaning where
  | filter (body : Term) (scope : Env)
  | definition (params : List String) (body : Term) (scope : Env)

namespace Env

/-- What the name of a filter with so many arguments means. A definition is in force in itself. -/
def meaning? (name : String) (arity : Nat) : Env → Option Meaning
  | .empty => none
  | .var _ _ outer => outer.meaning? name arity
  | .label _ _ outer => outer.meaning? name arity
  | .filter n body scope outer =>
    if n = name ∧ arity = 0 then some (.filter body scope) else outer.meaning? name arity
  | .define (.mk n params body) outer =>
    if n = name ∧ params.length = arity then some (.definition params body (.define (.mk n params body) outer))
    else outer.meaning? name arity

/-- The value of a variable. -/
def value? (name : String) : Env → Option Val
  | .empty => none
  | .var n value outer => if n = name then some value else outer.value? name
  | .label _ _ outer => outer.value? name
  | .filter _ _ _ outer => outer.value? name
  | .define _ outer => outer.value? name

/-- The number of a label. -/
def label? (name : String) : Env → Option Nat
  | .empty => none
  | .var _ _ outer => outer.label? name
  | .label n number outer => if n = name then some number else outer.label? name
  | .filter _ _ _ outer => outer.label? name
  | .define _ outer => outer.label? name

/-- With more definitions. -/
def defineAll (env : Env) (definitions : List Definition) : Env :=
  definitions.foldl (fun env d => .define d env) env

end Env

/-- The names of the library. -/
def Library.env : Env := Env.empty.defineAll Library.definitions

/-- What names mean, and how many labels are in force. -/
structure Scope where
  env : Env := .empty
  labels : Nat := 0

/-! ## Values with paths -/

/-- A value, with the path that led to it if paths are asked for, the last step first. -/
structure At where
  value : Val
  path? : Option (List Val) := none

namespace At

/-- A computed value, which no path leads to. -/
def computed (x : At) (v : Val) : Results At :=
  match x.path? with
  | none => one ⟨v, none⟩
  | some _ => fail .noPath

/-- A part of a value. -/
def part (x : At) (key v : Val) : At := ⟨v, x.path?.map (key :: ·)⟩

/-- The value alone. -/
def alone (x : At) : At := ⟨x.value, none⟩

end At

/-- The end of a slice in a path. -/
def edge (v : Option Val) : Val := v.getD .null

/-- A step of a path with its keys computed. -/
inductive Step where
  | index (key : Val)
  | range (start stop : Option Val)

namespace Step

/-- The parts that a step reaches. -/
def reach (step : Step) (x : At) : Results At :=
  match step with
  | .index key => (attempt (x.value.index key)).each fun v => one (x.part key v)
  | .range none none =>
    (attempt x.value.children).each fun vs =>
      let keys : List Val := match x.value with
        | .obj members => members.map fun member => .str member.1
        | _ => (List.range vs.length).map fun (i : Nat) => .int i
      .ofList ((keys.zip vs).map fun (key, v) => .ok (x.part key v))
  | .range start stop =>
    (attempt (x.value.slice start stop)).each fun v =>
      one (x.part (.obj [("start", edge start), ("end", edge stop)]) v)

/-- A value with the parts that a step reaches replaced. -/
def replace (step : Step) (optional : Bool) (v : Val) (f : Val → Results Val) : Except Exit Val :=
  match step with
  | .index key => v.mapIndex optional key f
  | .range none none => v.mapChildren optional f
  | .range start stop => v.mapSlice optional start stop f

end Step

/-- The parts that a path reaches. -/
def reachAll (x : At) : List (Step × Bool) → Results At
  | [] => one x
  | (step, optional) :: steps =>
    let outputs : Results At := step.reach x
    let outputs : Results At := if optional then outputs.filter fun | .ok _ => true | .error _ => false else outputs
    outputs.each fun y => reachAll y steps

/-- A value with the parts that a path reaches replaced. -/
def replaceAll (v : Val) (f : Val → Results Val) : List (Step × Bool) → Results Val
  | [] => f v
  | (step, optional) :: steps =>
    match step.replace optional v fun w => replaceAll w f steps with
    | .ok w => one w
    | .error e => exit e

/-! ## Folds -/

/-- The values after all steps, each step being taken from every value before it. -/
def reduceOver (step : Scope → At → Results At) (x : At) : Results Scope → Results At
  | .done => one x
  | .last (.error e) => exit e
  | .last (.ok scope) => step scope x
  | .next (.error e) _ => exit e
  | .next (.ok scope) more => (step scope x).each fun y => reduceOver step y (more ())

/-- What is shown of the values after each step. -/
def foreachOver (step view : Scope → At → Results At) (x : At) : Results Scope → Results At
  | .done => .done
  | .last (.error e) => exit e
  | .last (.ok scope) => (step scope x).each (view scope)
  | .next (.error e) _ => exit e
  | .next (.ok scope) more => (step scope x).each fun y =>
    (view scope y).append fun _ => foreachOver step view y (more ())

/-- A value through several replacements, one after the other. -/
def updateOver {α : Type} (step : α → Val → Results Val) (v : Val) : Results α → Results Val
  | .done => one v
  | .last (.error e) => exit e
  | .last (.ok a) => step a v
  | .next (.error e) _ => exit e
  | .next (.ok a) more => (step a v).each fun w => updateOver step w (more ())

/-- The number of values after which counting is given up. Filters know no such limit: it is what the recursion
is on, and no run that comes to an end in practice reaches it. -/
def maxCount : Nat := Nat.pow 10 12

/-- Numbers from a start on, in steps, before a stop. -/
def countUp (fuel : Nat) (x stop by_ : Val) (before : Val → Val → Bool) : Results Val :=
  match fuel with
  | 0 => exit .tooDeep
  | fuel + 1 =>
    if before x stop then
      .next (.ok x) fun _ =>
        match MathOp.add.apply x by_ with
        | .ok y => countUp fuel y stop by_ before
        | .error p => fail p
    else .done

/-- When counting in steps goes on. -/
def beforeStop (by_ : Val) : Val → Val → Bool :=
  if Comparison.gt.holds by_ (.int 0) then Comparison.lt.holds
  else if Comparison.lt.holds by_ (.int 0) then Comparison.gt.holds
  else Comparison.ne.holds

/-- Items with the lists of their keys put together where the keys are equal. -/
def groupSorted : List (List Val × Val) → List (List Val × List Val)
  | [] => []
  | (key, v) :: rest =>
    match groupSorted rest with
    | (key', vs) :: groups =>
      if (Val.arr key).same (.arr key') then (key, v :: vs) :: groups else (key, [v]) :: (key', vs) :: groups
    | [] => [(key, [v])]

/-- The items sorted by their keys. -/
def sortKeyed (items : List (List Val × Val)) : List (List Val × Val) := Val.sortOn (fun x => .arr x.1) items

/-- The functions of the items of an array under the keys that a filter gives them. -/
def ofKeyed (name : String) (items : List (List Val × Val)) : Val :=
  let sorted := sortKeyed items
  match name with
  | "group_by" => .arr ((groupSorted sorted).map fun group => .arr group.2)
  | "min_by" => (sorted.head?.map Prod.snd).getD .null
  | "max_by" => (sorted.getLast?.map Prod.snd).getD .null
  | _ => .arr (sorted.map Prod.snd)

/-! ## Filters -/

/-- The value of a number as it is written. -/
def numberValue (text : String) : Val := Val.ofNumberText false text.toList

/-- What a fold is. -/
inductive FoldKind where
  | reduce (start step : Term)
  | foreach (start step : Term) (view : Option Term)

/-- The fold with a name and terms, if there is one. -/
def foldKind? (name : String) (args : List Term) : Option FoldKind :=
  match name, args with
  | "reduce", [start, step] => some (.reduce start step)
  | "foreach", [start, step] => some (.foreach start step none)
  | "foreach", [start, step, view] => some (.foreach start step (some view))
  | _, _ => none

mutual

/-- The outputs of a filter. -/
def eval (fuel : Nat) (c : Scope) (t : Term) (x : At) : Results At :=
  match fuel with
  | 0 => exit .tooDeep
  | fuel + 1 =>
    match t with
    | .id => one x
    | .recurse => call fuel c "recurse" [] x
    | .number text => x.computed (numberValue text)
    | .string format parts => (textOf fuel c (format.getD "@text") parts x.alone).each x.computed
    | .array none => x.computed (.arr [])
    | .array (some items) =>
      match (eval fuel c items x.alone).collect with
      | .ok ys => x.computed (.arr (ys.map At.value))
      | .error e => exit e
    | .object entries => (object fuel c entries x.alone).each x.computed
    | .neg operand => (eval fuel c operand x.alone).each fun y => (attempt y.value.negate).each x.computed
    | .pipe left none right => (eval fuel c left x).each (eval fuel c right)
    | .pipe left (some p) right =>
      (eval fuel c left x.alone).each fun y => (bind fuel c c p y.value).each fun c => eval fuel c right x
    | .comma left right => (eval fuel c left x).append fun _ => eval fuel c right x
    | .alternative left right =>
      match (eval fuel c left x).filter fun | .ok y => y.value.isTrue | .error _ => true with
      | .done => eval fuel c right x
      | outputs => outputs
    | .and left right =>
      (eval fuel c left x.alone).each fun l =>
        if l.value.isTrue then (eval fuel c right x.alone).each fun r => x.computed (.bool r.value.isTrue)
        else x.computed (.bool false)
    | .or left right =>
      (eval fuel c left x.alone).each fun l =>
        if l.value.isTrue then x.computed (.bool true)
        else (eval fuel c right x.alone).each fun r => x.computed (.bool r.value.isTrue)
    | .math op left right =>
      (pairs (eval fuel c left x.alone) (fun _ => eval fuel c right x.alone) fun l r =>
        attempt (op.apply l.value r.value)).each x.computed
    | .compare op left right =>
      (pairs (eval fuel c left x.alone) (fun _ => eval fuel c right x.alone) fun l r =>
        one (.bool (op.holds l.value r.value))).each x.computed
    | .assign path value =>
      (eval fuel c value x.alone).each fun y => (update fuel c path x.value fun _ => one y.value).each x.computed
    | .update path change =>
      (update fuel c path x.value fun v => (eval fuel c change ⟨v, none⟩).each fun y => one y.value).each x.computed
    | .updateMath op path value =>
      (eval fuel c value x.alone).each fun y =>
        (update fuel c path x.value fun v => attempt (op.apply v y.value)).each x.computed
    | .updateAlternative path value =>
      (eval fuel c value x.alone).each fun y =>
        (update fuel c path x.value fun v => one (if v.isTrue then v else y.value)).each x.computed
    | .label name body =>
      let number := c.labels + 1
      (eval fuel ⟨.label name number c.env, number⟩ body x).upTo number
    | .breakTo name =>
      match c.env.label? name with
      | some number => exit (.leave number)
      | none => .done
    | .fold name source p args =>
      let scopes (_ : Unit) : Results Scope := (eval fuel c source x.alone).each fun y => bind fuel c c p y.value
      match foldKind? name args with
      | some (.reduce start step) =>
        (eval fuel c start x).each fun y => reduceOver (fun c y => eval fuel c step y) y (scopes ())
      | some (.foreach start step view) =>
        let shown (c : Scope) (y : At) : Results At := match view with
          | some view => eval fuel c view y
          | none => one y
        (eval fuel c start x).each fun y => foreachOver (fun c y => eval fuel c step y) shown y (scopes ())
      | none => .done
    | .tryCatch body handler =>
      (eval fuel c body x).rescue fun p =>
        match handler with
        | some handler => eval fuel c handler ⟨p.toVal, none⟩
        | none => .done
    | .branch cases otherwise => branch fuel c cases otherwise x
    | .define definitions body => eval fuel { c with env := c.env.defineAll definitions } body x
    | .call name args => call fuel c name args x
    | .var name =>
      match c.env.value? name with
      | some v => x.computed v
      | none => .done
    | .path start parts =>
      (eval fuel c start x).each fun y => (steps fuel c parts x.alone).each fun steps => reachAll y steps

/-- The text of the parts of a string. -/
def textOf (fuel : Nat) (c : Scope) (format : String) (parts : List TextPart) (x : At) : Results Val :=
  match fuel with
  | 0 => exit .tooDeep
  | fuel + 1 =>
    match parts with
    | [] => one (.str "")
    | .text s :: parts => (textOf fuel c format parts x).each fun rest => attempt (MathOp.add.apply (.str s) rest)
    | .term t :: parts =>
      pairs ((eval fuel c t x).each fun y => call fuel c format [] y.alone) (fun _ => textOf fuel c format parts x)
        fun l r => attempt (MathOp.add.apply l.value r)

/-- The objects of some entries. -/
def object (fuel : Nat) (c : Scope) (entries : List (Term × Option Term)) (x : At) : Results Val :=
  match fuel with
  | 0 => exit .tooDeep
  | fuel + 1 =>
    match entries with
    | [] => one (.obj [])
    | (key, value) :: entries =>
      let keys : Results At := match key with
        | .var name => one ⟨.str (name.drop 1).toString, none⟩
        | key => eval fuel c key x
      let values (_ : Unit) : Results At := match key, value with
        | _, some value => eval fuel c value x
        | .var _, none => eval fuel c key x
        | _, none => keys.each fun k => (attempt (x.value.index k.value)).each fun v => one ⟨v, none⟩
      let first := pairs keys values fun k v =>
        (attempt k.value.asStr).each fun name => one (Val.obj [(name, v.value)])
      pairs first (fun _ => object fuel c entries x) fun l r => attempt (MathOp.add.apply l r)

/-- The outputs of a conditional. -/
def branch (fuel : Nat) (c : Scope) (cases : List (Term × Term)) (otherwise : Option Term) (x : At) : Results At :=
  match fuel with
  | 0 => exit .tooDeep
  | fuel + 1 =>
    match cases with
    | [] =>
      match otherwise with
      | some t => eval fuel c t x
      | none => one x
    | (condition, body) :: cases =>
      (eval fuel c condition x.alone).each fun y =>
        if y.value.isTrue then eval fuel c body x else branch fuel c cases otherwise x

/-- The names that a pattern binds in a value, in addition to those of `c`; the keys in the pattern
are filters of the value in `outer`. -/
def bind (fuel : Nat) (outer c : Scope) (p : Pattern) (v : Val) : Results Scope :=
  match fuel with
  | 0 => exit .tooDeep
  | fuel + 1 =>
    match p with
    | .var name => one { c with env := .var name v c.env }
    | .array items => bindItems fuel outer c 0 items v
    | .object entries => bindEntries fuel outer c entries v

/-- The names that patterns bind in the items of an array. -/
def bindItems (fuel : Nat) (outer c : Scope) (place : Nat) (items : List Pattern) (v : Val) : Results Scope :=
  match fuel with
  | 0 => exit .tooDeep
  | fuel + 1 =>
    match items with
    | [] => one c
    | p :: items =>
      (attempt (v.index (.int place))).each fun w =>
        (bind fuel outer c p w).each fun c => bindItems fuel outer c (place + 1) items v

/-- The names that patterns bind in the members of an object. -/
def bindEntries (fuel : Nat) (outer c : Scope) (entries : List (Term × Pattern)) (v : Val) : Results Scope :=
  match fuel with
  | 0 => exit .tooDeep
  | fuel + 1 =>
    match entries with
    | [] => one c
    | (key, p) :: entries =>
      (eval fuel outer key ⟨v, none⟩).each fun k => (attempt (v.index k.value)).each fun w =>
        (bind fuel outer c p w).each fun c => bindEntries fuel outer c entries v

/-- The steps of a path with their keys computed, in every combination. -/
def steps (fuel : Nat) (c : Scope) (parts : List (Part × Bool)) (x : At) : Results (List (Step × Bool)) :=
  match fuel with
  | 0 => exit .tooDeep
  | fuel + 1 =>
    match parts with
    | [] => one []
    | (part, optional) :: parts =>
      let rest (step : Step) := (steps fuel c parts x).each fun steps => one ((step, optional) :: steps)
      let bound (t : Option Term) : Results (Option Val) := match t with
        | some t => (eval fuel c t x).each fun y => one (some y.value)
        | none => one none
      match part with
      | .index key => (eval fuel c key x).each fun k => rest (.index k.value)
      | .range start stop => (bound start).each fun start => (bound stop).each fun stop => rest (.range start stop)

/-- The names of the parameters of a filter bound to its arguments, in every combination of the
values of those that are bound to values. -/
def bindArgs (fuel : Nat) (c : Scope) (params : List String) (args : List Term) (x : At) (env : Env) :
    Results Env :=
  match fuel with
  | 0 => exit .tooDeep
  | fuel + 1 =>
    match params, args with
    | p :: params, t :: args =>
      if p.startsWith "$" then
        (eval fuel c t x).each fun y => bindArgs fuel c params args x (.var p y.value env)
      else bindArgs fuel c params args x (.filter p t c.env env)
    | _, _ => one env

/-- The values of arguments, in every combination. -/
def argValues (fuel : Nat) (c : Scope) (args : List Term) (x : At) : Results (List Val) :=
  match fuel with
  | 0 => exit .tooDeep
  | fuel + 1 =>
    match args with
    | [] => one []
    | t :: args => (eval fuel c t x).each fun y => (argValues fuel c args x).each fun vs => one (y.value :: vs)

/-- The filters that a name with its arguments stands for: a body, and the names in it. -/
def callee (fuel : Nat) (c : Scope) (name : String) (args : List Term) (x : At) :
    Option (Results (Term × Env)) :=
  match fuel with
  | 0 => some (exit .tooDeep)
  | fuel + 1 =>
    match (c.env.meaning? name args.length).orElse fun _ => Library.env.meaning? name args.length with
    | some (.filter body scope) => some (one (body, scope))
    | some (.definition params body scope) =>
      some ((bindArgs fuel c params args x.alone scope).each fun env => one (body, env))
    | none => none

/-- The outputs of a named filter. -/
def call (fuel : Nat) (c : Scope) (name : String) (args : List Term) (x : At) : Results At :=
  match fuel with
  | 0 => exit .tooDeep
  | fuel + 1 =>
    match callee fuel c name args x with
    | some bodies => bodies.each fun (body, env) => eval fuel { c with env } body x
    | none => builtin fuel c name args x

/-- The outputs of a filter of the library that is not written as a filter. -/
def builtin (fuel : Nat) (c : Scope) (name : String) (args : List Term) (x : At) : Results At :=
  match fuel with
  | 0 => exit .tooDeep
  | fuel + 1 =>
    match name, args with
    | "empty", [] => .done
    | "error", [] => fail (.value x.value)
    | "input", [] => .done
    | "inputs", [] => .done
    | "path", [f] =>
      (eval fuel c f ⟨x.value, some []⟩).each fun y => x.computed (.arr (y.path?.getD []).reverse)
    | "first", [f] => (eval fuel c f x).take 1
    | "last", [f] =>
      match (eval fuel c f x).collect with
      | .ok ys => .ofList (ys.getLast?.toList.map .ok)
      | .error e => exit e
    | "limit", [n, f] =>
      (eval fuel c n x.alone).each fun n => (attempt n.value.asInt).each fun n => (eval fuel c f x).take n.toNat
    | "range", [start, stop, by_] =>
      (eval fuel c start x.alone).each fun start => (eval fuel c stop x.alone).each fun stop =>
        (eval fuel c by_ x.alone).each fun by_ =>
          (countUp maxCount start.value stop.value by_.value (beforeStop by_.value)).each x.computed
    | "sort_by", [f] => keyed fuel c name f x
    | "group_by", [f] => keyed fuel c name f x
    | "min_by", [f] => keyed fuel c name f x
    | "max_by", [f] => keyed fuel c name f x
    | name, args =>
      match Builtin.find? name args.length with
      | some f => (argValues fuel c args x.alone).each fun vs => (attempt (f.apply vs x.value)).each x.computed
      | none => .done

/-- The outputs of a function of the items of an array under the keys that a filter gives them. -/
def keyed (fuel : Nat) (c : Scope) (name : String) (f : Term) (x : At) : Results At :=
  match fuel with
  | 0 => exit .tooDeep
  | fuel + 1 =>
    (attempt x.value.asArr).each fun items =>
      let keys := items.mapM fun v => (eval fuel c f ⟨v, none⟩).collect
      match keys with
      | .ok keys => x.computed (ofKeyed name ((keys.map fun ys => ys.map At.value).zip items))
      | .error e => exit e

/-- The value with the parts that a filter reaches replaced. -/
def update (fuel : Nat) (c : Scope) (t : Term) (v : Val) (f : Val → Results Val) : Results Val :=
  match fuel with
  | 0 => exit .tooDeep
  | fuel + 1 =>
    match t with
    | .id => f v
    | .recurse => updateCall fuel c "recurse" [] v f
    | .pipe left none right => update fuel c left v fun w => update fuel c right w f
    | .pipe left (some p) right =>
      updateOver (fun c w => update fuel c right w f) v
        ((eval fuel c left ⟨v, none⟩).each fun y => bind fuel c c p y.value)
    | .comma left right => (update fuel c left v f).each fun w => update fuel c right w f
    | .alternative left right =>
      let found := (eval fuel c left ⟨v, none⟩).any fun | .ok y => y.value.isTrue | .error _ => true
      update fuel c (if found then left else right) v f
    | .branch cases otherwise => updateBranch fuel c cases otherwise v f
    | .fold name source p args =>
      match foldKind? name args with
      | some (.reduce start step) =>
        let scopes := (eval fuel c source ⟨v, none⟩).each fun y => bind fuel c c p y.value
        updateFold fuel c start step scopes v f
      | _ => fail .noPath
    | .breakTo name =>
      match c.env.label? name with
      | some number => exit (.leave number)
      | none => fail .noPath
    | .define definitions body => update fuel { c with env := c.env.defineAll definitions } body v f
    | .call name args => updateCall fuel c name args v f
    | .path start parts =>
      update fuel c start v fun w =>
        updateOver (fun steps w => replaceAll w f steps) w (steps fuel c parts ⟨v, none⟩)
    | _ => fail .noPath

/-- The value with the parts that a conditional reaches replaced. -/
def updateBranch (fuel : Nat) (c : Scope) (cases : List (Term × Term)) (otherwise : Option Term) (v : Val)
    (f : Val → Results Val) : Results Val :=
  match fuel with
  | 0 => exit .tooDeep
  | fuel + 1 =>
    match cases with
    | [] =>
      match otherwise with
      | some t => update fuel c t v f
      | none => f v
    | (condition, body) :: cases =>
      updateOver (fun (y : At) w =>
        if y.value.isTrue then update fuel c body w f else updateBranch fuel c cases otherwise w f) v
        (eval fuel c condition ⟨v, none⟩)

/-- The value with the parts that a fold reaches replaced: those of its last step within those of
the steps before. -/
def updateFold (fuel : Nat) (c : Scope) (start step : Term) (scopes : Results Scope) (v : Val)
    (f : Val → Results Val) : Results Val :=
  match fuel with
  | 0 => exit .tooDeep
  | fuel + 1 =>
    match scopes.collect with
    | .error e => exit e
    | .ok scopes =>
      update fuel c start v fun w =>
        scopes.foldr (fun c rest w => update fuel c step w rest) f w

/-- The value with the parts that a named filter reaches replaced. -/
def updateCall (fuel : Nat) (c : Scope) (name : String) (args : List Term) (v : Val) (f : Val → Results Val) :
    Results Val :=
  match fuel with
  | 0 => exit .tooDeep
  | fuel + 1 =>
    match callee fuel c name args ⟨v, none⟩ with
    | some bodies => updateOver (fun (b : Term × Env) w => update fuel { c with env := b.2 } b.1 w f) v bodies
    | none =>
      match name, args with
      | "empty", [] => one v
      | "error", [] => fail (.value v)
      | _, _ => fail .noPath

end

end TypeSketch.Filter
