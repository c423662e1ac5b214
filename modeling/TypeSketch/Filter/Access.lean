import TypeSketch.Filter.Outputs
import TypeSketch.Filter.Problem

/-!
# Reaching into values

* `Exit`, `Results` : what ends a filter early, and the outputs of a filter that may;
* `Val.children`, `Val.index`, `Val.slice` : the parts of a value;
* `Val.mapChildren`, `Val.mapIndex`, `Val.mapSlice` : a value with its parts replaced by the outputs
  of a filter.
-/

namespace TypeSketch.Filter

open Json

/-! ## Outputs that may end early -/

/-- What ends a filter early: an error, a jump to the end of a label, or too deep a nesting of
calls. -/
inductive Exit where
  | problem (p : Problem)
  | leave (label : Nat)
  /-- A limit of this library is reached, where a filter by itself would go on. -/
  | tooDeep

/-- Outputs of a filter, each of which may be an early end. -/
abbrev Results (α : Type) := Outputs (Except Exit α)

namespace Results

variable {α β γ : Type}

/-- One output. -/
def one (a : α) : Results α := .last (.ok a)

/-- An early end. -/
def exit (e : Exit) : Results α := .last (.error e)

/-- An error. -/
def fail (p : Problem) : Results α := exit (.problem p)

/-- One output, or an error. -/
def attempt (r : Except Problem α) : Results α :=
  match r with
  | .ok a => one a
  | .error p => fail p

/-- The outputs for every output, early ends being kept. -/
def each (outputs : Results α) (f : α → Results β) : Results β :=
  outputs.flatMap fun
    | .ok a => f a
    | .error e => exit e

/-- A function of every pair of outputs, those of the right coming again for each of the left. -/
def pairs (left : Results α) (right : Unit → Results β) (f : α → β → Results γ) : Results γ :=
  left.flatMap fun l => (right ()).flatMap fun r =>
    match l, r with
    | .ok a, .ok b => f a b
    | .error e, _ => exit e
    | _, .error e => exit e

/-- The outputs so far, the last one first, and all that follow; or the first early end. -/
def collectInto (done : List α) : Results α → Except Exit (List α)
  | .done => .ok done.reverse
  | .last (.ok a) => .ok (a :: done).reverse
  | .last (.error e) => .error e
  | .next (.ok a) more => collectInto (a :: done) (more ())
  | .next (.error e) _ => .error e

/-- All outputs, or the first early end. -/
def collect (outputs : Results α) : Except Exit (List α) := collectInto [] outputs

/-- The first output, if there is one. -/
def first? : Results α → Except Exit (Option α)
  | .done => .ok none
  | .last (.ok a) => .ok (some a)
  | .last (.error e) => .error e
  | .next (.ok a) _ => .ok (some a)
  | .next (.error e) _ => .error e

/-- The outputs up to the first error, and then those that it leads to. -/
def rescue (handler : Problem → Results α) : Results α → Results α
  | .done => .done
  | .last (.error (.problem p)) => handler p
  | .last r => .last r
  | .next (.error (.problem p)) _ => handler p
  | .next r more => .next r fun _ => rescue handler (more ())

/-- The outputs up to a jump to the end of a label. -/
def upTo (label : Nat) : Results α → Results α
  | .done => .done
  | .last (.error (.leave l)) => if l = label then .done else .last (.error (.leave l))
  | .last r => .last r
  | .next (.error (.leave l)) more =>
    if l = label then .done else .next (.error (.leave l)) fun _ => upTo label (more ())
  | .next r more => .next r fun _ => upTo label (more ())

end Results

/-! ## Parts of a value -/

/-- The type of values that have parts, in errors. -/
def iterable : String := "iterable (array or object)"

/-- The type of values that have slices, in errors. -/
def rangeable : String := "rangeable (array or string)"

/-- The place that an index means, counted from the end if it is negative. -/
def place? (index : Int) (length : Nat) : Option Nat :=
  if 0 ≤ index then if index.toNat < length then some index.toNat else none
  else if index.natAbs ≤ length then some (length - index.natAbs) else none

/-- An end of a slice. -/
def sliceEnd (index : Option Int) (length other : Nat) : Nat :=
  match index with
  | none => other
  | some i => if 0 ≤ i then min i.toNat length else length - i.natAbs

/-- Where a slice starts and how long it is. -/
def sliceBounds (start stop : Option Val) (length : Nat) : Except Problem (Nat × Nat) := do
  let first ← start.mapM Val.asInt
  let last ← stop.mapM Val.asInt
  let first := sliceEnd first length 0
  return (first, sliceEnd last length length - first)

namespace Val

/-- The items of an array or the values of the members of an object. -/
def children : Val → Except Problem (List Val)
  | .arr items => .ok items
  | .obj members => .ok (members.map Prod.snd)
  | v => .error (.wrongType v iterable)

/-- The part that an index means, null if there is none. -/
def index (v i : Val) : Except Problem Val :=
  match v, i with
  | .arr items, .int n => .ok (((place? n items.length).bind (items[·]?)).getD .null)
  | .obj members, .str key => .ok ((Members.get? key members).getD .null)
  | .arr _, _ => .error (.noIndex v i)
  | .obj _, _ => .error (.noIndex v i)
  | _, _ => .error (.wrongType v iterable)

/-- The part between two places. -/
def slice (v : Val) (start stop : Option Val) : Except Problem Val :=
  match v with
  | .arr items => do
    let (first, count) ← sliceBounds start stop items.length
    return .arr ((items.drop first).take count)
  | .str s => do
    let cs := s.toList
    let (first, count) ← sliceBounds start stop cs.length
    return .str (String.ofList ((cs.drop first).take count))
  | v => .error (.wrongType v rangeable)

/-! ## Replacing parts -/

/-- The value itself where errors are dropped, the error otherwise. -/
def orFail (v : Val) (optional : Bool) (p : Problem) : Except Exit Val :=
  if optional then .ok v else .error (.problem p)

/-- Members with the value of each replaced by the first output, and without those that have none. -/
def mapMembers (f : Val → Results Val) : List (String × Val) → Except Exit (List (String × Val))
  | [] => .ok []
  | (key, value) :: members => do
    match ← (f value).first? with
    | some value => return (key, value) :: (← mapMembers f members)
    | none => mapMembers f members

/-- Items replaced by all their outputs; the values of members by their first one. -/
def mapChildren (v : Val) (optional : Bool) (f : Val → Results Val) : Except Exit Val :=
  match v with
  | .arr items => do return .arr (← Results.collect ((Outputs.ofList items).flatMap f))
  | .obj members => do return .obj (← mapMembers f members)
  | v => v.orFail optional (.wrongType v iterable)

/-- Members without a key, the last one taking its place. -/
def removeMember (key : String) (members : List (String × Val)) : List (String × Val) :=
  match members.getLast? with
  | none => []
  | some last =>
    if last.1 = key then members.dropLast
    else members.dropLast.map fun member => if member.1 = key then last else member

/-- The part that an index means replaced by the first output, or removed if there is none. -/
def mapIndex (v : Val) (optional : Bool) (i : Val) (f : Val → Results Val) : Except Exit Val :=
  match v with
  | .obj members =>
    match i with
    | .str key =>
      match Members.get? key members with
      | some old => do
        match ← (f old).first? with
        | some new => return .obj (Members.put key new members)
        | none => return .obj (removeMember key members)
      | none => do
        match ← (f .null).first? with
        | some new => return .obj (members ++ [(key, new)])
        | none => return v
    | i => v.orFail optional (.noIndex v i)
  | .arr items =>
    match i.asInt with
    | .error p => v.orFail optional p
    | .ok n =>
      match place? n items.length with
      | none => v.orFail optional (.message ("index " ++ i.text ++ " out of bounds"))
      | some place => do
        match ← (f (items.getD place .null)).first? with
        | some new => return .arr (items.set place new)
        | none => return .arr (items.eraseIdx place)
  | v => v.orFail optional (.wrongType v iterable)

/-- The part between two places replaced by the items of the first output. -/
def mapSlice (v : Val) (optional : Bool) (start stop : Option Val) (f : Val → Results Val) :
    Except Exit Val :=
  match v with
  | .arr items =>
    match sliceBounds start stop items.length with
    | .error p => v.orFail optional p
    | .ok (first, count) => do
      let after := items.drop (first + count)
      match ← (f (.arr ((items.drop first).take count))).first? with
      | none => return .arr (items.take first ++ after)
      | some new =>
        match new.asArr with
        | .ok new => return .arr (items.take first ++ new ++ after)
        | .error p => throw (.problem p)
  | v => v.orFail optional (.wrongType v "array")

end Val

end TypeSketch.Filter
