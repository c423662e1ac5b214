import TypeSketch.Regex.Reader

/-!
# Searching with regular expressions

A search takes the leftmost match, and of those at one place the one that the expression prefers. An
expression becomes a machine whose states are tried in order of preference, none of them twice at one
place of the text.

* `State`, `build` : the states of a machine, and those of an expression;
* `Spot`, `Anchor.holds` : a place in a text, and the tests of places;
* `Regex`, `parse` : an expression ready to search, and the one of a text;
* `Regex.matches` : the matches in a text, one or all, each as the spans of its groups.
-/

namespace TypeSketch.Regex

/-! ## Machines -/

/-- A state of a machine. States are named by their places in the machine. -/
inductive State where
  /-- Goes on after a character of a set. -/
  | chars (set : CharSet) (next : Nat)
  /-- Goes on where a test holds. -/
  | anchor (kind : Anchor) (next : Nat)
  /-- Keeps the place. -/
  | mark (slot next : Nat)
  /-- Goes on with any of several states, the first ones being preferred. -/
  | fork (targets : List Nat)
  | accept

/-- Builds of machines, the states so far being given. -/
abbrev Build := StateM (Array State)

namespace Build

/-- A new state. -/
def add (state : State) : Build Nat := fun states => (states.size, states.push state)

/-- The choice between going into a body and going past it. -/
def choice (greedy : Bool) (body past : Nat) : State := .fork (if greedy then [body, past] else [past, body])

/-- A loop around a body, given how the body goes on to a state: its choice, and where the body
starts. -/
def loop (greedy : Bool) (next : Nat) (body : Nat → Build Nat) : Build (Nat × Nat) := do
  let again ← add (.fork [])
  let start ← body again
  modify fun states => states.set! again (choice greedy start next)
  return (again, start)

/-- So many copies of a body, one after the other. -/
def copies (body : Nat → Build Nat) : Nat → Nat → Build Nat
  | 0, next => return next
  | count + 1, next => do copies body count (← body next)

/-- Up to so many copies of a body, each of them after the one before. -/
def options (greedy : Bool) (past : Nat) (body : Nat → Build Nat) : Nat → Nat → Build Nat
  | 0, next => return next
  | count + 1, next => do options greedy past body count (← add (choice greedy (← body next) past))

end Build

open Build in
mutual

/-- Builds the states of an expression that goes on to `next`; where they start. A loop around what
can match nothing is entered by a choice of its own, so that the loop itself is not left first. -/
def build (e : Expression) (next : Nat) : Build Nat :=
  match e with
  | .empty => return next
  | .chars set => add (.chars set next)
  | .anchor kind => add (.anchor kind next)
  | .group index body => do
    let stop ← add (.mark (2 * index + 1) next)
    add (.mark (2 * index) (← build body stop))
  | .seq items => buildSeq items next
  | .alt cases => do add (.fork (← buildCases cases next))
  | .rep least none greedy body =>
    match least with
    | 0 => do
      let (again, start) ← loop greedy next (build body)
      if body.matchesEmpty then add (choice greedy start next) else return again
    | least + 1 => do
      let (_, start) ← loop greedy next (build body)
      copies (build body) least start
  | .rep least (some most) greedy body => do
    copies (build body) least (← options greedy next (build body) (most - least) next)

/-- Builds the states of expressions that follow one another. -/
def buildSeq (es : List Expression) (next : Nat) : Build Nat :=
  match es with
  | [] => return next
  | e :: es => do build e (← buildSeq es next)

/-- Builds the states of expressions between which there is a choice; where each starts. -/
def buildCases (es : List Expression) (next : Nat) : Build (List Nat) :=
  match es with
  | [] => return []
  | e :: es => do
    let start ← build e next
    return start :: (← buildCases es next)

end

/-! ## Places -/

/-- The character before a place of a text. -/
def before? (text : Array Char) (place : Nat) : Option Char := if place = 0 then none else text[place - 1]?

/-- Whether a test of a place holds. -/
def Anchor.holds (kind : Anchor) (text : Array Char) (place : Nat) : Bool :=
  let before := before? text place
  let after := text[place]?
  let inWord := before.any isWordChar
  let wordAhead := after.any isWordChar
  match kind with
  | .textStart => before.isNone
  | .textEnd => after.isNone
  | .lineStart => before.isNone || before = some '\n'
  | .lineEnd => after.isNone || after = some '\n'
  | .anyLineStart => before.isNone || before = some '\n' || (before = some '\r' && after ≠ some '\n')
  | .anyLineEnd => after.isNone || after = some '\r' || (after = some '\n' && before ≠ some '\r')
  | .wordEdge => inWord != wordAhead
  | .noWordEdge => inWord == wordAhead
  | .wordStart => !inWord && wordAhead
  | .wordEnd => inWord && !wordAhead
  | .noWordBefore => !inWord
  | .noWordAfter => !wordAhead

/-! ## Running -/

/-- A state to try at a place, with the places kept on the way there, the last one first. -/
structure Thread where
  state : Nat
  place : Nat
  marks : List (Nat × Nat)

/-- What is tried after a state. -/
def Thread.next (text : Array Char) (t : Thread) : State → List Thread
  | .chars set next => if text[t.place]?.any set.holds then [⟨next, t.place + 1, t.marks⟩] else []
  | .anchor kind next => if kind.holds text t.place then [⟨next, t.place, t.marks⟩] else []
  | .mark slot next => [⟨next, t.place, (slot, t.place) :: t.marks⟩]
  | .fork targets => targets.map fun target => ⟨target, t.place, t.marks⟩
  | .accept => []

/-- Tries threads in order until one accepts; the places that it kept, and the states tried at every
place. -/
def explore (states : Array State) (text : Array Char) (fuel : Nat) (tried : Array Bool) (threads : List Thread) :
    Option (List (Nat × Nat)) × Array Bool :=
  match fuel, threads with
  | 0, _ => (none, tried)
  | _, [] => (none, tried)
  | fuel + 1, t :: threads =>
    let key := t.place * states.size + t.state
    if tried.getD key true then explore states text fuel tried threads
    else
      match states[t.state]? with
      | none => explore states text fuel (tried.set! key true) threads
      | some .accept => (some t.marks, tried)
      | some state => explore states text fuel (tried.set! key true) (t.next text state ++ threads)

/-- A bound on the threads that a machine tries at one place. -/
def width (states : Array State) : Nat :=
  states.foldl (fun n state =>
    match state with
    | .fork targets => n + targets.length + 1
    | _ => n + 2) 2

/-- The first match at one of the next `count` places or at one after them. -/
def search (states : Array State) (start : Nat) (text : Array Char) (place count : Nat) (tried : Array Bool) :
    Option (List (Nat × Nat)) :=
  match explore states text (width states * (text.size + 2)) tried [⟨start, place, []⟩] with
  | (some marks, _) => some marks
  | (none, tried) =>
    match count with
    | 0 => none
    | count + 1 => search states start text (place + 1) count tried

end Regex

/-- An expression ready to search: a machine, where it starts, and the names of its groups, the first
of which is the whole match. -/
structure Regex where
  states : Array Regex.State
  start : Nat
  names : List (Option String)

namespace Regex

/-- The most memory that a machine may take. -/
def maxMemory : Nat := 10485760

/-- The expression of a text. -/
def parse (flags : Flags) (text : String) : Except Fault Regex := do
  let s := text.toList
  let (e, reading) ← Read.alternatives (4 * s.length + 8) 0 ⟨s, flags, [none]⟩
  let whole : Expression := .group 0 e
  if maxMemory < whole.memory then throw .tooBig
  let (start, states) := build whole 0 #[.accept]
  return ⟨states, start, reading.names⟩

/-- Where the groups of a match start and stop, those being left out that took no part. -/
abbrev Spans := List (Option (Nat × Nat))

/-- The spans of groups from the places kept. -/
def spansOf (count : Nat) (marks : List (Nat × Nat)) : Spans :=
  (List.range count).map fun i => do return (← marks.lookup (2 * i), ← marks.lookup (2 * i + 1))

/-- Where a match starts and stops. -/
def extent (spans : Spans) : Nat × Nat := (spans.head?.getD none).getD (0, 0)

/-- The first match at a place or after it. -/
def find (r : Regex) (text : Array Char) (place : Nat) : Option Spans :=
  if text.size < place then none
  else
    (search r.states r.start text place (text.size - place)
      (Array.replicate ((text.size + 1) * r.states.size) false)).map (spansOf r.names.length)

/-- All matches from a place on. A match is not empty where the one before stopped. -/
def findAll (r : Regex) (text : Array Char) (last : Option Nat) (place : Nat) : Nat → List Spans
  | 0 => []
  | count + 1 =>
    let isStuck (spans : Spans) : Bool := (extent spans).1 = (extent spans).2 && some (extent spans).2 = last
    let found := match r.find text place with
      | some spans => if isStuck spans then r.find text (place + 1) else some spans
      | none => none
    match found with
    | some spans => spans :: findAll r text (some (extent spans).2) (extent spans).2 count
    | none => []

/-- The matches in a text, one or all. -/
def «matches» (r : Regex) (all : Bool) (text : List Char) : List Spans :=
  let text := text.toArray
  if all then r.findAll text none 0 (text.size + 2) else (r.find text 0).toList

end Regex

end TypeSketch
