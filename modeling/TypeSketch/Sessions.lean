import TypeSketch.Surface

/-!
# Several sessions

A surface can be copied under other declaration names, and the copies go on beside it.

* `Step` : a message to one of the sessions, or a copy of one of them;
* `step`, `run` : the sessions after one step or after some, and the answers that were given.
-/

namespace TypeSketch.Sessions

/-- What happens among some sessions, which are known by their numbers. -/
inductive Step where
  /-- A session is told something. -/
  | tell (number : Nat) (message : Message)
  /-- A copy of a session, with other declaration names, becomes the last one. -/
  | copy (number : Nat) (className interfaceName : String)
deriving DecidableEq, Repr

/-- An answer, and the number of the session that gave it. -/
structure Answer where
  number : Nat
  shown : Rendered
deriving DecidableEq, Repr

/-- The sessions after a step, and the answers to it. Only messages are answered, and nothing happens
to a session that is not there. -/
def step (sessions : List Session) : Step → List Session × List Answer
  | .tell number message =>
    match sessions[number]? with
    | some session =>
      let (session, shown) := session.handle message
      (sessions.set number session, [⟨number, shown⟩])
    | none => (sessions, [])
  | .copy number className interfaceName =>
    match sessions[number]? with
    | some session => (sessions ++ [session.renamed className interfaceName], [])
    | none => (sessions, [])

/-- The sessions after some steps, and all answers to them in order. -/
def run (sessions : List Session) : List Step → List Session × List Answer
  | [] => (sessions, [])
  | first :: rest =>
    let (sessions, answers) := step sessions first
    let (final, others) := run sessions rest
    (final, answers ++ others)

end TypeSketch.Sessions
