import TypeSketch.Proofs.Surface
import TypeSketch.Sessions

/-!
# Sessions do not meet

* `Lineage`, `lineages` : what a session has been told, itself or through those it was copied from;
* `told`, `answersOf` : the messages to a session and its answers;
* `run_isolated` : what a session does follows from its state and the messages to it;
* `Traced`, `traced_step`, `traced_run` : every session has behaved as its lineage alone makes it;
* `run_lineages` : so a session among others cannot be told from one that is by itself.
-/

namespace TypeSketch.Sessions

/-! ## Lineages -/

/-- What a session has been told: before it was copied, and since then. -/
structure Lineage where
  inherited : List Message := []
  own : List Message := []
deriving DecidableEq, Repr

namespace Lineage

def messages (lineage : Lineage) : List Message := lineage.inherited ++ lineage.own

def tell (lineage : Lineage) (message : Message) : Lineage := { lineage with own := lineage.own ++ [message] }

/-- The lineage of a copy: all that the session had been told by then, and the renaming. -/
def copy (lineage : Lineage) (className interfaceName : String) : Lineage :=
  { inherited := lineage.messages ++ [.rename className interfaceName] }

/-- The state of a lone session that is told the messages of a lineage. -/
def state (initial : Config) (lineage : Lineage) : Session := Session.after ⟨initial, none⟩ lineage.messages

/-- The answers of a lone session to the messages of a lineage, but for those inherited. -/
def answers (initial : Config) (lineage : Lineage) : List Rendered :=
  ((Session.transcript ⟨initial, none⟩ lineage.messages).map Prod.snd).drop lineage.inherited.length

end Lineage

/-- The lineages after a step. -/
def extend (lineages : List Lineage) : Step → List Lineage
  | .tell number message =>
    match lineages[number]? with
    | some lineage => lineages.set number (lineage.tell message)
    | none => lineages
  | .copy number className interfaceName =>
    match lineages[number]? with
    | some lineage => lineages ++ [lineage.copy className interfaceName]
    | none => lineages

/-- The lineages of all sessions after some steps, where there was one session that was new. -/
def lineages (steps : List Step) : List Lineage := steps.foldl extend [{}]

/-- The message that a step has for a session. -/
def Step.messageTo? (number : Nat) : Step → Option Message
  | .tell other message => if other = number then some message else none
  | .copy .. => none

/-- The messages that some steps have for a session. -/
def told (number : Nat) (steps : List Step) : List Message := steps.filterMap (Step.messageTo? number)

/-- The answers of a session among those of all. -/
def answersOf (number : Nat) (answers : List Answer) : List Rendered :=
  (answers.filter fun answer => answer.number = number).map Answer.shown

theorem answersOf_append (number : Nat) (answers others : List Answer) :
    answersOf number (answers ++ others) = answersOf number answers ++ answersOf number others := by
  simp [answersOf]

/-! ## Transcripts -/

theorem transcript_append (session : Session) (messages others : List Message) :
    session.transcript (messages ++ others) =
      session.transcript messages ++ (session.after messages).transcript others := by
  induction messages generalizing session with
  | nil => rfl
  | cons message rest ih =>
    rw [List.cons_append, Session.transcript, Session.transcript, ih]
    rfl

theorem length_transcript (session : Session) (messages : List Message) :
    (session.transcript messages).length = messages.length := by
  induction messages generalizing session with
  | nil => rfl
  | cons message rest ih => rw [Session.transcript, List.length_cons, List.length_cons, ih]

/-! ## One session among others -/

theorem step_tell {sessions : List Session} {number : Nat} {session : Session}
    (there : sessions[number]? = some session) (message : Message) :
    step sessions (.tell number message) =
      (sessions.set number (session.handle message).1, [⟨number, (session.handle message).2⟩]) := by
  simp [step, there]

theorem step_copy {sessions : List Session} {number : Nat} {session : Session}
    (there : sessions[number]? = some session) (className interfaceName : String) :
    step sessions (.copy number className interfaceName) =
      (sessions ++ [session.renamed className interfaceName], []) := by
  simp [step, there]

/-- A step does to a session what its message for the session does, and nothing if it has none. -/
theorem step_isolated {sessions : List Session} {number : Nat} {session : Session}
    (there : sessions[number]? = some session) (s : Step) :
    (step sessions s).1[number]? = some (session.after (s.messageTo? number).toList) ∧
      answersOf number (step sessions s).2 =
        (session.transcript (s.messageTo? number).toList).map Prod.snd := by
  have bound : number < sessions.length := List.getElem?_eq_some_iff.1 there |>.1
  cases s with
  | tell other message =>
    by_cases same : other = number
    · subst same
      rw [step_tell there]
      simp [Step.messageTo?, Session.after, Session.transcript, answersOf, bound]
    · have none : (Step.tell other message).messageTo? number = none := if_neg same
      rw [none]
      cases found : sessions[other]? with
      | none => simp [step, found, there, Session.after, Session.transcript, answersOf]
      | some found' =>
        rw [step_tell found]
        simp [same, there, Session.after, Session.transcript, answersOf]
  | copy other className interfaceName =>
    cases found : sessions[other]? with
    | none => simp [step, found, there, Step.messageTo?, Session.after, Session.transcript, answersOf]
    | some found' =>
      rw [step_copy found]
      simp [Step.messageTo?, List.getElem?_append_left bound, there, Session.after, Session.transcript, answersOf]

/-- **What a session does** follows from its state and the messages to it. -/
theorem run_isolated {sessions : List Session} {number : Nat} {session : Session}
    (there : sessions[number]? = some session) (steps : List Step) :
    (run sessions steps).1[number]? = some (session.after (told number steps)) ∧
      answersOf number (run sessions steps).2 = (session.transcript (told number steps)).map Prod.snd := by
  induction steps generalizing sessions session with
  | nil => exact ⟨there, rfl⟩
  | cons s rest ih =>
    obtain ⟨state, shown⟩ := step_isolated there s
    obtain ⟨final, others⟩ := ih state
    have split : told number (s :: rest) = (s.messageTo? number).toList ++ told number rest := by
      cases h : s.messageTo? number <;> simp [told, h]
    rw [run, split]
    constructor
    · rw [final, Session.after, Session.after, Session.after, List.foldl_append]
    · rw [answersOf_append, shown, others, transcript_append, List.map_append]

/-! ## All sessions -/

variable {initial : Config}

theorem Lineage.state_tell (initial : Config) (lineage : Lineage) (message : Message) :
    (lineage.tell message).state initial = ((lineage.state initial).handle message).1 := by
  have messages : (lineage.tell message).messages = lineage.messages ++ [message] :=
    (List.append_assoc ..).symm
  rw [state, messages, Session.after_append]
  rfl

theorem Lineage.answers_tell (initial : Config) (lineage : Lineage) (message : Message) :
    (lineage.tell message).answers initial =
      lineage.answers initial ++ [((lineage.state initial).handle message).2] := by
  have messages : (lineage.tell message).messages = lineage.messages ++ [message] :=
    (List.append_assoc ..).symm
  have short : lineage.inherited.length ≤
      ((Session.transcript ⟨initial, none⟩ lineage.messages).map Prod.snd).length := by
    rw [List.length_map, length_transcript, Lineage.messages, List.length_append]
    exact Nat.le_add_right ..
  have inherited : (lineage.tell message).inherited = lineage.inherited := rfl
  rw [answers, messages, transcript_append, List.map_append, inherited, List.drop_append_of_le_length short]
  rfl

/-- A copy stands where a renaming would have taken the session. -/
theorem Lineage.state_copy (initial : Config) (lineage : Lineage) (className interfaceName : String) :
    (lineage.copy className interfaceName).state initial =
      (lineage.state initial).renamed className interfaceName := by
  have messages : (lineage.copy className interfaceName).messages =
      lineage.messages ++ [.rename className interfaceName] := List.append_nil _
  rw [state, messages, Session.after_append]
  rfl

theorem Lineage.answers_copy (initial : Config) (lineage : Lineage) (className interfaceName : String) :
    (lineage.copy className interfaceName).answers initial = [] := by
  refine List.drop_eq_nil_of_le ?_
  rw [List.length_map, length_transcript, Lineage.messages, List.length_append]
  exact Nat.le_refl _

/-- Every session is in the state that its lineage alone makes, and has given the answers to it. -/
structure Traced (initial : Config) (lineages : List Lineage) (sessions : List Session) (answers : List Answer) :
    Prop where
  states : sessions = lineages.map (Lineage.state initial)
  answered : ∀ number, answersOf number answers = (lineages[number]?.map (Lineage.answers initial)).getD []

theorem traced_step {lineages : List Lineage} {sessions : List Session} {answers : List Answer}
    (h : Traced initial lineages sessions answers) (s : Step) :
    Traced initial (extend lineages s) (step sessions s).1 (answers ++ (step sessions s).2) := by
  obtain ⟨rfl, answered⟩ := h
  cases s with
  | tell number message =>
    cases found : lineages[number]? with
    | none =>
      have absent : (lineages.map (Lineage.state initial))[number]? = none := by simp [found]
      simp only [extend, step, absent, found, List.append_nil]
      exact ⟨rfl, answered⟩
    | some lineage =>
      have there : (lineages.map (Lineage.state initial))[number]? = some (lineage.state initial) := by simp [found]
      obtain ⟨bound, own⟩ := List.getElem?_eq_some_iff.1 found
      rw [step_tell there, ← lineage.state_tell]
      simp only [extend, found]
      refine ⟨List.map_set.symm, fun other => ?_⟩
      rw [answersOf_append, answered]
      by_cases same : number = other
      · subst same
        simp [answersOf, own, bound, lineage.answers_tell]
      · simp [answersOf, same]
  | copy number className interfaceName =>
    cases found : lineages[number]? with
    | none =>
      have absent : (lineages.map (Lineage.state initial))[number]? = none := by simp [found]
      simp only [extend, step, absent, found, List.append_nil]
      exact ⟨rfl, answered⟩
    | some lineage =>
      have there : (lineages.map (Lineage.state initial))[number]? = some (lineage.state initial) := by simp [found]
      rw [step_copy there, ← lineage.state_copy]
      simp only [extend, found, List.append_nil]
      refine ⟨by simp, fun other => ?_⟩
      rw [answered]
      -- The copy has not answered yet, and its number is that of no session before.
      rcases Nat.lt_trichotomy other lineages.length with before | rfl | after
      · rw [List.getElem?_append_left before]
      · simp [lineage.answers_copy]
      · have long : (lineages ++ [lineage.copy className interfaceName]).length ≤ other := by
          rw [List.length_append, List.length_singleton]
          omega
        rw [List.getElem?_eq_none long, List.getElem?_eq_none (by omega)]

theorem traced_run {lineages : List Lineage} {sessions : List Session} {answers : List Answer}
    (h : Traced initial lineages sessions answers) (steps : List Step) :
    Traced initial (steps.foldl extend lineages) (run sessions steps).1 (answers ++ (run sessions steps).2) := by
  induction steps generalizing lineages sessions answers with
  | nil => rwa [run, List.append_nil]
  | cons s rest ih =>
    rw [run, List.foldl_cons, ← List.append_assoc]
    exact ih (traced_step h s)

/-- **A session among others** is in the state and has given the answers of a lone session that is told
the messages of its lineage. What it goes on to do from any point depends on nothing but its state there
and the messages to it. -/
theorem run_lineages (initial : Config) (steps : List Step) :
    (run [⟨initial, none⟩] steps).1 =
      (lineages steps).map (fun lineage => Session.after ⟨initial, none⟩ lineage.messages) ∧
    (∀ number, answersOf number (run [⟨initial, none⟩] steps).2 =
      match (lineages steps)[number]? with
      | some lineage =>
        ((Session.transcript ⟨initial, none⟩ lineage.messages).map Prod.snd).drop lineage.inherited.length
      | none => []) ∧
    ∀ number others others', number < (lineages steps).length → told number others = told number others' →
      let sessions := (run [⟨initial, none⟩] steps).1
      (run sessions others).1[number]? = (run sessions others').1[number]? ∧
        answersOf number (run sessions others).2 = answersOf number (run sessions others').2 := by
  have fresh : Traced initial [{}] [⟨initial, none⟩] [] := by
    refine ⟨rfl, fun number => ?_⟩
    cases number <;> rfl
  obtain ⟨states, answered⟩ := traced_run fresh steps
  rw [List.nil_append] at answered
  refine ⟨states, fun number => ?_, fun number others others' bound same => ?_⟩
  · rw [answered, lineages]
    cases (steps.foldl extend [{}])[number]? <;> rfl
  · have length : number < (run [⟨initial, none⟩] steps).1.length := by
      rw [states, List.length_map]
      exact bound
    obtain ⟨final, shown⟩ := run_isolated (List.getElem?_eq_getElem length) others
    obtain ⟨final', shown'⟩ := run_isolated (List.getElem?_eq_getElem length) others'
    exact ⟨by rw [final, final', same], by rw [shown, shown', same]⟩

/-- A text and other names for the first session, and a copy of the second one, all leave the second
one alone. -/
theorem run_lineages_apart :
    1 < (lineages [.copy 0 "A" "B", .tell 0 (.input "t")]).length ∧
    told 1 [.tell 0 (.rename "C" "D"), .tell 1 (.input "f"), .copy 1 "E" "F"] = told 1 [.tell 1 (.input "f")] ∧
    (let sessions := (run [⟨{}, none⟩] [.copy 0 "A" "B", .tell 0 (.input "t")]).1
    answersOf 1 (run sessions [.tell 0 (.rename "C" "D"), .tell 1 (.input "f"), .copy 1 "E" "F"]).2 =
      answersOf 1 (run sessions [.tell 1 (.input "f")]).2) :=
  ⟨by decide, rfl, ((run_lineages {} [.copy 0 "A" "B", .tell 0 (.input "t")]).2.2 1 _ _ (by decide) rfl).2⟩

end TypeSketch.Sessions
