import TypeSketch.Command.Arguments
import TypeSketch.Proofs.Disk

/-!
# Command lines with an output

* `Request.withOutput` : the request with its output in a file;
* `Draft.withOutput` : what has been read of a command line, with an output before it;
* `Draft.read_withOutput` : the words after an output are read as they are without it;
* `parse_output_attached`, `parse_output_separate` : the request of a command line to which an output was
  added.
-/

namespace TypeSketch.Command

/-- The request with its output in a file. -/
def Request.withOutput (path : String) (request : Request) : Request := { request with output? := some path }

namespace Draft

variable {draft next done : Draft} {setting other : Setting} {values words : List String} {path : String}

/-- What has been read, with an output before it. -/
def withOutput (path : String) (draft : Draft) : Draft := { draft with given := (.output, path) :: draft.given }

/-- No output is among what has been read, nor is it the option that is open. -/
structure NoOutput (draft : Draft) : Prop where
  given : draft.values .output = []
  notOpen : ∀ values, draft.open? ≠ some (.output, values)

theorem values_withOutput (notOutput : setting ≠ .output) :
    (draft.withOutput path).values setting = draft.values setting := by
  simp [withOutput, Draft.values, notOutput.symm]

theorem value?_withOutput (notOutput : setting ≠ .output) :
    (draft.withOutput path).value? setting = draft.value? setting := by
  rw [value?, values_withOutput notOutput]
  rfl

/-! ## Storing values -/

theorem values_of_store (h : draft.store setting values = .ok next) :
    next.values other = draft.values other ++ if setting = other then values else [] := by
  unfold store at h
  split at h
  · cases h
  · split at h
    · cases h
    · obtain rfl := Except.ok.inj h
      by_cases same : setting = other <;> simp [Draft.values, same, List.filter_map, Function.comp_def]

theorem store_withOutput (h : draft.store setting values = .ok next) (notOutput : setting ≠ .output) :
    (draft.withOutput path).store setting values = .ok (next.withOutput path) := by
  unfold store at h ⊢
  rw [value?_withOutput notOutput]
  split at h
  · cases h
  · next once =>
    split at h
    · cases h
    · next full =>
      obtain rfl := Except.ok.inj h
      rw [if_neg once, if_neg full]
      rfl

/-- Where no output is stored, none was stored before, and what is stored is no output. -/
theorem noOutput_of_store (h : draft.store setting values = .ok next) (given : next.values .output = [])
    (nonempty : values ≠ []) : draft.values .output = [] ∧ setting ≠ .output := by
  rw [values_of_store h, List.append_eq_nil_iff] at given
  refine ⟨given.1, fun output => nonempty ?_⟩
  rw [if_pos output] at given
  exact given.2

theorem settle_withOutput (h : draft.settle = .ok next) (given : next.values .output = []) :
    draft.NoOutput ∧ (draft.withOutput path).settle = .ok (next.withOutput path) := by
  obtain ⟨byLine, before, opened⟩ := draft
  match opened with
  | none =>
    obtain rfl := Except.ok.inj h
    exact ⟨⟨given, fun values opened => by cases opened⟩, rfl⟩
  | some (setting, []) => cases h
  | some (setting, value :: values) =>
    obtain ⟨before, notOutput⟩ := noOutput_of_store h given (List.cons_ne_nil value values)
    refine ⟨⟨before, fun values' opened => notOutput ?_⟩, store_withOutput h notOutput⟩
    exact (Prod.mk.inj (Option.some.inj opened)).1

theorem take_withOutput {word : String} (h : draft.take word = .ok next) :
    (draft.withOutput path).take word = .ok (next.withOutput path) ∧ (next.NoOutput → draft.NoOutput) := by
  obtain ⟨byLine, before, opened⟩ := draft
  match opened with
  | none => cases h
  | some (setting, values) =>
    unfold take at h ⊢
    dsimp only [withOutput] at h ⊢
    split at h
    · next more =>
      obtain rfl := Except.ok.inj h
      rw [if_pos more]
      refine ⟨rfl, fun none => ⟨none.given, fun values' opened => ?_⟩⟩
      obtain ⟨rfl, -⟩ := Prod.mk.inj (Option.some.inj opened)
      exact none.notOpen _ rfl
    · cases h

/-! ## Reading words -/

/-- **Words after an output** are read as they are without it, if there is no other output. -/
theorem read_withOutput (h : draft.read words = .ok done) (given : done.values .output = []) :
    draft.NoOutput ∧ (draft.withOutput path).read words = .ok (done.withOutput path) := by
  -- That there is no output at the end tells, from the last word to the first, that there was none before.
  induction words generalizing draft with
  | nil => exact settle_withOutput h given
  | cons word rest ih =>
    cases stands : Word.read word with
    | noMore =>
      rw [read, stands] at h ⊢
      dsimp only at h ⊢
      split at h
      · next last =>
        rw [if_pos last]
        exact settle_withOutput h given
      · cases h
    | unknown =>
      rw [read, stands] at h
      cases h
    | plain =>
      rw [read, stands] at h ⊢
      obtain ⟨next, took, h⟩ := bind_eq_ok h
      obtain ⟨after, reads⟩ := ih h
      obtain ⟨takes, before⟩ := @take_withOutput _ _ path _ took
      exact ⟨before after, by rw [takes]; exact reads⟩
    | flag flag value? =>
      rw [read, stands] at h ⊢
      cases value? with
      | some value => cases h
      | none =>
        cases flag with
        | help =>
          obtain ⟨_, -, h⟩ := bind_eq_ok h
          cases h
        | byLine =>
          obtain ⟨next, settled, h⟩ := bind_eq_ok h
          split at h
          · cases h
          · next once =>
            obtain ⟨after, reads⟩ := ih h
            obtain ⟨before, settles⟩ := @settle_withOutput _ _ path settled after.given
            refine ⟨before, ?_⟩
            rw [settles]
            exact (if_neg once).trans reads
    | option setting value? =>
      rw [read, stands] at h ⊢
      cases value? with
      | none =>
        obtain ⟨next, settled, h⟩ := bind_eq_ok h
        obtain ⟨after, reads⟩ := ih h
        obtain ⟨before, settles⟩ := @settle_withOutput _ _ path settled after.given
        refine ⟨before, ?_⟩
        rw [settles]
        exact reads
      | some value =>
        obtain ⟨next, settled, h⟩ := bind_eq_ok h
        obtain ⟨stored, stores, h⟩ := bind_eq_ok h
        obtain ⟨after, reads⟩ := ih h
        obtain ⟨none, notOutput⟩ := noOutput_of_store stores after.given (List.cons_ne_nil value [])
        obtain ⟨before, settles⟩ := @settle_withOutput _ _ path settled none
        refine ⟨before, ?_⟩
        rw [settles]
        change (next.withOutput path).store setting [value] >>= _ = _
        rw [store_withOutput stores notOutput]
        exact reads

theorem output?_of_request {blocks : Blocks} {request : Request} (h : draft.request blocks = .ok request) :
    request.output? = draft.value? .output := by
  unfold Draft.request at h
  split at h
  · cases h
  · obtain rfl := Except.ok.inj h
    rfl

theorem request_withOutput {blocks : Blocks} {request : Request} (h : draft.request blocks = .ok request) :
    (draft.withOutput path).request blocks = .ok (request.withOutput path) := by
  unfold Draft.request at h ⊢
  split at h
  · cases h
  · next given =>
    obtain rfl := Except.ok.inj h
    simp only [@values_withOutput draft .input path (by decide), if_neg given]
    simp only [@value?_withOutput draft _ path, reduceCtorEq, ne_eq, not_false_eq_true]
    rfl

end Draft

/-! ## Command lines -/

theorem read_attached (path : String) : Word.read ("--out=" ++ path) = .option .output (some path) := by
  simp [Word.read, Word.splitValue, Word.ofName, Setting.ofName?]

theorem store_output {path : String} (nonempty : path ≠ "") (opened : Option (Setting × List String)) :
    Draft.store { open? := opened } .output [path] = .ok { Draft.withOutput path {} with open? := opened } := by
  simp [Draft.store, Draft.value?, Draft.values, nonempty, Draft.withOutput]

/-- An output with its value in one word. -/
theorem read_output_attached {path : String} (nonempty : path ≠ "") (rest : List String) :
    Draft.read {} (("--out=" ++ path) :: rest) = (Draft.withOutput path {}).read rest := by
  rw [Draft.read, read_attached]
  change (Draft.store {} .output [path] >>= fun draft => draft.read rest) = _
  rw [store_output nonempty]
  rfl

/-- An output with its value in a word of its own: every word after it that does not end it is refused. -/
theorem read_output_separate {path : String} (nonempty : path ≠ "") (plain : Word.read path = .plain)
    (rest : List String) :
    Draft.read {} ("--out" :: path :: rest) = (Draft.withOutput path {}).read rest := by
  have opens : Draft.read {} ("--out" :: path :: rest) = Draft.read { open? := some (.output, [path]) } rest := by
    have stands : Word.read "--out" = .option .output none := by decide
    rw [Draft.read, stands]
    change Draft.read { open? := some (.output, []) } (path :: rest) = _
    rw [Draft.read, plain]
    rfl
  have settles : Draft.settle { open? := some (.output, [path]) } = .ok (Draft.withOutput path {}) :=
    store_output nonempty none
  have settled : (Draft.withOutput path {}).settle = .ok (Draft.withOutput path {}) := rfl
  rw [opens]
  cases rest with
  | nil => rw [Draft.read, Draft.read, settles, settled]
  | cons word rest =>
    rw [Draft.read, Draft.read, settles, settled]
    cases Word.read word <;> rfl

/-- A command line to which an output was added asks for the same, with that output. -/
theorem parse_of_read {command path : String} {words rest : List String} {request : Request}
    (h : parse (command :: rest) = .ok request) (printed : request.output? = none)
    (reads : Draft.read {} words = (Draft.withOutput path {}).read rest) :
    parse (command :: words) = .ok (request.withOutput path) := by
  unfold parse at h ⊢
  dsimp only at h ⊢
  split at h
  · next blocks =>
    obtain ⟨done, own, asks⟩ := bind_eq_ok h
    have given : done.values .output = [] := by
      rw [← List.head?_eq_none_iff, ← printed, Draft.output?_of_request asks]
      rfl
    rw [reads, (Draft.read_withOutput own given).2]
    exact Draft.request_withOutput asks
  · cases h

theorem parse_output_attached {command path : String} {rest : List String} {request : Request}
    (h : parse (command :: rest) = .ok request) (printed : request.output? = none) (nonempty : path ≠ "") :
    parse (command :: ("--out=" ++ path) :: rest) = .ok (request.withOutput path) :=
  parse_of_read h printed (read_output_attached nonempty rest)

theorem parse_output_separate {command path : String} {rest : List String} {request : Request}
    (h : parse (command :: rest) = .ok request) (printed : request.output? = none) (nonempty : path ≠ "")
    (plain : Word.read path = .plain) :
    parse (command :: "--out" :: path :: rest) = .ok (request.withOutput path) :=
  parse_of_read h printed (read_output_separate nonempty plain rest)

end TypeSketch.Command
