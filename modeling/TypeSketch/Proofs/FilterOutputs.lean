import TypeSketch.Proofs.ByLine
import TypeSketch.Proofs.Parts

/-!
# All outputs of a filter or none

* `mapM_eq_ok_iff`, `mapM_eq_error_iff` : a computation on every item of a list, and the first that fails;
* `IsRead`, `FailsWith` : an output that is read as a document, and why one is not;
* `readOutputs_eq_ok_iff`, `readOutputs_eq_error_iff` : outputs are read up to the first that cannot be;
* `Gives`, `Misses` : the values that a filter makes of a text, and what is found in place of them;
* `outputDocuments`, `Gives.documentsOf`, `Misses.documentsOf` : the documents that either leads to;
* `documentsOf_filter` : a filter gives a document for each of its outputs, or one that says what is missing.
-/

namespace TypeSketch

/-! ## Lists -/

section

variable {ε α β : Type} {f : α → Except ε β} {as : List α}

theorem mapM_eq_ok_iff {bs : List β} : as.mapM f = .ok bs ↔ List.Forall₂ (fun a b => f a = .ok b) as bs := by
  induction as generalizing bs with
  | nil =>
    rw [List.mapM_nil, List.forall₂_nil_left_iff]
    exact ⟨fun h => (Except.ok.inj h).symm, fun h => congrArg Except.ok h.symm⟩
  | cons a as ih =>
    rw [List.mapM_cons, List.forall₂_cons_left_iff]
    constructor
    · intro h
      cases first : f a with
      | error e => rw [first] at h; cases h
      | ok b =>
        cases rest : as.mapM f with
        | error e => rw [first, rest] at h; cases h
        | ok own =>
          rw [first, rest] at h
          exact ⟨b, own, rfl, ih.1 rest, (Except.ok.inj h).symm⟩
    · rintro ⟨b, own, first, rest, rfl⟩
      rw [first, ih.2 rest]
      rfl

theorem mapM_eq_error_iff {e : ε} :
    as.mapM f = .error e ↔
      ∃ before a after bs, as = before ++ a :: after ∧ List.Forall₂ (fun a b => f a = .ok b) before bs ∧
        f a = .error e := by
  induction as with
  | nil =>
    constructor
    · intro h; cases h
    · rintro ⟨before, a, after, -, split, -⟩
      exact absurd split (by simp)
  | cons a as ih =>
    rw [List.mapM_cons]
    constructor
    · intro h
      cases first : f a with
      | error e' =>
        rw [first] at h
        obtain rfl : e' = e := Except.error.inj h
        exact ⟨[], a, as, [], rfl, .nil, first⟩
      | ok b =>
        cases rest : as.mapM f with
        | ok own => rw [first, rest] at h; cases h
        | error e' =>
          rw [first, rest] at h
          obtain rfl : e' = e := Except.error.inj h
          obtain ⟨before, a', after, own, rfl, earlier, fails⟩ := ih.1 rest
          exact ⟨a :: before, a', after, b :: own, rfl, .cons first earlier, fails⟩
    · rintro ⟨before, a', after, own, split, earlier, fails⟩
      cases earlier with
      | nil =>
        obtain ⟨rfl, rfl⟩ := List.cons.inj split
        rw [fails]
        rfl
      | @cons _ b before own first earlier =>
        obtain ⟨rfl, rfl⟩ := List.cons.inj split
        rw [first, ih.2 ⟨before, a', after, own, rfl, earlier, fails⟩]
        rfl

end

namespace Filter

open Json

/-! ## Outputs -/

/-- An output is read as a document: it is a value, whose text is that of the document. -/
def IsRead (output : Except Exit At) (value : Value) : Prop := ∃ y, output = .ok y ∧ parse y.value.text = .ok value

/-- Why an output is not read: it is an early end, or a value whose text is no document. Of the early ends only a
problem is one that filters have by themselves. -/
inductive FailsWith : Except Exit At → Failure → Prop
  | problem (p : Problem) : FailsWith (.error (.problem p)) (.problem p)
  | leave (label : Nat) : FailsWith (.error (.leave label)) .tooDeep
  | tooDeep : FailsWith (.error .tooDeep) .tooDeep
  | output {y : At} {fault : Fault} (h : parse y.value.text = .error fault) :
    FailsWith (.ok y) (.output y.value.text fault)

theorem readOutput_eq_ok_iff {output : Except Exit At} {value : Value} :
    readOutput output = .ok value ↔ IsRead output value := by
  constructor
  · intro h
    rcases output with (p | label | _) | y
    · cases h
    · cases h
    · cases h
    · refine ⟨y, rfl, ?_⟩
      rw [readOutput] at h
      cases read : parse y.value.text with
      | error fault => rw [read] at h; cases h
      | ok own => rw [read] at h; exact congrArg Except.ok (Except.ok.inj h)
  · rintro ⟨y, rfl, h⟩
    rw [readOutput, h]
    rfl

theorem readOutput_eq_error_iff {output : Except Exit At} {failure : Failure} :
    readOutput output = .error failure ↔ FailsWith output failure := by
  constructor
  · intro h
    rcases output with (p | label | _) | y
    · cases h; exact .problem p
    · cases h; exact .leave label
    · cases h; exact .tooDeep
    · rw [readOutput] at h
      cases read : parse y.value.text with
      | ok own => rw [read] at h; cases h
      | error fault => rw [read] at h; cases h; exact .output read
  · intro h
    cases h with
    | problem p => rfl
    | leave label => rfl
    | tooDeep => rfl
    | output h => rw [readOutput, h]; rfl

/-- Outputs are read one after the other, whenever they are run. -/
theorem readOutputs_eq (read : List Value) (outputs : Results At) :
    readOutputs read outputs = (outputs.toList.mapM readOutput).map (read.reverse ++ ·) := by
  induction outputs generalizing read with
  | done => simp [readOutputs, Outputs.toList, Except.map, pure, Except.pure]
  | last output =>
    rw [readOutputs, Outputs.toList, List.mapM_cons]
    cases readOutput output with
    | error failure => rfl
    | ok value => exact congrArg Except.ok List.reverse_cons
  | next output more ih =>
    rw [readOutputs, Outputs.toList, List.mapM_cons]
    cases readOutput output with
    | error failure => rfl
    | ok value =>
      refine (ih () (value :: read)).trans ?_
      cases (more ()).toList.mapM readOutput with
      | error failure => rfl
      | ok values =>
        refine congrArg Except.ok ?_
        dsimp only
        rw [List.reverse_cons, List.append_assoc, List.singleton_append]

theorem readOutputs_nil (outputs : Results At) : readOutputs [] outputs = outputs.toList.mapM readOutput := by
  rw [readOutputs_eq]
  cases outputs.toList.mapM readOutput <;> rfl

theorem readOutputs_eq_ok_iff {outputs : Results At} {values : List Value} :
    readOutputs [] outputs = .ok values ↔ List.Forall₂ IsRead outputs.toList values := by
  rw [readOutputs_nil, mapM_eq_ok_iff]
  simp only [readOutput_eq_ok_iff]

/-- What is reported of outputs is why the first one that is not read is not. -/
theorem readOutputs_eq_error_iff {outputs : Results At} {failure : Failure} :
    readOutputs [] outputs = .error failure ↔
      ∃ before output after read, outputs.toList = before ++ output :: after ∧ List.Forall₂ IsRead before read ∧
        FailsWith output failure := by
  rw [readOutputs_nil, mapM_eq_error_iff]
  simp only [readOutput_eq_ok_iff, readOutput_eq_error_iff]

theorem run_of_compile {code : String} {t : Term} (compiled : compile code = .ok t) (document : Value) :
    run code document = readOutputs [] (outputs t document) := by
  rw [run, compiled]
  rfl

end Filter

namespace Command

open Json Text World

variable {pointer? : Option String} {code : String} {text : List Char}

/-! ## Texts -/

/-- The part of a text that is selected: the part at the pointer, or the whole document if there is no
pointer. -/
inductive Selects : Option String → List Char → Value → Prop
  | whole {text : List Char} {value : Value} (accepted : parseChars text = .ok value) : Selects none text value
  | part {text : List Char} {value part : Value} {pointer : String} (accepted : parseChars text = .ok value)
    (there : value.atPointer? pointer = some part) : Selects (some pointer) text part

/-- The values that a filter makes of the selected part of a text. All its outputs are read. -/
inductive Gives (pointer? : Option String) (code : String) (text : List Char) : List Value → Prop
  | intro {part : Value} {t : Filter.Term} {values : List Value} (selected : Selects pointer? text part)
    (compiled : Filter.compile code = .ok t)
    (read : List.Forall₂ Filter.IsRead (Filter.outputs t part).toList values) : Gives pointer? code text values

/-- What is found in place of values: the text is no document, the pointer leads nowhere, the filter means
nothing, or one of its outputs is the first that is not read. -/
inductive Misses (pointer? : Option String) (code : String) (text : List Char) : Loaded → Prop
  | notJson {fault : Fault} (rejected : parseChars text = .error fault) : Misses pointer? code text .notJson
  | noPart {value : Value} {pointer : String} (accepted : parseChars text = .ok value)
    (asked : pointer? = some pointer) (nowhere : value.atPointer? pointer = none) :
    Misses pointer? code text (.failed (.noPart pointer))
  | noFilter {part : Value} {failure : Filter.Failure} (selected : Selects pointer? text part)
    (uncompiled : Filter.compile code = .error failure) :
    Misses pointer? code text (.failed (.filter code failure))
  | notRead {part : Value} {t : Filter.Term} {before after : List (Except Filter.Exit Filter.At)}
    {output : Except Filter.Exit Filter.At} {read : List Value} {failure : Filter.Failure}
    (selected : Selects pointer? text part) (compiled : Filter.compile code = .ok t)
    (split : (Filter.outputs t part).toList = before ++ output :: after)
    (earlier : List.Forall₂ Filter.IsRead before read) (fails : Filter.FailsWith output failure) :
    Misses pointer? code text (.failed (.filter code failure))

theorem gives_or_misses (pointer? : Option String) (code : String) (text : List Char) :
    (∃ values, Gives pointer? code text values) ∨ ∃ loaded, Misses pointer? code text loaded := by
  have filtered {part : Value} (selected : Selects pointer? text part) :
      (∃ values, Gives pointer? code text values) ∨ ∃ loaded, Misses pointer? code text loaded := by
    cases compiled : Filter.compile code with
    | error failure => exact .inr ⟨_, .noFilter selected compiled⟩
    | ok t =>
      cases all : Filter.readOutputs [] (Filter.outputs t part) with
      | ok values => exact .inl ⟨values, .intro selected compiled (Filter.readOutputs_eq_ok_iff.1 all)⟩
      | error failure =>
        obtain ⟨before, output, after, read, split, earlier, fails⟩ := Filter.readOutputs_eq_error_iff.1 all
        exact .inr ⟨_, .notRead selected compiled split earlier fails⟩
  cases accepted : parseChars text with
  | error fault => exact .inr ⟨_, .notJson accepted⟩
  | ok value =>
    cases pointer? with
    | none => exact filtered (.whole accepted)
    | some pointer =>
      cases there : value.atPointer? pointer with
      | none => exact .inr ⟨_, .noPart accepted rfl there⟩
      | some part => exact filtered (.part accepted there)

/-! ## Documents -/

variable {byLine : Bool} {origin : String}

/-- A value document for every value, numbered from zero. -/
def outputDocuments (origin : String) (values : List Value) : List Document :=
  values.mapIdx fun i value => ⟨origin ++ "#" ++ toString i, .value value⟩

theorem numbered_zero (origin : String) (values : List Value) :
    Document.numbered origin 0 values = outputDocuments origin values := by
  rw [numbered_eq, outputDocuments, List.mapIdx_eq_zipIdx_map]
  refine List.map_congr_left fun output _ => ?_
  exact congrArg (Document.mk · _) (String.append_assoc ..).symm

theorem map_loaded_numbered (origin : String) (n : Nat) (values : List Value) :
    (Document.numbered origin n values).map Document.loaded = values.map Loaded.value := by
  induction values generalizing n with
  | nil => rfl
  | cons value values ih => rw [Document.numbered, List.map_cons, ih, List.map_cons]

theorem outputDocuments_injective {values others : List Value}
    (h : outputDocuments origin values = outputDocuments origin others) : values = others := by
  rw [← numbered_zero, ← numbered_zero] at h
  have same := congrArg (List.map Document.loaded) h
  rw [map_loaded_numbered, map_loaded_numbered] at same
  exact List.map_injective_iff.2 (fun _ _ e => Loaded.value.inj e) same

/-- No output has the origin of its text. -/
theorem outputDocuments_ne_single (origin : String) (values : List Value) (loaded : Loaded) :
    outputDocuments origin values ≠ [⟨origin, loaded⟩] := by
  intro h
  cases values with
  | nil => cases h
  | cons value values =>
    rw [outputDocuments, List.mapIdx_cons] at h
    have same : origin ++ "#" ++ toString 0 = origin := congrArg Document.origin (List.cons.inj h).1
    have length := congrArg String.length same
    simp only [String.length_append] at length
    have : "#".length = 1 := rfl
    omega

theorem documentsOf_of_selects {filter? : Option String} {part : Value} (h : Selects pointer? text part) :
    Selection.documentsOf ⟨byLine, pointer?, filter?⟩ origin text =
      Selection.filtered ⟨byLine, pointer?, filter?⟩ origin part := by
  cases h with
  | whole accepted => exact documentsOf_of_part accepted rfl origin
  | part accepted there => exact documentsOf_of_part accepted (part_of_there there) origin

theorem Gives.documentsOf {values : List Value} (h : Gives pointer? code text values) :
    Selection.documentsOf ⟨byLine, pointer?, some code⟩ origin text = outputDocuments origin values := by
  obtain ⟨selected, compiled, read⟩ := h
  have ran := (Filter.run_of_compile compiled _).trans (Filter.readOutputs_eq_ok_iff.2 read)
  rw [documentsOf_of_selects selected, Selection.filtered]
  dsimp only
  rw [ran]
  exact numbered_zero origin values

theorem Misses.documentsOf {loaded : Loaded} (h : Misses pointer? code text loaded) :
    Selection.documentsOf ⟨byLine, pointer?, some code⟩ origin text = [⟨origin, loaded⟩] := by
  have failed {part : Value} {failure : Filter.Failure} (selected : Selects pointer? text part)
      (ran : Filter.run code part = .error failure) :
      Selection.documentsOf ⟨byLine, pointer?, some code⟩ origin text = [⟨origin, .failed (.filter code failure)⟩] := by
    rw [documentsOf_of_selects selected, Selection.filtered]
    dsimp only
    rw [ran]
  cases h with
  | notJson rejected => rw [Selection.documentsOf, rejected]
  | noPart accepted asked nowhere =>
    subst asked
    exact documentsOf_of_noPart accepted (part_of_nowhere nowhere) origin
  | noFilter selected uncompiled =>
    refine failed selected ?_
    rw [Filter.run, uncompiled]
    rfl
  | notRead selected compiled split earlier fails =>
    have ran := Filter.readOutputs_eq_error_iff.2 ⟨_, _, _, _, split, earlier, fails⟩
    exact failed selected ((Filter.run_of_compile compiled _).trans ran)

/-- **A filter** gives a value document for every output, in order and under the origin of the text with the
number of the output, or else one document under the origin itself: a text that is no document is found to
be none, and otherwise the pointer, the filter or the first output that is not read is to blame, no output
before it being left. Either is put after the documents there are, whether the text is a whole source or a
line. -/
theorem documentsOf_filter (pointer? : Option String) (code origin : String) (text : List Char) :
    let selection : Selection := { pointer?, filter? := some code }
    let found := selection.documentsOf origin text
    (∀ values, Gives pointer? code text values ↔ found = outputDocuments origin values) ∧
    (∀ loaded, Misses pointer? code text loaded ↔ found = [⟨origin, loaded⟩]) ∧
    ((∃ values, Gives pointer? code text values) ∨ ∃ loaded, Misses pointer? code text loaded) ∧
    ¬((∃ values, Gives pointer? code text values) ∧ ∃ loaded, Misses pointer? code text loaded) ∧
    (∀ world paths path, ((readSource host path).run (world.afterReading paths)).1 = ⟨origin, .ok (String.ofList text)⟩ →
      documentsOf world selection (paths ++ [path]) = documentsOf world selection paths ++ found) ∧
    ∀ file lines number, origin = file ++ ":" ++ toString number → isWhiteOnly text = false →
      (lines ++ [(number, text)]).flatMap (Selection.documentsOfLine { selection with byLine := true } file) =
        lines.flatMap (Selection.documentsOfLine { selection with byLine := true } file) ++ found := by
  intro selection found
  have gives {values : List Value} (h : Gives pointer? code text values) : found = outputDocuments origin values :=
    h.documentsOf
  have misses {loaded : Loaded} (h : Misses pointer? code text loaded) : found = [⟨origin, loaded⟩] := h.documentsOf
  have one := gives_or_misses pointer? code text
  refine ⟨fun values => ⟨gives, fun h => ?_⟩, fun loaded => ⟨misses, fun h => ?_⟩, one, ?_, ?_, ?_⟩
  · rcases one with ⟨others, own⟩ | ⟨loaded, own⟩
    · obtain rfl := outputDocuments_injective ((gives own).symm.trans h)
      exact own
    · exact absurd (h.symm.trans (misses own)) (outputDocuments_ne_single origin _ _)
  · rcases one with ⟨values, own⟩ | ⟨other, own⟩
    · exact absurd ((gives own).symm.trans h) (outputDocuments_ne_single origin _ _)
    · obtain rfl : other = loaded := by
        have same := (misses own).symm.trans h
        exact congrArg Document.loaded (List.cons.inj same).1
      exact own
  · rintro ⟨⟨values, given⟩, loaded, missed⟩
    exact outputDocuments_ne_single origin values loaded ((gives given).symm.trans (misses missed))
  · intro world paths path read
    rw [documentsOf_append, documentsOf_singleton, read]
    have whole : Source.documents selection ⟨origin, .ok (String.ofList text)⟩ = found := by
      show selection.documentsOf origin (String.ofList text).toList = found
      rw [String.toList_ofList]
    rw [whole]
  · rintro file lines number rfl some
    rw [List.flatMap_append, List.flatMap_singleton, Selection.documentsOfLine, some]
    rfl

/-- The file `a` holds a document that has no sign to change. -/
def trueWorld : World where
  disk.entries := [(["a"], .file (.text "true"))]

/-- One filter gives the document back, from a line too; another one has an output that is no value, which is put
after what is found of the path before. -/
theorem documentsOf_filter_true :
    Gives none "." "true".toList [.bool true] ∧
    Selection.documentsOfLine { byLine := true, filter? := some "." } "l" (2, "true".toList) =
      [⟨"l:2#0", .value (.bool true)⟩] ∧
    Misses none "-." "true".toList (.failed (.filter "-." (.problem (.wrongType (.bool true) "number")))) ∧
    ((readSource host "a").run trueWorld).1 = ⟨"a", .ok "true"⟩ ∧
    documentsOf trueWorld { filter? := some "-." } ["x", "a"] =
      [⟨"x", .failed (.unreadable "x" .notFound)⟩,
        ⟨"a", .failed (.filter "-." (.problem (.wrongType (.bool true) "number")))⟩] := by
  have selected : Selects none "true".toList (.bool true) := .whole rfl
  have same : (Filter.outputs .id (.bool true)).toList = [.ok ⟨.bool true, none⟩] := by
    rw [Filter.outputs, show Filter.maxCalls = 999999999 + 1 from rfl]
    rfl
  have negated : (Filter.outputs (.neg .id) (.bool true)).toList =
      [] ++ .error (.problem (.wrongType (.bool true) "number")) :: [] := by
    rw [Filter.outputs, show Filter.maxCalls = 999999998 + 2 from rfl]
    rfl
  have gives : Gives none "." "true".toList [.bool true] := by
    have compiled : Filter.compile "." = .ok .id := rfl
    refine .intro selected compiled ?_
    rw [same]
    exact .cons ⟨_, rfl, rfl⟩ .nil
  have misses : Misses none "-." "true".toList
      (.failed (.filter "-." (.problem (.wrongType (.bool true) "number")))) := by
    have compiled : Filter.compile "-." = .ok (.neg .id) := rfl
    exact .notRead selected compiled negated .nil (.problem _)
  have read : ((readSource host "a").run trueWorld).1 = ⟨"a", .ok "true"⟩ := by cbv
  obtain ⟨given, -, -, -, -, lines⟩ := documentsOf_filter none "." "l:2" "true".toList
  obtain ⟨-, missed, -, -, sources, -⟩ := documentsOf_filter none "-." "a" "true".toList
  refine ⟨gives, ?_, misses, read, ?_⟩
  · have line := lines "l" [] 2 (by decide) (by decide)
    rw [List.nil_append, List.flatMap_singleton, (given _).1 gives] at line
    exact line
  · have both := sources trueWorld ["x"] "a" read
    have missing : ((readSource host "x").run trueWorld).1 = ⟨"x", .error (.unreadable "x" .notFound)⟩ := by cbv
    rw [(missed _).1 misses, documentsOf_singleton, missing] at both
    exact both

end Command

end TypeSketch
