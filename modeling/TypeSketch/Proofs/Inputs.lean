import TypeSketch.Proofs.Tally

/-!
# Runs on more inputs

* `readsDisk_resolve`, `readsDisk_loadConfig` : what a run finds out before it reads its inputs;
* `World.afterReading`, `readSources_append` : sources read one after another, and what is left to be
  read;
* `prepare_eq_ok_iff` : the configuration and the documents of a run;
* `intercalate_append`, `declareAll_append` : what more documents add up to;
* `runIn_append` : a run on some inputs and then others, by the runs on each of them.
-/

namespace TypeSketch

/-- What is left of a world when some paths have been read: nothing to be read if one of them is a
hyphen. -/
def World.afterReading (world : World) (paths : List String) : World :=
  if "-" ∈ paths then { world with input := .text "" } else world

namespace Command

open World

variable {world : World} {request : Request}

/-! ## Paths and configurations -/

theorem readsDisk_resolveOne (input : String) : ReadsDisk (resolveOne host input) := by
  unfold resolveOne
  refine .ite ?_ (.pure _)
  cases Glob.Query.parse input with
  | error mistake => exact .pure _
  | ok query =>
    refine (ReadsDisk.search query).bind fun found => ?_
    rcases found with directory | _ | _ <;> exact .pure _

theorem readsDisk_resolve (inputs : List String) : ReadsDisk (resolve host inputs) := by
  induction inputs with
  | nil => exact .pure _
  | cons input rest ih =>
    refine (readsDisk_resolveOne input).bind fun own => ?_
    cases own with
    | error e => exact .pure _
    | ok paths =>
      refine ih.bind fun others => ?_
      cases others <;> exact .pure _

theorem readsDisk_loadConfig (request : Request) : ReadsDisk (loadConfig host request) := by
  unfold loadConfig
  cases request.config? with
  | none => exact .pure _
  | some path =>
    refine (ReadsDisk.readText path).bind fun text => ?_
    cases text with
    | error e => exact .pure _
    | ok text =>
      dsimp only
      cases Config.parse text <;> exact .pure _

/-- The first input and the others stand for paths one after the other. -/
theorem resolve_cons_eq_ok_iff {input : String} {rest paths : List String} :
    ((resolve host (input :: rest)).run world).1 = .ok paths ↔
      ∃ own others, ((resolveOne host input).run world).1 = .ok own ∧
        ((resolve host rest).run world).1 = .ok others ∧ paths = own ++ others := by
  rw [resolve, run_bind, (readsDisk_resolveOne input).unchanged]
  cases first : ((resolveOne host input).run world).1 with
  | error e =>
    constructor
    · intro h; cases h
    · rintro ⟨_, _, h, -⟩; cases h
  | ok own =>
    dsimp only
    rw [run_bind, (readsDisk_resolve rest).unchanged]
    cases second : ((resolve host rest).run world).1 with
    | error e =>
      constructor
      · intro h; cases h
      · rintro ⟨_, _, -, h, -⟩; cases h
    | ok others =>
      constructor
      · intro h
        exact ⟨own, others, rfl, rfl, (Except.ok.inj h).symm⟩
      · rintro ⟨_, _, h, h', rfl⟩
        rw [Except.ok.inj h, Except.ok.inj h']
        rfl

theorem resolve_append {first second paths others : List String}
    (h : ((resolve host first).run world).1 = .ok paths) (h' : ((resolve host second).run world).1 = .ok others) :
    ((resolve host (first ++ second)).run world).1 = .ok (paths ++ others) := by
  induction first generalizing paths with
  | nil =>
    obtain rfl : [] = paths := Except.ok.inj h
    exact h'
  | cons input rest ih =>
    obtain ⟨own, more, one, all, rfl⟩ := resolve_cons_eq_ok_iff.1 h
    exact resolve_cons_eq_ok_iff.2 ⟨own, more ++ others, one, ih all, List.append_assoc ..⟩

/-! ## Sources -/

theorem readSource_snd (path : String) (world : World) :
    ((readSource host path).run world).2 = world.afterReading [path] := by
  unfold readSource afterReading
  by_cases hyphen : path = "-"
  · rw [if_pos hyphen, if_pos (by rw [hyphen]; exact List.mem_singleton_self _), run_bind]
    cases ((host.readInput).run world).1 <;> rfl
  · rw [if_neg hyphen, if_neg (fun h => hyphen (List.mem_singleton.1 h).symm), run_bind]
    cases ((host.readText path).run world).1 <;> rfl

theorem afterReading_append (world : World) (paths others : List String) :
    world.afterReading (paths ++ others) = (world.afterReading paths).afterReading others := by
  by_cases first : "-" ∈ paths <;> by_cases second : "-" ∈ others <;> simp [afterReading, first, second]

theorem disk_afterReading (world : World) (paths : List String) : (world.afterReading paths).disk = world.disk := by
  unfold afterReading
  split <;> rfl

theorem readSources_snd (paths : List String) (world : World) :
    ((readSources host paths).run world).2 = world.afterReading paths := by
  induction paths generalizing world with
  | nil => rfl
  | cons path rest ih =>
    rw [readSources, run_bind, run_bind, readSource_snd, ih, ← afterReading_append]
    rfl

/-- The sources of more paths are read from what is left. -/
theorem readSources_append (paths others : List String) (world : World) :
    ((readSources host (paths ++ others)).run world).1 =
      ((readSources host paths).run world).1 ++ ((readSources host others).run (world.afterReading paths)).1 := by
  induction paths generalizing world with
  | nil => rfl
  | cons path rest ih =>
    have split : world.afterReading (path :: rest) = (world.afterReading [path]).afterReading rest :=
      afterReading_append world [path] rest
    rw [List.cons_append, readSources, readSources, run_bind, run_bind, run_bind, run_bind, readSource_snd, split]
    exact congrArg (_ :: ·) (ih _)

/-! ## Preparations -/

/-- The documents of paths in a world. -/
def documentsOf (world : World) (selection : Selection) (paths : List String) : List Document :=
  ((readSources host paths).run world).1.flatMap (Source.documents selection)

theorem prepare_eq_ok_iff {config : Config} {documents : List Document} :
    ((prepare host request).run world).1 = .ok (config, documents) ↔
      ((loadConfig host request).run world).1 = .ok config ∧
        ∃ paths, ((resolve host request.inputs).run world).1 = .ok paths ∧
          documents = documentsOf world request.selection paths := by
  rw [prepare, run_bind, (readsDisk_loadConfig request).unchanged]
  cases loaded : ((loadConfig host request).run world).1 with
  | error failure =>
    constructor
    · intro h; cases h
    · rintro ⟨h, -⟩; cases h
  | ok own =>
    dsimp only
    rw [run_bind, loadDocuments, run_bind, (readsDisk_resolve request.inputs).unchanged]
    cases resolved : ((resolve host request.inputs).run world).1 with
    | error why =>
      constructor
      · intro h; cases h
      · rintro ⟨-, _, h, -⟩; cases h
    | ok paths =>
      constructor
      · intro h
        cases h
        exact ⟨rfl, paths, rfl, rfl⟩
      · rintro ⟨h, _, h', rfl⟩
        cases h
        cases h'
        rfl

/-! ## Tallies -/

/-- The texts of renderings that are not left out. -/
def shownTexts (renderings : List Rendering) : List String :=
  (renderings.map Rendering.text).filter fun text => text ≠ ""

theorem documentsOf_append (world : World) (selection : Selection) (paths others : List String) :
    documentsOf world selection (paths ++ others) =
      documentsOf world selection paths ++ documentsOf (world.afterReading paths) selection others := by
  rw [documentsOf, readSources_append, List.flatMap_append]
  rfl

theorem documentsOf_singleton (world : World) (selection : Selection) (path : String) :
    documentsOf world selection [path] = Source.documents selection ((readSource host path).run world).1 := by
  rw [documentsOf, readSources, run_bind]
  exact List.flatMap_singleton ..

variable {first second paths : List String} {config config' : Config} {documents others : List Document}

/-- A run on more inputs has the documents of both, and completes if both do. -/
theorem Completes.append (printed : request.output? = none)
    (resolved : ((resolve host first).run world).1 = .ok paths)
    (h : Completes world { request with inputs := first } config documents)
    (h' : Completes (world.afterReading paths) { request with inputs := second } config' others) :
    config' = config ∧ Completes world { request with inputs := first ++ second } config (documents ++ others) := by
  obtain ⟨loaded, _, own, rfl⟩ := prepare_eq_ok_iff.1 h.prepared
  obtain rfl := Except.ok.inj (resolved.symm.trans own)
  obtain ⟨loaded', paths', resolved', rfl⟩ := prepare_eq_ok_iff.1 h'.prepared
  have disk : (world.afterReading paths).disk = world.disk := disk_afterReading world paths
  rw [(readsDisk_resolve second).congr disk] at resolved'
  have same : ((loadConfig host request).run (world.afterReading paths)).1 =
      ((loadConfig host request).run world).1 := (readsDisk_loadConfig request).congr disk
  refine ⟨Except.ok.inj (loaded'.symm.trans (same.trans loaded)), ?_, fun path some => ?_⟩
  · refine prepare_eq_ok_iff.2 ⟨loaded, paths ++ paths', resolve_append resolved resolved', ?_⟩
    exact (documentsOf_append ..).symm
  · cases printed.symm.trans some

/-- What is printed for the reports of two runs can be printed for one run that has the reports of both. -/
theorem Outcome.Prints.append {one other both : Outcome} {errors errors' : String} (h : one.Prints errors)
    (h' : other.Prints errors') (ends : one.failure? = none) (last : both.failure? = other.failure?)
    (reports : both.reports = one.reports ++ other.reports) : both.Prints (errors ++ errors') := by
  obtain ⟨lines, some, rfl⟩ := h
  obtain ⟨lines', some', rfl⟩ := h'
  refine ⟨lines ++ lines', reports ▸ some.append some', ?_⟩
  rw [String.join_append, Outcome.lastReport, ends, Outcome.lastReport, Outcome.lastReport, last]
  simp only [String.append_empty, String.append_assoc]

/-- A disk with a file that is not JSON, and an object to be read. -/
def twiceWorld : World where
  disk.entries := [(["a"], .file (.text "t"))]
  input := .text "\x7b\x7d"

end Command

end TypeSketch
