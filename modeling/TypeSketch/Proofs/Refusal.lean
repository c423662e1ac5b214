import TypeSketch.Proofs.Inputs

/-!
# Runs that are refused

A run asks for its configuration and then for the paths of its inputs before it reads an input or writes
anything. What is wrong with either ends it there.

* `Misconfigured` : the configuration of a request cannot be read, or its file holds none;
* `FindsNothing`, `FirstNothing` : an input that stands for no paths, and the first one that does;
* `Refused`, `prepare_of_refused` : why a run is refused, the configuration coming before the inputs;
* `runIn_refused` : a run that is refused says why, and leaves everything as it was.
-/

namespace TypeSketch.Command

open World

variable {world : World} {request : Request} {failure : Failure} {input : String} {inputs : List String}
  {why : Unresolved}

/-! ## Configurations -/

/-- The configuration of a request is in a file that cannot be read, or in one that holds none. -/
inductive Misconfigured (world : World) (request : Request) : Failure → Prop
  | unreadable {path : String} {error : FileError} (given : request.config? = some path)
    (read : world.disk.readText path = .error error) :
    Misconfigured world request (.configUnreadable path error)
  | rejected {path text : String} {rejection : Config.Rejection} (given : request.config? = some path)
    (read : world.disk.readText path = .ok text) (parsed : Config.parse text = .error rejection) :
    Misconfigured world request (.configRejected path text rejection)

/-- What a configuration file gives is decided by the text in it. -/
theorem loadConfig_fst {path : String} (given : request.config? = some path) :
    ((loadConfig host request).run world).1 =
      match world.disk.readText path with
      | .error e => .error (.configUnreadable path e)
      | .ok text =>
        match Config.parse text with
        | .error rejection => .error (.configRejected path text rejection)
        | .ok config => .ok (request.overrides.apply config) := by
  have read : (host.readText path).run world = (world.disk.readText path, world) := rfl
  rw [loadConfig, given]
  dsimp only
  rw [run_bind, read]
  cases world.disk.readText path with
  | error e => rfl
  | ok text =>
    dsimp only
    cases Config.parse text <;> rfl

theorem loadConfig_eq_error_iff :
    ((loadConfig host request).run world).1 = .error failure ↔ Misconfigured world request failure := by
  constructor
  · intro h
    cases given : request.config? with
    | none =>
      rw [loadConfig, given] at h
      cases h
    | some path =>
      rw [loadConfig_fst given] at h
      cases read : world.disk.readText path with
      | error e =>
        rw [read] at h
        cases h
        exact .unreadable given read
      | ok text =>
        rw [read] at h
        cases parsed : Config.parse text with
        | error rejection =>
          simp only [parsed] at h
          cases h
          exact .rejected given read parsed
        | ok config =>
          simp only [parsed] at h
          cases h
  · intro h
    cases h with
    | unreadable given read => rw [loadConfig_fst given, read]
    | rejected given read parsed =>
      rw [loadConfig_fst given, read]
      dsimp only
      rw [parsed]

/-! ## Inputs -/

/-- An input stands for no paths: it is written as a pattern, and it is none, or the search for it comes to a
directory that cannot be listed, or no path matches it. -/
inductive FindsNothing (world : World) (input : String) : Unresolved → Prop
  | noPattern {mistake : Glob.Mistake} (written : isPattern input = true)
    (parsed : Glob.Query.parse input = .error mistake) : FindsNothing world input (.noPattern mistake)
  | unlisted {query : Glob.Query} {directory : Glob.Unlisted} (written : isPattern input = true)
    (parsed : Glob.Query.parse input = .ok query)
    (stopped : ((query.search host).run world).1 = .error directory) : FindsNothing world input (.unlisted directory)
  | noMatch {query : Glob.Query} (written : isPattern input = true) (parsed : Glob.Query.parse input = .ok query)
    (found : ((query.search host).run world).1 = .ok []) : FindsNothing world input (.noMatch input)

/-- Of the inputs, the first one that stands for no paths does so for this reason. -/
def FirstNothing (world : World) (inputs : List String) (why : Unresolved) : Prop :=
  ∃ before input after, inputs = before ++ input :: after ∧
    (∀ earlier ∈ before, ∀ other, ¬ FindsNothing world earlier other) ∧ FindsNothing world input why

theorem resolveOne_eq_error_iff :
    ((resolveOne host input).run world).1 = .error why ↔ FindsNothing world input why := by
  constructor
  · intro h
    unfold resolveOne at h
    split at h
    · next written =>
      cases parsed : Glob.Query.parse input with
      | error mistake =>
        rw [parsed] at h
        cases h
        exact .noPattern written parsed
      | ok query =>
        rw [parsed] at h
        dsimp only at h
        rw [run_bind] at h
        rcases found : ((query.search host).run world).1 with directory | _ | ⟨path, paths⟩
        · rw [found] at h
          cases h
          exact .unlisted written parsed found
        · rw [found] at h
          cases h
          exact .noMatch written parsed found
        · rw [found] at h
          cases h
    · cases h
  · intro h
    unfold resolveOne
    cases h with
    | noPattern written parsed =>
      rw [if_pos written, parsed]
      rfl
    | unlisted written parsed stopped =>
      rw [if_pos written, parsed]
      dsimp only
      rw [run_bind, stopped]
      rfl
    | noMatch written parsed found =>
      rw [if_pos written, parsed]
      dsimp only
      rw [run_bind, found]
      rfl

theorem firstNothing_cons_iff :
    FirstNothing world (input :: inputs) why ↔
      FindsNothing world input why ∨ (∀ other, ¬ FindsNothing world input other) ∧ FirstNothing world inputs why := by
  constructor
  · rintro ⟨before, first, after, split, earlier, nothing⟩
    cases before with
    | nil =>
      obtain ⟨rfl, -⟩ := List.cons.inj split
      exact .inl nothing
    | cons own before =>
      obtain ⟨rfl, rfl⟩ := List.cons.inj split
      refine .inr ⟨earlier input List.mem_cons_self, before, first, after, rfl, ?_, nothing⟩
      exact fun other mem => earlier other (List.mem_cons_of_mem input mem)
  · rintro (nothing | ⟨own, before, first, after, rfl, earlier, nothing⟩)
    · exact ⟨[], input, inputs, rfl, fun _ none => absurd none List.not_mem_nil, nothing⟩
    · exact ⟨input :: before, first, after, rfl, List.forall_mem_cons.2 ⟨own, earlier⟩, nothing⟩

/-- Inputs are resolved up to the first one that stands for no paths. -/
theorem resolve_eq_error_iff :
    ((resolve host inputs).run world).1 = .error why ↔ FirstNothing world inputs why := by
  induction inputs with
  | nil =>
    constructor
    · intro h
      cases h
    · rintro ⟨before, input, after, split, -⟩
      cases before <;> cases split
  | cons input rest ih =>
    rw [firstNothing_cons_iff, ← ih, ← resolveOne_eq_error_iff]
    simp only [← resolveOne_eq_error_iff]
    rw [resolve, run_bind, (readsDisk_resolveOne input).unchanged]
    cases ((resolveOne host input).run world).1 with
    | error own =>
      constructor
      · exact .inl
      · rintro (h | ⟨found, -⟩)
        · exact h
        · exact absurd rfl (found own)
    | ok paths =>
      dsimp only
      rw [run_bind]
      cases ((resolve host rest).run world).1 with
      | error e =>
        constructor
        · intro h
          exact .inr ⟨fun other none => (by cases none), h⟩
        · rintro (h | ⟨-, h⟩)
          · cases h
          · exact h
      | ok others =>
        constructor
        · intro h
          cases h
        · rintro (h | ⟨-, h⟩) <;> cases h

/-- If any input stands for no paths, one is the first to do so. -/
theorem exists_firstNothing_iff :
    (∃ why, FirstNothing world inputs why) ↔ ∃ input ∈ inputs, ∃ why, FindsNothing world input why := by
  constructor
  · rintro ⟨why, before, input, after, rfl, -, nothing⟩
    exact ⟨input, List.mem_append_right before List.mem_cons_self, why, nothing⟩
  · intro some
    induction inputs with
    | nil =>
      obtain ⟨input, mem, -⟩ := some
      exact absurd mem List.not_mem_nil
    | cons first rest ih =>
      by_cases own : ∃ why, FindsNothing world first why
      · obtain ⟨why, nothing⟩ := own
        exact ⟨why, firstNothing_cons_iff.2 (.inl nothing)⟩
      · rw [not_exists] at own
        obtain ⟨input, mem, why, nothing⟩ := some
        rcases List.mem_cons.1 mem with rfl | later
        · exact absurd nothing (own why)
        · obtain ⟨why, found⟩ := ih ⟨input, later, why, nothing⟩
          exact ⟨why, firstNothing_cons_iff.2 (.inr ⟨own, found⟩)⟩

/-! ## Refusals -/

/-- Why a run is refused: its configuration, or the first of its inputs that stands for no paths. -/
inductive Refused (world : World) (request : Request) : Failure → Prop
  | config {failure : Failure} (misconfigured : Misconfigured world request failure) : Refused world request failure
  | inputs {why : Unresolved} (configured : ∀ failure, ¬ Misconfigured world request failure)
    (nothing : FirstNothing world request.inputs why) : Refused world request (.unresolved why)

theorem prepare_of_loadConfig_error (failed : ((loadConfig host request).run world).1 = .error failure) :
    (prepare host request).run world = (.error failure, world) := by
  rw [prepare, run_bind, (readsDisk_loadConfig request).unchanged, failed]
  rfl

theorem prepare_of_resolve_error {config : Config} (loaded : ((loadConfig host request).run world).1 = .ok config)
    (failed : ((resolve host request.inputs).run world).1 = .error why) :
    (prepare host request).run world = (.error (.unresolved why), world) := by
  rw [prepare, run_bind, (readsDisk_loadConfig request).unchanged, loaded]
  dsimp only
  rw [run_bind, loadDocuments, run_bind, (readsDisk_resolve request.inputs).unchanged, failed]
  rfl

/-- A run is refused before anything has changed. -/
theorem prepare_of_refused (h : Refused world request failure) :
    (prepare host request).run world = (.error failure, world) := by
  cases h with
  | config misconfigured => exact prepare_of_loadConfig_error (loadConfig_eq_error_iff.2 misconfigured)
  | inputs configured nothing =>
    cases loaded : ((loadConfig host request).run world).1 with
    | error own => exact absurd (loadConfig_eq_error_iff.1 loaded) (configured own)
    | ok config => exact prepare_of_resolve_error loaded (resolve_eq_error_iff.2 nothing)

/-- What there is to read from the standard input has no part in it. -/
theorem Refused.withInput (h : Refused world request failure) (input : Content) :
    Refused { world with input } request failure := by
  have configs : ((loadConfig host request).run { world with input }).1 = ((loadConfig host request).run world).1 :=
    (readsDisk_loadConfig request).congr rfl
  have paths : ((resolve host request.inputs).run { world with input }).1 =
      ((resolve host request.inputs).run world).1 := (readsDisk_resolve request.inputs).congr rfl
  cases h with
  | config misconfigured =>
    rw [← loadConfig_eq_error_iff, ← configs, loadConfig_eq_error_iff] at misconfigured
    exact .config misconfigured
  | inputs configured nothing =>
    rw [← resolve_eq_error_iff, ← paths, resolve_eq_error_iff] at nothing
    refine .inputs (fun other misconfigured => configured other ?_) nothing
    rwa [← loadConfig_eq_error_iff, configs, loadConfig_eq_error_iff] at misconfigured

/-- **A run is refused** if its configuration cannot be had, or if any of its inputs stands for no paths,
whatever the others are. It fails with one report, on the configuration if that is at fault and else on the
first such input. Nothing is printed, and nothing is written or read from the standard input, whatever there
is to read. -/
theorem runIn_refused (h : (∃ failure, Misconfigured world request failure) ∨
      ∃ input ∈ request.inputs, ∃ why, FindsNothing world input why) :
    ∃ failure,
      (Misconfigured world request failure ∨ (∀ other, ¬ Misconfigured world request other) ∧
        ∃ why, failure = .unresolved why ∧ FirstNothing world request.inputs why) ∧
      ∀ input, runIn { world with input } request = (⟨1, "", [], some failure⟩, { world with input }) ∧
        ∀ errors, (runIn { world with input } request).1.Prints errors ↔
          errors = "error: " ++ failure.message ++ "\n" := by
  have refused : ∃ failure, Refused world request failure := by
    by_cases misconfigured : ∃ failure, Misconfigured world request failure
    · obtain ⟨failure, misconfigured⟩ := misconfigured
      exact ⟨failure, .config misconfigured⟩
    · obtain ⟨why, nothing⟩ := exists_firstNothing_iff.2 (h.resolve_left misconfigured)
      exact ⟨.unresolved why, .inputs (not_exists.1 misconfigured) nothing⟩
  obtain ⟨failure, refused⟩ := refused
  refine ⟨failure, ?_, fun input => ?_⟩
  · cases refused with
    | config misconfigured => exact .inl misconfigured
    | inputs configured nothing => exact .inr ⟨configured, _, rfl, nothing⟩
  · have outcome : runIn { world with input } request = (.ofFailure [] failure, { world with input }) := by
      rw [runIn, run, run_bind, prepare_of_refused (refused.withInput input)]
      rfl
    refine ⟨outcome, fun errors => ?_⟩
    rw [outcome]
    refine (@Outcome.prints_iff_of_length_le_one (.ofFailure [] failure) errors (Nat.zero_le 1)).trans ?_
    rw [Outcome.errors_ofFailure_nil]

/-- A disk with an object in a file and a directory that cannot be listed, and another object to be read. -/
def refusingWorld : World where
  disk.entries := [(["x"], .file (.text "\x7b\x7d")), (["e"], .directory)]
  disk.unlisted := [(["e"], .denied)]
  input := .text "\x7b\x7d"

/-- Asks for both objects and for two patterns, of which one is none and the other matches nothing, the output
going into a new directory. -/
def refusedRequest : Request := ⟨.both, ["-", "x", "[", "y*"], {}, none, {}, some "d/o"⟩

/-- The first pattern is reported, also if it is the directory that is at fault, and with a configuration that
is not there the configuration. -/
theorem runIn_refused_thrice :
    FindsNothing refusingWorld "[" (.noPattern ⟨.unclosedRange, 0⟩) ∧
    runIn refusingWorld refusedRequest =
      (⟨1, "", [], some (.unresolved (.noPattern ⟨.unclosedRange, 0⟩))⟩, refusingWorld) ∧
    (runIn refusingWorld { refusedRequest with inputs := ["x", "/e/*", "["] }).1.Prints
      ("error: failed to resolve input file paths: attempting to read `/e` resulted in an error: " ++
        "Permission denied (os error 13)\n") ∧
    runIn refusingWorld { refusedRequest with config? := some "c" } =
      (⟨1, "", [], some (.configUnreadable "c" .notFound)⟩, refusingWorld) := by
  have nothing : FindsNothing refusingWorld "[" (.noPattern ⟨.unclosedRange, 0⟩) := .noPattern (by decide) (by cbv)
  have first {inputs : List String} {why : Unresolved}
      (resolved : ((resolve host inputs).run refusingWorld).1 = .error why) (bad : "[" ∈ inputs) :
      runIn refusingWorld { refusedRequest with inputs } =
        (⟨1, "", [], some (.unresolved why)⟩, refusingWorld) ∧
      ∀ errors, (runIn refusingWorld { refusedRequest with inputs }).1.Prints errors ↔
        errors = "error: " ++ (Failure.unresolved why).message ++ "\n" := by
    obtain ⟨failure, reason, outcome⟩ :=
      @runIn_refused refusingWorld { refusedRequest with inputs } (.inr ⟨"[", bad, _, nothing⟩)
    rcases reason with misconfigured | ⟨-, own, rfl, first⟩
    · cases misconfigured with
      | unreadable given _ => cases given
      | rejected given _ _ => cases given
    · obtain rfl : why = own := Except.error.inj (resolved.symm.trans (resolve_eq_error_iff.2 first))
      exact outcome refusingWorld.input
  refine ⟨nothing, (first (by cbv) (by decide)).1, ?_, ?_⟩
  · have stopped : ((resolve host ["x", "/e/*", "["]).run refusingWorld).1 =
        .error (.unlisted ⟨"/e", .denied⟩) := by cbv
    exact ((first stopped (by decide)).2 _).2 (by decide +kernel)
  · have read : refusingWorld.disk.readText "c" = .error .notFound := by cbv
    have misconfigured : Misconfigured refusingWorld { refusedRequest with config? := some "c" }
        (.configUnreadable "c" .notFound) := .unreadable rfl read
    obtain ⟨failure, reason, outcome⟩ := runIn_refused (.inl ⟨_, misconfigured⟩)
    rcases reason with reported | ⟨configured, -⟩
    · obtain rfl : Failure.configUnreadable "c" .notFound = failure :=
        Except.error.inj ((loadConfig_eq_error_iff.2 misconfigured).symm.trans (loadConfig_eq_error_iff.2 reported))
      exact (outcome refusingWorld.input).1
    · exact absurd misconfigured (configured _)

end TypeSketch.Command
