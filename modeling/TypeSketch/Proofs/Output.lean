import TypeSketch.Proofs.Arguments
import TypeSketch.Proofs.Inputs

/-!
# Output into a file

* `Disk.Adds`, `World.AddsOnly` : a disk to which directories were added on the way to some paths and nothing
  else, and the actions that do no more than that;
* `Disk.WrittenTo` : a disk on which a text was written into the file that a path leads to;
* `writtenTo_of_writeFile`, `writeFile_eq_ok_of_disk` : writing a file changes no other, and can be done or not
  whatever its text is;
* `disk_prepare` : a run changes no file before it writes its output;
* `runIn_output` : a run whose output goes into a file, by the run that prints it.
-/

namespace TypeSketch

namespace Disk

/-! ## Directories that are added -/

/-- All that sets a disk apart from the one before is directories where nothing was, to which some of the
paths lead. -/
structure Adds (paths : List String) (before after : Disk) : Prop where
  here : after.here = before.here
  unlisted : after.unlisted = before.unlisted
  others : ∀ place, after.find? place = before.find? place ∨
    before.find? place = none ∧ after.find? place = some .directory ∧ ∃ path ∈ paths, after.locate path = .ok place

namespace Adds

variable {paths others : List String} {a b c : Disk}

theorem refl (paths : List String) (disk : Disk) : Adds paths disk disk := ⟨rfl, rfl, fun _ => .inl rfl⟩

theorem keeps (h : Adds paths a b) : Keeps a b where
  here := h.here
  directory := fun {place} directory => by
    rcases h.others place with same | ⟨absent, -, -⟩
    · rw [same, directory]
    · rw [absent] at directory
      cases directory
  present := fun {place} there => by
    rcases h.others place with same | ⟨-, directory, -⟩
    · rw [same, there]
    · rw [directory]
      rfl

theorem mono (h : Adds paths a b) (more : paths ⊆ others) : Adds others a b where
  here := h.here
  unlisted := h.unlisted
  others place := (h.others place).imp_right fun ⟨absent, directory, path, mem, leads⟩ =>
    ⟨absent, directory, path, more mem, leads⟩

theorem trans (h : Adds paths a b) (h' : Adds paths b c) : Adds paths a c := by
  -- What was added first is still there, and the way to it too.
  refine ⟨h'.here.trans h.here, h'.unlisted.trans h.unlisted, fun place => ?_⟩
  rcases h'.others place with same | ⟨absent, directory, path, mem, leads⟩
  · rw [same]
    exact (h.others place).imp_right fun ⟨absent, directory, path, mem, leads⟩ =>
      ⟨absent, directory, path, mem, h'.keeps.locate leads⟩
  · rcases h.others place with same | ⟨-, there, -⟩
    · exact .inr ⟨same ▸ absent, directory, path, mem, leads⟩
    · rw [absent] at there
      cases there

theorem makeDirectory {path : String} (h : a.makeDirectory path = .ok b) : Adds [path] a b := by
  obtain ⟨place, below, absent, rfl, leads⟩ := makeDirectory_eq_ok h
  refine ⟨rfl, rfl, fun other => ?_⟩
  rw [find?_put_of_ne_nil below]
  split
  · next same => exact .inr ⟨same ▸ absent, rfl, path, List.mem_singleton_self _, same ▸ leads⟩
  · exact .inl rfl

end Adds

end Disk

namespace World

/-- An action works on the disk, and does no more to it than to add directories on the way to some paths. -/
structure AddsOnly (paths : List String) {α : Type} (x : StateM World α) : Prop extends OnDisk x where
  adds : ∀ world, Disk.Adds paths world.disk (x.run world).2.disk

namespace AddsOnly

variable {α β : Type} {paths others : List String}

theorem readsDisk {x : StateM World α} (hx : ReadsDisk x) : AddsOnly paths x where
  toOnDisk := hx.onDisk
  adds world := by
    rw [hx.unchanged]
    exact .refl ..

theorem bind {x : StateM World α} {f : α → StateM World β} (hx : AddsOnly paths x) (hf : ∀ a, AddsOnly paths (f a)) :
    AddsOnly paths (x >>= f) where
  toOnDisk := hx.toOnDisk.bind fun a => (hf a).toOnDisk
  adds world := (hx.adds world).trans ((hf _).adds _)

theorem mono {x : StateM World α} (hx : AddsOnly paths x) (more : paths ⊆ others) : AddsOnly others x where
  toOnDisk := hx.toOnDisk
  adds world := (hx.adds world).mono more

theorem makeDirectory (path : String) : AddsOnly [path] (host.makeDirectory path) where
  toOnDisk := .change fun disk => disk.makeDirectory path
  adds world := by
    cases made : world.disk.makeDirectory path with
    | ok disk =>
      have run : (host.makeDirectory path).run world = (.ok (), { world with disk }) := by
        simp only [host, change, StateT.run, made]
      rw [run]
      exact .makeDirectory made
    | error e =>
      have run : (host.makeDirectory path).run world = (.error e, world) := by
        simp only [host, change, StateT.run, made]
      rw [run]
      exact .refl ..

theorem makeEach (paths : List String) : AddsOnly paths (host.makeEach paths) := by
  induction paths with
  | nil => exact .readsDisk (.pure _)
  | cons path above ih =>
    have own : AddsOnly (path :: above) (host.makeDirectory path) :=
      (makeDirectory path).mono fun _ mem => List.mem_singleton.1 mem ▸ List.mem_cons_self
    have unlessThere (e : FileError) : AddsOnly (path :: above)
        (do return if ← host.isDirectory path then (.ok () : Except FileError Unit) else .error e) :=
      .readsDisk ((ReadsDisk.isDirectory path).bind fun _ => .pure _)
    rw [Host.makeEach]
    split
    · exact .readsDisk (.pure _)
    · refine own.bind fun first => ?_
      split
      · exact .readsDisk (.pure _)
      · refine (ih.mono (List.subset_cons_self ..)).bind fun made => ?_
        split
        · exact .readsDisk (.pure _)
        · refine own.bind fun second => ?_
          split
          · exact .readsDisk (.pure _)
          · exact unlessThere _
      · exact unlessThere _

end AddsOnly

end World

/-- All that sets a disk apart from the one before is a file with a text, to which a path leads, and
directories on the way to it that were missing. -/
structure Disk.WrittenTo (path text : String) (before after : Disk) : Prop where
  here : after.here = before.here
  unlisted : after.unlisted = before.unlisted
  file : ∃ place, after.locate path = .ok place ∧ after.find? place = some (.file (.text text)) ∧
    ∀ other ≠ place, after.find? other = before.find? other ∨
      before.find? other = none ∧ after.find? other = some .directory ∧
        ∃ parent, Path.parent? path = some parent ∧
          ∃ directory ∈ Path.ancestors parent, after.locate directory = .ok other

namespace Command

open World

variable {world after : World} {request : Request} {config : Config} {documents : List Document} {path text : String}

/-! ## Writing a file -/

theorem onDisk_overwrite (path text : String) : OnDisk (overwrite host path text) :=
  .bind (.change fun disk => disk.writeText path text) fun written => by cases written <;> exact .pure _

theorem onDisk_writeFile (path text : String) : OnDisk (writeFile host path text) := by
  unfold writeFile
  cases Path.parent? path with
  | none => exact onDisk_overwrite path text
  | some directory =>
    refine (AddsOnly.makeEach _).toOnDisk.bind fun made => ?_
    cases made with
    | error e => exact .pure _
    | ok _ => exact onDisk_overwrite path text

theorem adds_of_made {made : World} (h : Made world path made) :
    Disk.Adds ((Path.parent? path).elim [] Path.ancestors) world.disk made.disk := by
  unfold Made at h
  cases parent : Path.parent? path with
  | none =>
    simp only [parent] at h
    subst h
    exact .refl ..
  | some directory =>
    simp only [parent] at h
    have adds := (AddsOnly.makeEach (Path.ancestors directory)).adds world
    rw [← Host.makeDirectories, h] at adds
    exact adds

/-- Writing a file changes no other one, and adds the directories that were missing on the way to it. -/
theorem writtenTo_of_writeFile (h : (writeFile host path text).run world = (.ok (), after)) :
    Disk.WrittenTo path text world.disk after.disk := by
  obtain ⟨made, place, parents, writable, rfl⟩ := writeFile_eq_ok_iff.1 h
  have adds := adds_of_made parents
  have keeps := Disk.keeps_put (.file (.text text)) writable.notDirectory
  have found := @Disk.find?_put_of_ne_nil made.disk _ writable.below (.file (.text text))
  refine ⟨adds.here, adds.unlisted, place, writable.locate_put _, by rw [found, if_pos rfl], fun other apart => ?_⟩
  rw [found, if_neg apart.symm]
  refine (adds.others other).imp_right fun ⟨absent, there, directory, mem, leads⟩ => ⟨absent, there, ?_⟩
  cases parent : Path.parent? path with
  | none =>
    rw [parent] at mem
    cases mem
  | some own =>
    rw [parent] at mem
    exact ⟨own, rfl, directory, mem, keeps.locate leads⟩

/-- Whether a file can be written does not depend on its text, nor on anything but the disk. -/
theorem writeFile_eq_ok_of_disk {before : World} {other : String} (disk : world.disk = before.disk)
    (h : ((writeFile host path other).run before).1 = .ok ()) :
    ((writeFile host path text).run world).1 = .ok () := by
  rw [← (onDisk_writeFile path other).result disk] at h
  obtain ⟨made, place, parents, writable, -⟩ := exists_writable h
  rw [writeFile_eq_ok_iff.2 ⟨made, place, parents, writable, rfl⟩]

/-! ## Runs -/

/-- A run changes no file before it writes its output. -/
theorem disk_prepare (h : ((prepare host request).run world).1 = .ok (config, documents)) :
    ((prepare host request).run world).2.disk = world.disk := by
  obtain ⟨loaded, paths, resolved, -⟩ := prepare_eq_ok_iff.1 h
  rw [prepare, run_bind, (readsDisk_loadConfig request).unchanged, loaded]
  dsimp only
  rw [run_bind, loadDocuments, run_bind, (readsDisk_resolve request.inputs).unchanged, resolved]
  dsimp only
  rw [run_bind, readSources_snd]
  exact disk_afterReading ..

/-- A run to the end also comes to the end with its output in a file, if the file can be written. -/
theorem Completes.withOutput (h : Completes world request config documents)
    (writable : ((writeFile host path text).run world).1 = .ok ()) :
    Completes world (request.withOutput path) config documents where
  prepared := h.prepared
  written path' output := by
    obtain rfl := Option.some.inj output
    exact writeFile_eq_ok_of_disk (disk_prepare h.prepared) writable

/-- What a run to the end leaves behind is what there was, and the file it has written. -/
theorem Completes.writtenTo (h : Completes world request config documents) (output : request.output? = some path) :
    Disk.WrittenTo path (declareAll request.blocks config documents).text world.disk (runIn world request).2.disk ∧
      (runIn world request).2.input = ((prepare host request).run world).2.input := by
  have written := h.written path output
  rw [runIn_eq_deliver h.prepared, output, deliver, run_bind, written, ← disk_prepare h.prepared]
  exact ⟨writtenTo_of_writeFile (Prod.ext written rfl), (onDisk_writeFile path _).input _⟩

/-- **A run whose output goes into a file** has the exit code and the reports of the run that prints it,
prints nothing, and leaves in the file what that run prints. No other file changes, whether the file is
one of the inputs or the configuration or neither, and all that is added are the directories that were
missing on the way to it. -/
theorem runIn_output {command : String} {rest : List String} (asked : parse (command :: rest) = .ok request)
    (printed : request.output? = none) (whole : (runIn world request).1.failure? = none)
    (writable : ∃ text, ((writeFile host path text).run world).1 = .ok ()) :
    parse (command :: ("--out=" ++ path) :: rest) = .ok (request.withOutput path) ∧
      (Word.read path = .plain → parse (command :: "--out" :: path :: rest) = .ok (request.withOutput path)) ∧
      (runIn world (request.withOutput path)).1 = { (runIn world request).1 with out := "" } ∧
      (∀ errors, (runIn world (request.withOutput path)).1.Prints errors ↔ (runIn world request).1.Prints errors) ∧
      (runIn world (request.withOutput path)).2.disk.readText path = .ok (runIn world request).1.out ∧
      (runIn world (request.withOutput path)).2.input = (runIn world request).2.input ∧
      (runIn world request).2.disk = world.disk ∧
      Disk.WrittenTo path (runIn world request).1.out world.disk
        (runIn world (request.withOutput path)).2.disk := by
  obtain ⟨config, documents, completes⟩ := failure?_eq_none_iff.1 whole
  obtain ⟨text, writable⟩ := writable
  obtain ⟨_, _, -, named, -⟩ := exists_writable writable
  have withOutput := completes.withOutput writable
  obtain ⟨outcome, file⟩ := withOutput.runIn_written rfl
  obtain ⟨written, input⟩ := withOutput.writtenTo rfl
  have prints := completes.runIn_printed printed
  have leaves : (runIn world request).2 = ((prepare host request).run world).2 := by
    rw [runIn_eq_deliver completes.prepared, printed]
    rfl
  refine ⟨parse_output_attached asked printed named.path_ne_empty,
    parse_output_separate asked printed named.path_ne_empty, ?_, fun errors => ?_, ?_, ?_, ?_, ?_⟩
  · rw [outcome, prints]
    rfl
  · rw [outcome, prints]
    rfl
  · rw [file, prints]
    rfl
  · rw [input, leaves]
    rfl
  · rw [leaves, disk_prepare completes.prepared]
  · rw [prints]
    exact written

/-- A disk with an object in a file. -/
def objectWorld : World where
  disk.entries := [(["x"], .file (.text "\x7b\x7d"))]

/-- Asks for that object. -/
def objectRequest : Request := ⟨.interfaces, ["x"], {}, none, {}, none⟩

/-- The output goes over a missing directory into the file that was read. -/
theorem runIn_output_over_input :
    (runIn objectWorld objectRequest).1 = ⟨0, "interface interfaceName \x7b\n\x7d\n", [], none⟩ ∧
      ((writeFile host "d/../x" "").run objectWorld).1 = .ok () ∧
      parse ["typescript", "--out", "d/../x", "--input", "x"] = .ok (objectRequest.withOutput "d/../x") ∧
      (runIn objectWorld (objectRequest.withOutput "d/../x")).1 = ⟨0, "", [], none⟩ ∧
      (runIn objectWorld (objectRequest.withOutput "d/../x")).2.disk.readText "d/../x" =
        .ok "interface interfaceName \x7b\n\x7d\n" ∧
      Disk.WrittenTo "d/../x" "interface interfaceName \x7b\n\x7d\n" objectWorld.disk
        (runIn objectWorld (objectRequest.withOutput "d/../x")).2.disk := by
  have resolved : (resolve host objectRequest.inputs).run objectWorld = (.ok ["x"], objectWorld) := by cbv
  have read : (readSources host ["x"]).run objectWorld = ([⟨"x", .ok "\x7b\x7d"⟩], objectWorld) := by cbv
  have prepared : ((prepare host objectRequest).run objectWorld).1 = .ok ({}, [⟨"x", .value (.object [])⟩]) := by
    refine prepare_eq_ok_iff.2 ⟨rfl, ["x"], by rw [resolved], ?_⟩
    rw [documentsOf, read, List.flatMap_singleton, Source.documents]
    exact (documents_braces "x").symm
  have completes : Completes objectWorld objectRequest {} [⟨"x", .value (.object [])⟩] :=
    ⟨prepared, fun path output => by cases output⟩
  have tally : declareAll objectRequest.blocks {} [⟨"x", .value (.object [])⟩] =
      ⟨"interface interfaceName \x7b\n\x7d\n", [], true⟩ := by
    have shown : interfaceText {} [] = "interface interfaceName \x7b\n\x7d" := by decide +kernel
    rw [declareAll_eq (.cons (.object _ _) .nil)]
    simp only [objectRequest, List.filterMap_cons, Contribution.text?, Blocks.text, shown, List.filterMap_nil]
    decide +kernel
  have asked : parse ["typescript", "--input", "x"] = .ok objectRequest := by decide +kernel
  have writes : ((writeFile host "d/../x" "").run objectWorld).1 = .ok () := by decide +kernel
  have printed : (runIn objectWorld objectRequest).1 = ⟨0, "interface interfaceName \x7b\n\x7d\n", [], none⟩ := by
    rw [completes.runIn_printed rfl, tally]
    rfl
  obtain ⟨-, separate, outcome, -, file, -, -, others⟩ :=
    runIn_output asked rfl (failure?_eq_none_iff.2 ⟨_, _, completes⟩) ⟨"", writes⟩
  rw [printed] at outcome file others
  exact ⟨printed, writes, separate (by decide), outcome, file, others⟩

end Command

end TypeSketch
