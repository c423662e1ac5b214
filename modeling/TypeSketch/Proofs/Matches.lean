import TypeSketch.Proofs.Inputs

/-!
# Patterns and the standard input

Patterns are replaced by the paths that they match before anything is read. A match whose name is a hyphen
is then a path like the hyphen that stands for the standard input.

* `StandsFor`, `resolve_eq_ok_iff` : the paths that an input stands for, and those of all inputs;
* `fileDocuments`, `inputDocuments`, `pathDocuments` : the documents of a file, of the standard input, and of
  whichever a path leads to;
* `documentsOf_eq_flatMap`, `documentsOf_eq_fileDocuments` : the documents of paths, one path after the other;
* `hyphen_mem_iff` : where a hyphen among the paths comes from;
* `loadDocuments_matches` : the documents of inputs.
-/

namespace TypeSketch.Command

open World

variable {world : World} {selection : Selection} {input : String} {inputs paths : List String}

/-! ## Inputs -/

/-- What an input stands for: itself, or what it matches if it is written as a pattern. -/
inductive StandsFor (world : World) : String → List String → Prop
  | literal {input : String} (written : isPattern input = false) : StandsFor world input [input]
  | pattern {input : String} {query : Glob.Query} {paths : List String} (written : isPattern input = true)
    (parsed : Glob.Query.parse input = .ok query) (found : ((query.search host).run world).1 = .ok paths)
    (some : paths ≠ []) : StandsFor world input paths

theorem resolveOne_eq_ok_iff : ((resolveOne host input).run world).1 = .ok paths ↔ StandsFor world input paths := by
  constructor
  · intro h
    unfold resolveOne at h
    split at h
    · next written =>
      cases parsed : Glob.Query.parse input with
      | error mistake => rw [parsed] at h; cases h
      | ok query =>
        rw [parsed] at h
        dsimp only at h
        rw [run_bind] at h
        rcases found : ((query.search host).run world).1 with directory | _ | ⟨path, rest⟩
        · rw [found] at h; cases h
        · rw [found] at h; cases h
        · rw [found] at h
          obtain rfl := Except.ok.inj h
          exact .pattern written parsed found (List.cons_ne_nil _ _)
    · next written =>
      cases h
      exact .literal (Bool.eq_false_iff.2 written)
  · intro h
    unfold resolveOne
    cases h with
    | literal written => rw [written]; rfl
    | pattern written parsed found some =>
      rw [if_pos written, parsed]
      dsimp only
      rw [run_bind, found]
      cases paths with
      | nil => exact absurd rfl some
      | cons path rest => rfl

/-- Inputs stand for what each of them does, one after the other. -/
theorem resolve_eq_ok_iff :
    ((resolve host inputs).run world).1 = .ok paths ↔
      ∃ matched, List.Forall₂ (StandsFor world) inputs matched ∧ paths = matched.flatten := by
  induction inputs generalizing paths with
  | nil =>
    simp only [List.forall₂_nil_left_iff]
    constructor
    · intro h
      exact ⟨[], rfl, (Except.ok.inj h).symm⟩
    · rintro ⟨matched, rfl, rfl⟩
      rfl
  | cons input rest ih =>
    rw [resolve_cons_eq_ok_iff]
    constructor
    · rintro ⟨own, others, first, later, rfl⟩
      obtain ⟨matched, all, rfl⟩ := ih.1 later
      exact ⟨own :: matched, .cons (resolveOne_eq_ok_iff.1 first) all, rfl⟩
    · rintro ⟨matched, all, rfl⟩
      cases all with
      | cons first all =>
        exact ⟨_, _, resolveOne_eq_ok_iff.2 first, ih.2 ⟨_, all, rfl⟩, rfl⟩

theorem StandsFor.unique {own others : List String} (h : StandsFor world input own) (h' : StandsFor world input others) :
    own = others :=
  Except.ok.inj ((resolveOne_eq_ok_iff.2 h).symm.trans (resolveOne_eq_ok_iff.2 h'))

/-- An input is written as a pattern that matches a hyphen. -/
def MatchesHyphen (world : World) (input : String) : Prop :=
  isPattern input = true ∧ ∃ own, StandsFor world input own ∧ "-" ∈ own

theorem StandsFor.hyphen_mem_iff {own : List String} (h : StandsFor world input own) :
    "-" ∈ own ↔ "-" = input ∨ MatchesHyphen world input := by
  constructor
  · intro mem
    cases h with
    | literal written => exact .inl (List.mem_singleton.1 mem)
    | pattern written parsed found some => exact .inr ⟨written, _, .pattern written parsed found some, mem⟩
  · rintro (rfl | ⟨-, others, h', mem⟩)
    · rw [h.unique (.literal rfl)]
      exact List.mem_singleton_self _
    · rw [h.unique h']
      exact mem

/-- A hyphen is among the paths if it is among the inputs, or if a pattern matches it. -/
theorem hyphen_mem_flatten_iff {matched : List (List String)} (h : List.Forall₂ (StandsFor world) inputs matched) :
    "-" ∈ matched.flatten ↔ "-" ∈ inputs ∨ ∃ input ∈ inputs, MatchesHyphen world input := by
  induction h with
  | nil => simp
  | cons first _ ih =>
    rw [List.flatten_cons, List.mem_append, ih, first.hyphen_mem_iff, List.mem_cons, List.exists_mem_cons_iff]
    tauto

/-! ## Documents -/

theorem afterReading_of_files (files : "-" ∉ paths) (world : World) : world.afterReading paths = world := if_neg files

/-- The documents of a file, under its path, or one that says why it cannot be read. -/
def fileDocuments (world : World) (selection : Selection) (path : String) : List Document :=
  match world.disk.readText path with
  | .ok text => selection.documents path text
  | .error error => [⟨path, .failed (.unreadable path error)⟩]

/-- The documents of what is left in the standard input, or one that says why it cannot be read. -/
def inputDocuments (world : World) (selection : Selection) : List Document :=
  match world.input.read with
  | .ok text => selection.documents "<stdin>" text
  | .error error => [⟨"-", .failed (.unreadableInput error)⟩]

/-- The documents of a path, a hyphen leading to the standard input. -/
def pathDocuments (world : World) (selection : Selection) (path : String) : List Document :=
  if path = "-" then inputDocuments world selection else fileDocuments world selection path

theorem documentsOf_path (world : World) (selection : Selection) (path : String) :
    documentsOf world selection [path] = pathDocuments world selection path := by
  rw [documentsOf_singleton, pathDocuments, readSource]
  split
  · next hyphen =>
    have read : (host.readInput).run world = (world.input.read, { world with input := .text "" }) := rfl
    rw [run_bind, read, inputDocuments, hyphen]
    dsimp only
    cases world.input.read <;> rfl
  · have read : (host.readText path).run world = (world.disk.readText path, world) := rfl
    rw [run_bind, read, fileDocuments]
    dsimp only
    cases world.disk.readText path <;> rfl

/-- The documents of paths are those of each path, in a world where the paths before it have been read. -/
theorem documentsOf_eq_flatMap (world : World) (selection : Selection) (paths : List String) :
    documentsOf world selection paths =
      paths.zipIdx.flatMap fun path => pathDocuments (world.afterReading (paths.take path.2)) selection path.1 := by
  induction paths using List.reverseRecOn with
  | nil => rfl
  | append_singleton before path ih =>
    rw [documentsOf_append, documentsOf_path, ih, List.zipIdx_append, List.flatMap_append]
    congr 1
    · refine List.flatMap_congr fun entry mem => ?_
      have inside : entry.2 ≤ before.length := by
        have := List.snd_lt_of_mem_zipIdx mem
        omega
      rw [List.take_append_of_le_length inside]
    · rw [List.zipIdx_singleton, List.flatMap_singleton, Nat.zero_add, List.take_left]

/-- Paths that are no hyphens lead to files, whatever has been read. -/
theorem documentsOf_eq_fileDocuments (files : "-" ∉ paths) (before : List String) :
    documentsOf (world.afterReading before) selection paths = paths.flatMap (fileDocuments world selection) := by
  rw [documentsOf_eq_flatMap]
  conv_rhs => rw [← List.zipIdx_map_fst 0 paths, List.flatMap_map]
  refine List.flatMap_congr fun entry mem => ?_
  have file : entry.1 ≠ "-" := fun hyphen => files (hyphen ▸ List.fst_mem_of_mem_zipIdx mem)
  rw [pathDocuments, if_neg file, fileDocuments, disk_afterReading, disk_afterReading, ← fileDocuments]

/-! ## Runs -/

theorem loadDocuments_eq {request : Request} {matched : List (List String)}
    (h : List.Forall₂ (StandsFor world) request.inputs matched) :
    (loadDocuments host request).run world =
      (.ok (documentsOf world request.selection matched.flatten), world.afterReading matched.flatten) := by
  rw [loadDocuments, run_bind, (readsDisk_resolve request.inputs).unchanged, resolve_eq_ok_iff.2 ⟨matched, h, rfl⟩]
  dsimp only
  rw [run_bind, readSources_snd]
  rfl

/-- **The documents of inputs** are those of every path that they stand for, in the order of the inputs and of
the matches of each, and as often as there are matches. What a pattern matches is a file, whatever it is
named, except for a hyphen: the standard input is read if a hyphen is among the inputs, and also if a pattern
matches one. -/
theorem loadDocuments_matches {request : Request} {matched : List (List String)}
    (h : List.Forall₂ (StandsFor world) request.inputs matched) :
    (loadDocuments host request).run world =
      (.ok (matched.flatten.zipIdx.flatMap fun path =>
          pathDocuments (world.afterReading (matched.flatten.take path.2)) request.selection path.1),
        world.afterReading matched.flatten) ∧
    ("-" ∈ matched.flatten ↔ "-" ∈ request.inputs ∨ ∃ input ∈ request.inputs, MatchesHyphen world input) ∧
    ∀ earlier own later, matched = earlier ++ own :: later → "-" ∉ own →
      ((loadDocuments host request).run world).1 =
        .ok (documentsOf world request.selection earlier.flatten ++
          own.flatMap (fileDocuments world request.selection) ++
          documentsOf (world.afterReading earlier.flatten) request.selection later.flatten) := by
  refine ⟨?_, hyphen_mem_flatten_iff h, ?_⟩
  · rw [loadDocuments_eq h, documentsOf_eq_flatMap]
  · rintro earlier own later rfl files
    rw [loadDocuments_eq h, List.flatten_append, List.flatten_cons, documentsOf_append, documentsOf_append,
      documentsOf_eq_fileDocuments files, afterReading_append, afterReading_of_files files, List.append_assoc]

/-- A file and a directory, which one pattern matches. -/
def matchedWorld : World where
  disk.entries := [(["b"], .directory), (["a"], .file (.text "\x7b\x7d"))]
  input := .text "true"

theorem documents_true (origin : String) : Selection.documents {} origin "true" = [⟨origin, .value (.bool true)⟩] := rfl

/-- The file comes again where its path from the root is matched, and the standard input only where the hyphen
is. -/
theorem loadDocuments_matches_again :
    List.Forall₂ (StandsFor matchedWorld) ["*", "-", "/a*"] [["a", "b"], ["-"], ["/a"]] ∧
    (loadDocuments host ⟨.classes, ["*", "-", "/a*"], {}, none, {}, none⟩).run matchedWorld =
      (.ok [⟨"a", .value (.object [])⟩, ⟨"b", .failed (.unreadable "b" .isDirectory)⟩,
        ⟨"<stdin>", .value (.bool true)⟩, ⟨"/a", .value (.object [])⟩], ⟨matchedWorld.disk, .text ""⟩) := by
  have star : StandsFor matchedWorld "*" ["a", "b"] := resolveOne_eq_ok_iff.1 (by cbv)
  have absolute : StandsFor matchedWorld "/a*" ["/a"] := resolveOne_eq_ok_iff.1 (by cbv)
  have all : List.Forall₂ (StandsFor matchedWorld) ["*", "-", "/a*"] [["a", "b"], ["-"], ["/a"]] :=
    .cons star (.cons (.literal rfl) (.cons absolute .nil))
  have file (before : List String) (path : String) (apart : path ≠ "-")
      (read : matchedWorld.disk.readText path = .ok "\x7b\x7d") :
      pathDocuments (matchedWorld.afterReading before) {} path = [⟨path, .value (.object [])⟩] := by
    rw [pathDocuments, if_neg apart, fileDocuments, disk_afterReading, read]
    exact documents_braces path
  have directory : pathDocuments (matchedWorld.afterReading ["a"]) {} "b" =
      [⟨"b", .failed (.unreadable "b" .isDirectory)⟩] := by
    have read : matchedWorld.disk.readText "b" = .error .isDirectory := by cbv
    rw [pathDocuments, if_neg (by decide), fileDocuments, disk_afterReading, read]
  have input : pathDocuments (matchedWorld.afterReading ["a", "b"]) {} "-" = [⟨"<stdin>", .value (.bool true)⟩] := by
    rw [pathDocuments, if_pos rfl, afterReading_of_files (by decide)]
    exact documents_true "<stdin>"
  obtain ⟨loaded, -⟩ := @loadDocuments_matches matchedWorld ⟨.classes, ["*", "-", "/a*"], {}, none, {}, none⟩ _ all
  refine ⟨all, loaded.trans (congrArg (·, _) (congrArg Except.ok ?_))⟩
  show pathDocuments (matchedWorld.afterReading []) {} "a" ++ (pathDocuments (matchedWorld.afterReading ["a"]) {} "b" ++
    (pathDocuments (matchedWorld.afterReading ["a", "b"]) {} "-" ++
      (pathDocuments (matchedWorld.afterReading ["a", "b", "-"]) {} "/a" ++ []))) = _
  rw [file _ "a" (by decide) (by cbv), directory, input, file _ "/a" (by decide) (by cbv)]
  rfl

/-- A file whose name is a hyphen. -/
def hyphenWorld : World where
  disk.entries := [(["-"], .file (.text "\x7b\x7d"))]
  input := .text "true"

/-- A pattern that matches the file reads the standard input in place of it. -/
theorem loadDocuments_hyphen :
    StandsFor hyphenWorld "*" ["-"] ∧
    (loadDocuments host ⟨.classes, ["*"], {}, none, {}, none⟩).run hyphenWorld =
      (.ok [⟨"<stdin>", .value (.bool true)⟩], ⟨hyphenWorld.disk, .text ""⟩) ∧
    fileDocuments hyphenWorld {} "-" = [⟨"-", .value (.object [])⟩] := by
  have star : StandsFor hyphenWorld "*" ["-"] := resolveOne_eq_ok_iff.1 (by cbv)
  refine ⟨star, ?_, ?_⟩
  · rw [loadDocuments_eq (.cons star .nil)]
    refine congrArg (·, _) (congrArg Except.ok ?_)
    rw [List.flatten_singleton, documentsOf_path, pathDocuments, if_pos rfl]
    exact documents_true "<stdin>"
  · have read : hyphenWorld.disk.readText "-" = .ok "\x7b\x7d" := by cbv
    rw [fileDocuments, read]
    exact documents_braces "-"

end TypeSketch.Command
