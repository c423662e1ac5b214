import TypeSketch.Files.Disk

/-!
# Disks after a write

* `pieces_of_name`, `pieces_of_file` : the pieces of a path with a last name, and of one that names a file;
* `Keeps` : a disk on which nothing has gone, so that the ways over it are still there;
* `makeDirectory_eq_ok`, `writeText_eq_ok_iff` : what making a directory and writing a file do;
* `readText_of_writeText` : a file holds the text that was written into it.
-/

namespace TypeSketch

theorem bind_eq_ok {ε α β : Type} {x : Except ε α} {f : α → Except ε β} {b : β} (h : x >>= f = .ok b) :
    ∃ a, x = .ok a ∧ f a = .ok b := by
  cases x with
  | error e => cases h
  | ok a => exact ⟨a, rfl, h⟩

/-! ## The last piece of a path -/

theorem Text.eq_nil_or_ends_of_piecesFrom {separator : Char} {piece s : List Char}
    (h : (Text.piecesFrom separator piece s).getLast? = some []) :
    piece = [] ∧ s = [] ∨ s.getLast? = some separator := by
  induction s generalizing piece with
  | nil =>
    have empty : piece.reverse = [] := by simpa [Text.piecesFrom] using h
    exact .inl ⟨List.reverse_eq_nil_iff.1 empty, rfl⟩
  | cons c rest ih =>
    right
    rw [Text.piecesFrom] at h
    split at h
    · next same =>
      subst same
      rw [List.getLast?_cons_of_ne_nil (Text.piecesFrom_ne_nil c [] rest)] at h
      rcases ih h with ⟨-, rfl⟩ | ends
      · rfl
      · rw [List.getLast?_cons, ends]; rfl
    · rcases ih h with ⟨piece, -⟩ | ends
      · cases piece
      · rw [List.getLast?_cons, ends]; rfl

theorem Path.ends_of_pieces {path : String} (nonempty : path ≠ "") (h : (Path.pieces path).getLast? = some "") :
    path.endsWith "/" = true := by
  have last : (Text.pieces '/' path.toList).getLast? = some [] := by
    rw [Path.pieces, List.getLast?_map, Option.map_eq_some_iff] at h
    obtain ⟨last, hlast, empty⟩ := h
    rw [hlast, String.ofList_eq_empty_iff.1 empty]
  rcases Text.eq_nil_or_ends_of_piecesFrom last with ⟨-, empty⟩ | ends
  · exact absurd (String.toList_eq_nil_iff.1 empty) nonempty
  · obtain ⟨before, chars⟩ := List.getLast?_eq_some_iff.1 ends
    rw [String.endsWith_eq_endsWith_toSlice, String.Slice.endsWith_string_iff, String.copy_toSlice]
    exact ⟨before, chars.symm⟩

namespace Disk

/-- A path with a last name ends in that name, and in slashes after it. -/
theorem pieces_of_name {path name : String} (named : (ending path).name? = some name) :
    ∃ empties, Path.pieces path = (ending path).before ++ name :: empties ∧ (∀ piece ∈ empties, piece = "") ∧
      Path.isIdle name = false ∧ name ≠ ".." := by
  have whole := @List.takeWhile_append_dropWhile _ String.isEmpty (Path.pieces path).reverse
  have skipped : ∀ piece ∈ (Path.pieces path).reverse.takeWhile String.isEmpty, piece = "" := fun piece skipped =>
    String.isEmpty_iff.1 (List.all_eq_true.1 List.all_takeWhile piece skipped)
  cases kept : (Path.pieces path).reverse.dropWhile String.isEmpty with
  | nil => simp [ending, kept] at named
  | cons last before =>
    have notEmpty : last ≠ "" := by
      have head := @List.head_dropWhile_not _ String.isEmpty (Path.pieces path).reverse (by simp [kept])
      simpa [kept] using head
    simp only [ending, kept] at named ⊢
    split at named
    · cases named
    · next plain =>
      obtain rfl := Option.some.inj named
      rw [not_or] at plain
      refine ⟨((Path.pieces path).reverse.takeWhile String.isEmpty).reverse, ?_,
        fun piece later => skipped piece (List.mem_reverse.1 later), by simp [Path.isIdle, notEmpty, plain.1], plain.2⟩
      rw [kept] at whole
      have parts := congrArg List.reverse whole
      rw [List.reverse_reverse, List.reverse_append, List.reverse_cons, List.append_assoc] at parts
      exact parts.symm

/-- A path that names a file ends in the name. -/
theorem pieces_of_file {path name : String} (named : (ending path).name? = some name)
    (notSlash : (ending path).slash = false) :
    Path.pieces path = (ending path).before ++ [name] ∧ Path.isIdle name = false ∧ name ≠ ".." := by
  obtain ⟨empties, whole, empty, notIdle, notUp⟩ := pieces_of_name named
  have notEnds : path.endsWith "/" = false := by
    rw [← notSlash, ending]
    split <;> rfl
  have nonempty : path ≠ "" := by
    rintro rfl
    cases named
  cases last : empties.getLast? with
  | none =>
    obtain rfl := List.getLast?_eq_none_iff.1 last
    exact ⟨whole, notIdle, notUp⟩
  | some piece =>
    have ends : (Path.pieces path).getLast? = some "" := by
      rw [whole, List.getLast?_append, List.getLast?_cons, last, empty piece (List.mem_of_getLast? last)]
      rfl
    rw [Path.ends_of_pieces nonempty ends] at notEnds
    cases notEnds

/-! ## Ways -/

/-- What a piece of a path can do: stay, go up, or go down to an entry that is there. -/
theorem step_eq_ok_iff {disk : Disk} {place next : Place} {piece : String} :
    disk.step place piece = .ok next ↔ disk.find? place = some .directory ∧
      (Path.isIdle piece = true ∧ next = place ∨
        Path.isIdle piece = false ∧ piece = ".." ∧ next = place.dropLast ∨
        Path.isIdle piece = false ∧ piece ≠ ".." ∧ piece.utf8ByteSize ≤ maxName ∧
          (disk.find? (place ++ [piece])).isSome = true ∧ next = place ++ [piece]) := by
  unfold step
  by_cases directory : disk.find? place = some .directory
  · rw [if_neg (not_not_intro directory)]
    cases idle : Path.isIdle piece
    · by_cases up : piece = ".."
      · simp [directory, up, @eq_comm Place next]
      · by_cases short : piece.utf8ByteSize ≤ maxName
        · by_cases there : (disk.find? (place ++ [piece])).isSome = true
          · simp [directory, up, there, short, Nat.not_lt.2 short, @eq_comm Place next]
          · simp [directory, up, there, Nat.not_lt.2 short]
        · simp [directory, up, short, Nat.lt_of_not_le short]
    · simp [directory, @eq_comm Place next]
  · rw [if_pos directory]
    simp [directory]

/-- What was put below the root stands there, and nothing else has changed. -/
theorem find?_put_of_ne_nil {disk : Disk} {place : Place} (below : place ≠ []) (entry : Entry) (other : Place) :
    (disk.put place entry).find? other = if place = other then some entry else disk.find? other := by
  by_cases root : other = []
  · subst root
    rw [if_neg below]
    rfl
  · rw [find?_put _ _ _ _ root]

/-- Whatever was there still is, and every directory is still a directory: the ways over the disk before
are ways over the disk after. -/
structure Keeps (before after : Disk) : Prop where
  here : after.here = before.here
  directory : ∀ {place}, before.find? place = some .directory → after.find? place = some .directory
  present : ∀ {place}, (before.find? place).isSome = true → (after.find? place).isSome = true

/-- An entry that takes the place of no directory is in nobody's way. -/
theorem keeps_put {disk : Disk} {place : Place} (entry : Entry) (notDirectory : disk.find? place ≠ some .directory) :
    Keeps disk (disk.put place entry) := by
  have below : place ≠ [] := by
    rintro rfl
    exact notDirectory rfl
  refine ⟨rfl, fun {other} directory => ?_, fun {other} there => ?_⟩
  · have apart : place ≠ other := by
      rintro rfl
      exact notDirectory directory
    rw [find?_put_of_ne_nil below, if_neg apart, directory]
  · rw [find?_put_of_ne_nil below]
    split
    · rfl
    · exact there

namespace Keeps

variable {before after : Disk}

theorem step {place next : Place} {piece : String} (keeps : Keeps before after)
    (h : before.step place piece = .ok next) : after.step place piece = .ok next := by
  obtain ⟨directory, moves⟩ := step_eq_ok_iff.1 h
  refine step_eq_ok_iff.2 ⟨keeps.directory directory, ?_⟩
  rcases moves with idle | up | ⟨notIdle, notUp, short, there, next⟩
  · exact .inl idle
  · exact .inr (.inl up)
  · exact .inr (.inr ⟨notIdle, notUp, short, keeps.present there, next⟩)

theorem walk {place target : Place} {pieces : List String} (keeps : Keeps before after)
    (h : before.walk place pieces = .ok target) : after.walk place pieces = .ok target := by
  induction pieces generalizing place with
  | nil => exact h
  | cons piece rest ih =>
    rw [Disk.walk] at h
    split at h
    · next step =>
      rw [Disk.walk, keeps.step step]
      exact ih h
    · cases h

theorem locate {path : String} {place : Place} (keeps : Keeps before after) (h : before.locate path = .ok place) :
    after.locate path = .ok place := by
  obtain ⟨⟨⟩, checked, walked⟩ := bind_eq_ok h
  have start : after.start path = before.start path := by rw [Disk.start, Disk.start, keeps.here]
  rw [Disk.locate, checked, start]
  exact keeps.walk walked

end Keeps

theorem walk_append {disk : Disk} {place middle : Place} {before : List String}
    (h : disk.walk place before = .ok middle) (pieces : List String) :
    disk.walk place (before ++ pieces) = disk.walk middle pieces := by
  induction before generalizing place with
  | nil =>
    obtain rfl := Except.ok.inj h
    rfl
  | cons piece rest ih =>
    rw [walk] at h
    rw [List.cons_append, walk]
    split at h
    · next step => exact ih h
    · cases h

/-- Pieces that stand for the directory they start from lead nowhere else. -/
theorem walk_idle {disk : Disk} {place : Place} {pieces : List String}
    (directory : disk.find? place = some .directory) (idle : ∀ piece ∈ pieces, Path.isIdle piece = true) : disk.walk place pieces = .ok place := by
  induction pieces with
  | nil => rfl
  | cons piece rest ih =>
    rw [walk, step_eq_ok_iff.2 ⟨directory, .inl ⟨idle piece List.mem_cons_self, rfl⟩⟩]
    exact ih fun next later => idle next (List.mem_cons_of_mem _ later)

/-! ## New directories and files -/

/-- What can stand below a directory can be gone to once it is put there. -/
theorem step_put {disk : Disk} {place : Place} {name : String} (entry : Entry)
    (directory : disk.find? place = some .directory) (notIdle : Path.isIdle name = false) (notUp : name ≠ "..")
    (short : name.utf8ByteSize ≤ maxName) :
    (disk.put (place ++ [name]) entry).step place name = .ok (place ++ [name]) := by
  have below : place ++ [name] ≠ [] := by simp
  have apart : place ++ [name] ≠ place := by simp
  refine step_eq_ok_iff.2 ⟨?_, .inr (.inr ⟨notIdle, notUp, short, ?_, rfl⟩)⟩
  · rw [find?_put_of_ne_nil below, if_neg apart, directory]
  · rw [find?_put_of_ne_nil below, if_pos rfl]
    rfl

theorem above_eq_ok_iff {disk : Disk} {path : String} {place : Place} :
    disk.above path = .ok place ↔ checkPath path = .ok () ∧
      disk.walk (disk.start path) (ending path).before = .ok place ∧ disk.find? place = some .directory := by
  unfold above
  constructor
  · intro h
    obtain ⟨⟨⟩, checked, h⟩ := bind_eq_ok h
    obtain ⟨place', walked, h⟩ := bind_eq_ok h
    split at h
    · next directory =>
      obtain rfl := Except.ok.inj h
      exact ⟨checked, walked, directory⟩
    · cases h
  · rintro ⟨checked, walked, directory⟩
    simp only [checked, walked, bind, Except.bind, directory, if_true]

/-- What making a directory does: it puts one below a directory that was there, where nothing was, and
the path leads to it. -/
theorem makeDirectory_eq_ok {disk made : Disk} {path : String} (h : disk.makeDirectory path = .ok made) :
    ∃ place, place ≠ [] ∧ disk.find? place = none ∧ made = disk.put place .directory ∧
      made.locate path = .ok place := by
  obtain ⟨place, above, h⟩ := bind_eq_ok h
  obtain ⟨checked, walked, directory⟩ := above_eq_ok_iff.1 above
  split at h
  · cases h
  · next name named =>
    split at h
    · cases h
    · next short =>
      split at h
      · cases h
      · next absent =>
        obtain rfl := Except.ok.inj h
        have below : place ++ [name] ≠ [] := by simp
        have absent : disk.find? (place ++ [name]) = none := by simpa using absent
        obtain ⟨empties, whole, empty, notIdle, notUp⟩ := pieces_of_name named
        refine ⟨place ++ [name], below, absent, rfl, ?_⟩
        have keeps : Keeps disk (disk.put (place ++ [name]) .directory) := keeps_put _ (by rw [absent]; simp)
        have there : (disk.put (place ++ [name]) .directory).find? (place ++ [name]) = some .directory := by
          rw [find?_put_of_ne_nil below, if_pos rfl]
        rw [locate, checked, whole]
        refine (walk_append (keeps.walk walked) _).trans ?_
        rw [walk, step_put _ directory notIdle notUp (Nat.not_lt.1 short)]
        exact walk_idle there fun piece later => by rw [empty piece later]; rfl

/-- The path names a file at a place, and there can be one. -/
structure Writable (disk : Disk) (path : String) (place : Place) : Prop where
  named : ∃ directory name, disk.above path = .ok directory ∧ (ending path).name? = some name ∧
    name.utf8ByteSize ≤ maxName ∧ place = directory ++ [name]
  notSlash : (ending path).slash = false
  notDirectory : disk.find? place ≠ some .directory

/-- What a write does: it puts a file where the path names one. -/
theorem writeText_eq_ok_iff {disk written : Disk} {path text : String} :
    disk.writeText path text = .ok written ↔
      ∃ place, disk.Writable path place ∧ written = disk.put place (.file (.text text)) := by
  unfold writeText
  constructor
  · intro h
    obtain ⟨directory, above, h⟩ := bind_eq_ok h
    split at h
    · cases h
    · next name named =>
      split at h
      · cases h
      · next notSlash =>
        split at h
        · cases h
        · next short =>
          split at h
          · cases h
          · next notDirectory =>
            exact ⟨_, ⟨⟨directory, name, above, named, Nat.not_lt.1 short, rfl⟩, Bool.eq_false_iff.2 notSlash,
              notDirectory⟩, (Except.ok.inj h).symm⟩
  · rintro ⟨_, ⟨⟨directory, name, above, named, short, rfl⟩, notSlash, notDirectory⟩, rfl⟩
    simp only [above, bind, Except.bind, named, notSlash, Bool.false_eq_true, if_false, Nat.not_lt.2 short,
      notDirectory]

namespace Writable

variable {disk : Disk} {path : String} {place : Place}

theorem below (writable : disk.Writable path place) : place ≠ [] := by
  obtain ⟨directory, name, -, -, -, rfl⟩ := writable.named
  simp

theorem path_ne_empty (writable : disk.Writable path place) : path ≠ "" := by
  rintro rfl
  obtain ⟨directory, name, above, -⟩ := writable.named
  cases (above_eq_ok_iff.1 above).1

/-- The path leads to a file that is put where it names one. -/
theorem locate_put (writable : disk.Writable path place) (content : Content) :
    (disk.put place (.file content)).locate path = .ok place := by
  obtain ⟨⟨directory, name, above, named, short, rfl⟩, notSlash, notDirectory⟩ := writable
  obtain ⟨checked, walked, there⟩ := above_eq_ok_iff.1 above
  obtain ⟨whole, notIdle, notUp⟩ := pieces_of_file named notSlash
  rw [locate, checked, whole]
  refine (walk_append ((keeps_put _ notDirectory).walk walked) _).trans ?_
  rw [walk, step_put _ there notIdle notUp short]
  rfl

end Writable

/-! ## Reading what was written -/

theorem readText_eq_ok {disk : Disk} {path text : String} {place : Place} (located : disk.locate path = .ok place)
    (file : disk.find? place = some (.file (.text text))) : disk.readText path = .ok text := by
  unfold readText
  simp only [located, file, bind, Except.bind, Content.read]

/-- **A file holds the text** that was written into it. -/
theorem readText_of_writeText {disk written : Disk} {path text : String}
    (h : disk.writeText path text = .ok written) : written.readText path = .ok text := by
  obtain ⟨place, writable, rfl⟩ := writeText_eq_ok_iff.1 h
  exact readText_eq_ok (writable.locate_put _) (by rw [find?_put_of_ne_nil writable.below, if_pos rfl])

end Disk

end TypeSketch
