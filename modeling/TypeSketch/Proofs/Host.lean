import TypeSketch.Glob.Search

/-!
# Actions in a world

* `World.run_bind` : one action after another;
* `World.ReadsDisk` : the actions that read the disk and nothing else, and change nothing;
* `ReadsDisk.bindExcept`, `ReadsDisk.mapMExcept` : such actions that may fail, one after another;
* `ReadsDisk.search` : a search for paths is such an action;
* `World.OnDisk` : the actions that read and change the disk and nothing else.
-/

namespace TypeSketch.World

variable {α β : Type}

theorem run_bind (x : StateM World α) (f : α → StateM World β) (world : World) :
    (x >>= f).run world = (f (x.run world).1).run (x.run world).2 := rfl

/-! ## Actions that only read the disk -/

/-- An action leaves the world as it is, and its result depends on the disk alone. -/
structure ReadsDisk (x : StateM World α) : Prop where
  unchanged : ∀ world, (x.run world).2 = world
  congr : ∀ {world other : World}, world.disk = other.disk → (x.run world).1 = (x.run other).1

namespace ReadsDisk

theorem pure (a : α) : ReadsDisk (Pure.pure a) := ⟨fun _ => rfl, fun _ => rfl⟩

theorem bind {x : StateM World α} {f : α → StateM World β} (hx : ReadsDisk x) (hf : ∀ a, ReadsDisk (f a)) :
    ReadsDisk (x >>= f) := by
  constructor
  · intro world
    rw [run_bind, (hf _).unchanged, hx.unchanged]
  · intro world other disk
    rw [run_bind, run_bind, hx.unchanged, hx.unchanged, hx.congr disk]
    exact (hf _).congr disk

theorem readText (path : String) : ReadsDisk (host.readText path) :=
  ⟨fun _ => rfl, fun disk => congrArg (Disk.readText · path) disk⟩

theorem exists? (path : String) : ReadsDisk (host.exists? path) :=
  ⟨fun _ => rfl, fun disk => congrArg (Disk.exists? · path) disk⟩

theorem isDirectory (path : String) : ReadsDisk (host.isDirectory path) :=
  ⟨fun _ => rfl, fun disk => congrArg (Disk.isDirectory · path) disk⟩

theorem children (path : String) : ReadsDisk (host.children path) :=
  ⟨fun _ => rfl, fun disk => congrArg (Disk.children · path) disk⟩

theorem ite {c : Prop} [Decidable c] {x y : StateM World α} (hx : ReadsDisk x) (hy : ReadsDisk y) :
    ReadsDisk (if c then x else y) := by
  split
  · exact hx
  · exact hy

/-! ## Actions that may fail -/

section

variable {ε : Type}

theorem bindExcept {x : ExceptT ε (StateM World) α} {f : α → ExceptT ε (StateM World) β} (hx : ReadsDisk x.run)
    (hf : ∀ a, ReadsDisk (f a).run) : ReadsDisk (x >>= f).run := by
  rw [ExceptT.run_bind]
  refine hx.bind fun result => ?_
  cases result with
  | error e => exact .pure _
  | ok a => exact hf a

theorem iteExcept {c : Prop} [Decidable c] {x y : ExceptT ε (StateM World) α} (hx : ReadsDisk x.run)
    (hy : ReadsDisk y.run) : ReadsDisk (if c then x else y).run := by
  split
  · exact hx
  · exact hy

/-- An action that is left out in favour of a value, before what goes on with either. -/
theorem orElse {c : Prop} [Decidable c] (a : α) {x : ExceptT ε (StateM World) α}
    {f : α → ExceptT ε (StateM World) β} (hx : ReadsDisk x.run) (hf : ∀ a, ReadsDisk (f a).run) :
    ReadsDisk (if c then x >>= f else Pure.pure a >>= f).run :=
  .iteExcept (hx.bindExcept hf) (.bindExcept (.pure _) hf)

theorem mapMExcept {f : α → ExceptT ε (StateM World) β} (hf : ∀ a, ReadsDisk (f a).run) (list : List α) :
    ReadsDisk (list.mapM f).run := by
  induction list with
  | nil => exact .pure _
  | cons a rest ih =>
    rw [List.mapM_cons]
    exact (hf a).bindExcept fun b => ih.bindExcept fun bs => .pure _

theorem lift {x : StateM World α} (hx : ReadsDisk x) : ReadsDisk (liftM x : ExceptT ε (StateM World) α).run :=
  hx.bind fun _ => .pure _

end

/-! ## Searches -/

theorem list (directory : String) : ReadsDisk (Glob.Query.list host directory).run := by
  refine (children directory).lift.bindExcept fun listed => ?_
  cases listed <;> exact .pure _

theorem searchFrom (onlyDirectories : Bool) (fuel : Nat) (patterns : List Glob.Pattern) (path : String)
    (isDirectory : Bool) :
    ReadsDisk (Glob.Query.searchFrom host onlyDirectories fuel patterns path isDirectory).run := by
  induction fuel generalizing patterns path isDirectory with
  | zero => exact .pure _
  | succ fuel ih =>
    cases patterns with
    | nil =>
      unfold Glob.Query.searchFrom
      exact .pure _
    | cons p rest =>
      unfold Glob.Query.searchFrom
      have onward (next : String) : ReadsDisk (do
          Glob.Query.searchFrom host onlyDirectories fuel rest next (← liftM (host.isDirectory next))).run :=
        (ReadsDisk.isDirectory next).lift.bindExcept fun there => ih rest next there
      split
      · next name _ =>
        have go (next : String) (found : Bool) : ReadsDisk (if found = true then (do
            Glob.Query.searchFrom host onlyDirectories fuel rest next (← liftM (host.isDirectory next)))
            else Pure.pure []).run := .iteExcept (onward next) (.pure _)
        exact .iteExcept (.bindExcept (.pure _) (go _)) ((exists? _).lift.bindExcept (go _))
      · refine .iteExcept ((list path).bindExcept fun listed => ?_) (.pure _)
        refine .bindExcept (.mapMExcept (fun name => onward _) _) fun points => ?_
        refine .bindExcept (.mapMExcept (fun child => .iteExcept ?_ (.iteExcept (ih _ _ _) (.pure _))) _)
          fun others => .pure _
        cases rest.dropWhile Glob.Pattern.isAnyDepth with
        | nil => exact .bindExcept (.pure _) fun here => .orElse [] (ih _ _ _) fun below => .pure _
        | cons q after => exact .orElse [] (ih _ _ _) fun here => .orElse [] (ih _ _ _) fun below => .pure _

theorem search (query : Glob.Query) : ReadsDisk (query.search host) :=
  (isDirectory query.start).bind fun there => searchFrom _ _ _ _ there

end ReadsDisk

/-! ## Actions on the disk -/

/-- An action leaves what is to be read from the standard input, and depends on the disk alone. -/
structure OnDisk (x : StateM World α) : Prop where
  input : ∀ world, (x.run world).2.input = world.input
  result : ∀ {world other : World}, world.disk = other.disk → (x.run world).1 = (x.run other).1
  disk : ∀ {world other : World}, world.disk = other.disk → (x.run world).2.disk = (x.run other).2.disk

theorem ReadsDisk.onDisk {x : StateM World α} (hx : ReadsDisk x) : OnDisk x where
  input world := by rw [hx.unchanged]
  result := hx.congr
  disk h := by rw [hx.unchanged, hx.unchanged, h]

namespace OnDisk

theorem pure (a : α) : OnDisk (Pure.pure a) := (ReadsDisk.pure a).onDisk

theorem bind {x : StateM World α} {f : α → StateM World β} (hx : OnDisk x) (hf : ∀ a, OnDisk (f a)) :
    OnDisk (x >>= f) where
  input world := by rw [run_bind, (hf _).input, hx.input]
  result h := by
    rw [run_bind, run_bind, hx.result h]
    exact (hf _).result (hx.disk h)
  disk h := by
    rw [run_bind, run_bind, hx.result h]
    exact (hf _).disk (hx.disk h)

theorem change (f : Disk → Except FileError Disk) : OnDisk (World.change f) := by
  refine ⟨fun world => ?_, fun h => ?_, fun h => ?_⟩
  · simp only [StateT.run, World.change]
    split <;> rfl
  · simp only [StateT.run, World.change, h]
    split <;> rfl
  · simp only [StateT.run, World.change, h]
    split
    · rfl
    · exact h

end OnDisk

end TypeSketch.World
