import TypeSketch.Files.Disk

/-!
# Hosts

* `Host` : what a run may ask of the system around it;
* `Host.makeDirectories` : makes a directory and those above it;
* `World` : a disk, and what is still to be read from the standard input;
* `World.host` : the host that such a world is.
-/

namespace TypeSketch

/-- What a run may ask of the system around it. -/
structure Host (m : Type → Type) where
  /-- The text of a file. -/
  readText : String → m (Except FileError String)
  /-- The rest of the standard input. -/
  readInput : m (Except FileError String)
  exists? : String → m Bool
  isDirectory : String → m Bool
  /-- The entries of a directory, in the order of the code points of their names. -/
  children : String → m (Except FileError (List Child))
  makeDirectory : String → m (Except FileError Unit)
  writeText : String → String → m (Except FileError Unit)

namespace Host

variable {m : Type → Type} [Monad m]

/-- Makes the first directory, after those above it where one of them is not there. It is fine for
it to be there already. -/
def makeEach (host : Host m) : List String → m (Except FileError Unit)
  | [] => pure (.ok ())
  | path :: above =>
    let unlessThere (e : FileError) : m (Except FileError Unit) := do
      return if ← host.isDirectory path then .ok () else .error e
    if path.isEmpty then pure (.ok ())
    else do
      match ← host.makeDirectory path with
      | .ok _ => return .ok ()
      | .error .notFound =>
        match ← makeEach host above with
        | .error e => return .error e
        | .ok _ =>
          match ← host.makeDirectory path with
          | .ok _ => return .ok ()
          | .error e => unlessThere e
      | .error e => unlessThere e

/-- Makes a directory, after those above it that are not there. -/
def makeDirectories (host : Host m) (path : String) : m (Except FileError Unit) :=
  host.makeEach (Path.ancestors path)

end Host

/-- A disk, and what is still to be read from the standard input. -/
structure World where
  disk : Disk := {}
  input : Content := .text ""

namespace World

/-- Changes the disk, if that can be done. -/
def change (f : Disk → Except FileError Disk) : StateM World (Except FileError Unit) := fun world =>
  match f world.disk with
  | .ok disk => (.ok (), { world with disk })
  | .error e => (.error e, world)

/-- The host that a world is. Reading the standard input leaves nothing to read. -/
def host : Host (StateM World) where
  readText path := fun world => (world.disk.readText path, world)
  readInput := fun world => (world.input.read, { world with input := .text "" })
  exists? path := fun world => (world.disk.exists? path, world)
  isDirectory path := fun world => (world.disk.isDirectory path, world)
  children path := fun world => (world.disk.children path, world)
  makeDirectory path := change fun disk => disk.makeDirectory path
  writeText path text := change fun disk => disk.writeText path text

end World

end TypeSketch
