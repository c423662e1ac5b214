import TypeSketch.Files.Path

/-!
# Disks

* `FileError` : why a file cannot be used, with its wording;
* `Entry` : a directory, or a file and its content;
* `Disk` : the entries by their places, the place that paths start from, and the directories that cannot be
  listed;
* `Disk.locate` : the place a path leads to;
* `Disk.readText`, `Disk.children` : the content of a file and the entries of a directory;
* `Disk.makeDirectory`, `Disk.writeText` : the disk with a new directory, or with a file written.
-/

namespace TypeSketch

/-! ## Errors -/

/-- Why a file cannot be used. -/
inductive FileError where
  | notFound
  | denied
  | alreadyExists
  | notDirectory
  | isDirectory
  | nameTooLong
  /-- The path holds the character that ends texts of the system. -/
  | endInPath
  /-- The content is not the UTF-8 form of a text. -/
  | notText
  | other (wording : String)
deriving DecidableEq, Repr

/-- The wording of an error. -/
def FileError.message : FileError → String
  | .notFound => "No such file or directory (os error 2)"
  | .denied => "Permission denied (os error 13)"
  | .alreadyExists => "File exists (os error 17)"
  | .notDirectory => "Not a directory (os error 20)"
  | .isDirectory => "Is a directory (os error 21)"
  | .nameTooLong => "File name too long (os error 36)"
  | .endInPath => "file name contained an unexpected NUL byte"
  | .notText => "stream did not contain valid UTF-8"
  | .other wording => wording

/-! ## Entries -/

/-- The content of a file. -/
inductive Content where
  | text (s : String)
  /-- Bytes that are not the UTF-8 form of a text. -/
  | notText
deriving DecidableEq, Repr

/-- The text of a content. -/
def Content.read : Content → Except FileError String
  | .text s => .ok s
  | .notText => .error .notText

/-- What stands at a place. -/
inductive Entry where
  | directory
  | file (content : Content)
deriving DecidableEq, Repr

/-- The names on the way from the root. -/
abbrev Place := List String

/-- The entries of a disk, and the directory that paths start from. -/
structure Disk where
  here : Place := []
  entries : List (Place × Entry) := []
  /-- The directories whose entries cannot be listed, and why. -/
  unlisted : List (Place × FileError) := []
deriving Repr

/-- An entry of a directory as a listing shows it. -/
structure Child where
  name : String
  isDirectory : Bool
deriving DecidableEq, Repr

namespace Disk

/-- What stands at a place. The root is always a directory. -/
def find? (disk : Disk) (place : Place) : Option Entry :=
  if place.isEmpty then some .directory else (disk.entries.find? fun e => e.1 = place).map Prod.snd

/-- Entries with one more, in place of the one that stood there. -/
def putEntry (place : Place) (entry : Entry) : List (Place × Entry) → List (Place × Entry)
  | [] => [(place, entry)]
  | e :: rest => if e.1 = place then (place, entry) :: rest else e :: putEntry place entry rest

/-- The disk with an entry at a place. -/
def put (disk : Disk) (place : Place) (entry : Entry) : Disk :=
  { disk with entries := putEntry place entry disk.entries }

theorem find?_putEntry (place other : Place) (entry : Entry) (entries : List (Place × Entry)) :
    ((putEntry place entry entries).find? fun e => e.1 = other).map Prod.snd =
      if place = other then some entry else (entries.find? fun e => e.1 = other).map Prod.snd := by
  induction entries with
  | nil => by_cases h : place = other <;> simp [putEntry, h]
  | cons e rest ih =>
    by_cases he : e.1 = place
    · by_cases h : place = other <;> simp [putEntry, he, h]
    · by_cases h : place = other
      · subst h
        simp [putEntry, he, ih]
      · by_cases ho : e.1 = other <;> simp_all [putEntry]

/-- What was put at a place stands there, and nothing else has changed. -/
theorem find?_put (disk : Disk) (place other : Place) (entry : Entry) (h : other ≠ []) :
    (disk.put place entry).find? other = if place = other then some entry else disk.find? other := by
  simp [find?, put, find?_putEntry, h]

/-! ## Paths -/

/-- The number of bytes in the longest name. -/
def maxName : Nat := 255

/-- The number of bytes that no path reaches. -/
def pathLimit : Nat := 4096

/-- Refuses the paths that lead nowhere on any disk. -/
def checkPath (path : String) : Except FileError Unit :=
  if path.toList.contains '\x00' then .error .endInPath
  else if path.isEmpty then .error .notFound
  else if pathLimit ≤ path.utf8ByteSize then .error .nameTooLong
  else .ok ()

/-- The place that a path starts from. -/
def start (disk : Disk) (path : String) : Place := if path.startsWith "/" then [] else disk.here

/-- The place one piece of a path further. Every piece needs a directory to start from, even an
empty one. -/
def step (disk : Disk) (place : Place) (piece : String) : Except FileError Place :=
  if disk.find? place ≠ some .directory then .error .notDirectory
  else if Path.isIdle piece then .ok place
  else if piece = ".." then .ok place.dropLast
  else if maxName < piece.utf8ByteSize then .error .nameTooLong
  else if (disk.find? (place ++ [piece])).isSome then .ok (place ++ [piece])
  else .error .notFound

/-- The place some pieces of a path further. -/
def walk (disk : Disk) (place : Place) : List String → Except FileError Place
  | [] => .ok place
  | piece :: rest =>
    match disk.step place piece with
    | .ok next => walk disk next rest
    | .error e => .error e

/-- The place that a path leads to. -/
def locate (disk : Disk) (path : String) : Except FileError Place := do
  checkPath path
  disk.walk (disk.start path) (Path.pieces path)

/-- What stands where a path leads. -/
def lookup? (disk : Disk) (path : String) : Option Entry := (disk.locate path).toOption.bind disk.find?

/-! ## Reading -/

/-- Whether a path leads somewhere. -/
def exists? (disk : Disk) (path : String) : Bool := (disk.lookup? path).isSome

/-- Whether a path leads to a directory. -/
def isDirectory (disk : Disk) (path : String) : Bool := disk.lookup? path = some .directory

/-- An entry as an entry of a directory, if it is one. -/
def childIn? (place : Place) (e : Place × Entry) : Option Child :=
  match e.1.getLast? with
  | some name => if e.1.dropLast = place then some ⟨name, e.2 = .directory⟩ else none
  | none => none

/-- The entries of the directory that a path leads to, in the order of the code points of their names. -/
def children (disk : Disk) (path : String) : Except FileError (List Child) := do
  let place ← disk.locate path
  if disk.find? place ≠ some .directory then .error .notDirectory
  else
    match disk.unlisted.lookup place with
    | some e => .error e
    | none => .ok ((disk.entries.filterMap (childIn? place)).mergeSort fun a b => !(b.name < a.name))

/-- The text of the file that a path leads to. -/
def readText (disk : Disk) (path : String) : Except FileError String := do
  match disk.find? (← disk.locate path) with
  | some (.file content) => content.read
  | some .directory => .error .isDirectory
  | none => .error .notFound

/-! ## Writing -/

/-- The last name of a path, and whether a slash follows it. There is none at the end of a path that
means a directory by itself. -/
structure Ending where
  before : List String
  name? : Option String
  slash : Bool

/-- The end of a path. -/
def ending (path : String) : Ending :=
  let slash := path.endsWith "/"
  match (Path.pieces path).reverse.dropWhile String.isEmpty with
  | [] => ⟨[], none, slash⟩
  | last :: before => ⟨before.reverse, if last = "." ∨ last = ".." then none else some last, slash⟩

/-- The directory in which a path ends. -/
def above (disk : Disk) (path : String) : Except FileError Place := do
  checkPath path
  let place ← disk.walk (disk.start path) (ending path).before
  if disk.find? place = some .directory then .ok place else .error .notDirectory

/-- The disk with a new directory. -/
def makeDirectory (disk : Disk) (path : String) : Except FileError Disk := do
  let place ← disk.above path
  match (ending path).name? with
  | none => .error .alreadyExists
  | some name =>
    if maxName < name.utf8ByteSize then .error .nameTooLong
    else if (disk.find? (place ++ [name])).isSome then .error .alreadyExists
    else .ok (disk.put (place ++ [name]) .directory)

/-- The disk with a text in a file, which is made if it is not there. -/
def writeText (disk : Disk) (path text : String) : Except FileError Disk := do
  let place ← disk.above path
  match (ending path).name? with
  | none => .error .isDirectory
  | some name =>
    if (ending path).slash then .error .isDirectory
    else if maxName < name.utf8ByteSize then .error .nameTooLong
    else if disk.find? (place ++ [name]) = some .directory then .error .isDirectory
    else .ok (disk.put (place ++ [name]) (.file (.text text)))

end Disk

end TypeSketch
