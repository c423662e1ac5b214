import TypeSketch.Files.Host
import TypeSketch.Glob.Pattern

/-!
# Searching paths

* `Query` : the directory that a search starts from, and the patterns of the names of a path from there,
  one for every directory on its way;
* `Query.parse` : the query of a text;
* `Unlisted` : a directory that a search cannot look into, with the wording of the error;
* `Query.search` : the paths that a query finds, those of one directory being sorted by name.
-/

namespace TypeSketch.Glob

/-- The patterns of the names of a path from a directory on. -/
structure Query where
  /-- The root, or the directory that paths start from. -/
  start : String
  names : List Pattern
  /-- Whether the path must lead to a directory. -/
  onlyDirectories : Bool
deriving DecidableEq, Repr

/-- A directory whose entries cannot be listed, and why. -/
structure Unlisted where
  directory : String
  error : FileError
deriving DecidableEq, Repr

/-- The wording of a directory that cannot be listed. -/
def Unlisted.message (e : Unlisted) : String :=
  "attempting to read `" ++ e.directory ++ "` resulted in an error: " ++ e.error.message

namespace Query

/-! ## Reading -/

/-- Where the paths of a text start, and the text after that. -/
def splitRoot : List Char → String × List Char
  | '/' :: rest => ("/", rest)
  | s => (".", s)

/-- The pieces of a path, without the empty one after a slash at its end. The empty path is one piece. -/
def namesOf (s : List Char) : List (List Char) :=
  let pieces := Text.pieces '/' s
  if s ≠ [] ∧ pieces.getLast? = some [] then pieces.dropLast else pieces

/-- The query of a text. It must be a pattern as a whole, and so must every name in it. -/
def parse (text : String) : Except Mistake Query := do
  discard (Pattern.parse text.toList)
  let split := splitRoot text.toList
  return ⟨split.1, ← (namesOf split.2).mapM Pattern.parse, text.endsWith "/"⟩

example : (parse "/a/*/").toOption = some ⟨"/", [[.char 'a'], [.anyText]], true⟩ := by cbv

/-! ## Searching -/

variable {m : Type → Type} [Monad m]

/-- The path of a name in a directory. The directory that paths start from is left out. -/
def within (directory name : String) : String :=
  if Path.isHere directory then name else Path.join directory name

/-- The entries that every directory has for itself and the one above it. They are found only by
patterns that start with a point. -/
def pointNames (p : Pattern) : List String :=
  if p.head? = some (.char '.') then ["..", "."].filter fun name => p.accepts name.toList else []

/-- The entries of a directory. -/
def list (host : Host m) (directory : String) : ExceptT Unlisted m (List Child) := do
  match ← host.children directory with
  | .ok children => return children
  | .error error => throw ⟨directory, error⟩

/-- The paths that patterns find from a path on, with at most `fuel` names after it. The search ends at
the first directory on its way that cannot be listed. -/
def searchFrom (host : Host m) (onlyDirectories : Bool) :
    Nat → List Pattern → String → Bool → ExceptT Unlisted m (List String)
  | 0, _, _, _ => return []
  | _ + 1, [], path, isDirectory => return if onlyDirectories && !isDirectory then [] else [path]
  | fuel + 1, p :: rest, path, isDirectory => do
    match p.literal? with
    | some name =>
      let name := String.ofList name
      let next := within path name
      let found ← if name = "." ∨ name = ".." then pure isDirectory else host.exists? next
      if found then searchFrom host onlyDirectories fuel rest next (← host.isDirectory next) else return []
    | none =>
      if isDirectory then
        let children ← list host path
        let points ← (pointNames p).mapM fun name => do
          let next := Path.join path name
          searchFrom host onlyDirectories fuel rest next (← host.isDirectory next)
        let others ← children.mapM fun child => do
          let next := within path child.name
          if p.isAnyDepth then
            let here ← match rest.dropWhile Pattern.isAnyDepth with
              | [] => pure (if child.isDirectory then [next] else [])
              | q :: after =>
                if q.accepts child.name.toList then searchFrom host onlyDirectories fuel after next child.isDirectory
                else pure []
            let below ←
              if child.isDirectory then searchFrom host onlyDirectories fuel (p :: rest) next true else pure []
            return here ++ below
          else if p.accepts child.name.toList then
            searchFrom host onlyDirectories fuel rest next child.isDirectory
          else return []
        return points.flatten ++ others.flatten
      else return []

/-- The paths that a query finds. No path that is too long can be listed, so there is an end to the
directories below directories. -/
def search (host : Host m) (query : Query) : m (Except Unlisted (List String)) := do
  let isDirectory ← host.isDirectory query.start
  (searchFrom host query.onlyDirectories (query.names.length + Disk.pathLimit + 1) query.names query.start
    isDirectory).run

/-- The root is left on the paths that are found from it. -/
example :
    let world : World := { disk.here := ["w"], disk.entries := [(["w"], .directory), (["w", "b"], .directory)] }
    (parse "/*/b").map (fun query => ((search World.host query).run world).1) = .ok (.ok ["/w/b"]) := by cbv

end Query

end TypeSketch.Glob
