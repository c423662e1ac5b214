import TypeSketch.Command.Arguments
import TypeSketch.Command.Run

/-!
# The command line program

* `fileErrorOfSystem` : the cause of an error of the system;
* `systemHost` : the host that the system is;
* `main` : runs the request of a command line.
-/

namespace TypeSketch.Command

/-- The number of an error of the system, which may come with its sign changed. -/
def errorNumber (code : UInt32) : Nat := if code < 0x80000000 then code.toNat else (0 - code).toNat

/-- The cause of an error of the system with a number. -/
def fileErrorOfCode (code : UInt32) (details : String) : FileError :=
  match errorNumber code with
  | 2 => .notFound
  | 13 => .denied
  | 17 => .alreadyExists
  | 20 => .notDirectory
  | 21 => .isDirectory
  | 36 => .nameTooLong
  | number => .other (details ++ " (os error " ++ toString number ++ ")")

/-- The cause of an error of the system. -/
def fileErrorOfSystem : IO.Error → FileError
  | .noFileOrDirectory _ code details => fileErrorOfCode code details
  | .alreadyExists _ code details => fileErrorOfCode code details
  | .inappropriateType _ code details => fileErrorOfCode code details
  | .invalidArgument _ code details => fileErrorOfCode code details
  | .permissionDenied _ code details => fileErrorOfCode code details
  | .resourceExhausted _ code details => fileErrorOfCode code details
  | .noSuchThing _ code details => fileErrorOfCode code details
  | .otherError code details => fileErrorOfCode code details
  | e => .other (toString e)

/-- The result of an action of the system, or the cause of its error. -/
def attempt {α : Type} (action : IO α) : IO (Except FileError α) := do
  match ← action.toBaseIO with
  | .ok a => return .ok a
  | .error e => return .error (fileErrorOfSystem e)

/-- The text of some bytes. -/
def textOfBytes (bytes : ByteArray) : Except FileError String :=
  match String.fromUTF8? bytes with
  | some text => .ok text
  | none => .error .notText

/-- The host that the system is. -/
def systemHost : Host IO where
  readText path := do return (← attempt (IO.FS.readBinFile path)).bind textOfBytes
  readInput := do return (← attempt (do (← IO.getStdin).readBinToEnd)).bind textOfBytes
  exists? path := (System.mkFilePath [path]).pathExists
  isDirectory path := (System.mkFilePath [path]).isDir
  children path := attempt do
    let children ← (← (System.mkFilePath [path]).readDir).toList.mapM fun e =>
      return ⟨e.fileName, ← e.path.isDir⟩
    return children.mergeSort fun a b => !(b.name < a.name)
  makeDirectory path := attempt (IO.FS.createDir path)
  writeText path text := attempt (IO.FS.writeFile path text)

end TypeSketch.Command

open TypeSketch.Command in
/-- Runs the request of a command line. -/
def main (args : List String) : IO UInt32 := do
  match parse args with
  | .error usage =>
    if usage = .help then IO.println usage.message else IO.eprintln usage.message
    return usage.exitCode.toUInt32
  | .ok request =>
    let outcome ← run systemHost request
    IO.eprint outcome.errors
    IO.print outcome.out
    return outcome.exitCode.toUInt32
