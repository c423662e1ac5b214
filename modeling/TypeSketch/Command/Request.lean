import TypeSketch.Declaration

/-!
# Requests

What the words of a command line ask for.

* `Blocks` : which declarations of every document are wanted;
* `Selection` : which parts of the inputs are documents;
* `Overrides` : the parts of the configuration that the command line gives itself;
* `Request` : all of it.
-/

namespace TypeSketch.Command

/-- Which declarations of a document are wanted. -/
inductive Blocks where
  | classes | interfaces | both
deriving DecidableEq, Repr

namespace Blocks

/-- The text of one block for each declaration that is wanted. -/
def text (blocks : Blocks) (classBlock interfaceBlock : String) : String :=
  match blocks with
  | .classes => classBlock
  | .interfaces => interfaceBlock
  | .both => classBlock ++ "\n\n" ++ interfaceBlock

end Blocks

/-- Which parts of the inputs are documents: every line or every input as a whole, the part at a
pointer, the outputs of a filter. -/
structure Selection where
  byLine : Bool := false
  pointer? : Option String := none
  filter? : Option String := none
deriving DecidableEq, Repr

/-- The parts of the configuration that come before those of a file. -/
structure Overrides where
  modifier? : Option String := none
  accessor? : Option String := none
  className? : Option String := none
  interfaceName? : Option String := none
deriving DecidableEq, Repr

/-- The configuration with the parts that are given in place of its own. -/
def Overrides.apply (overrides : Overrides) (config : Config) : Config :=
  { config with
    modifier := overrides.modifier?.getD config.modifier
    accessor := overrides.accessor?.getD config.accessor
    className := overrides.className?.getD config.className
    interfaceName := overrides.interfaceName?.getD config.interfaceName }

/-- What a command line asks for. -/
structure Request where
  blocks : Blocks
  /-- Paths, patterns of paths, and `-` for the standard input. -/
  inputs : List String
  selection : Selection := {}
  /-- The path of a configuration file. -/
  config? : Option String := none
  overrides : Overrides := {}
  /-- The path of the file to write, if not the standard output. -/
  output? : Option String := none
deriving DecidableEq, Repr

end TypeSketch.Command
