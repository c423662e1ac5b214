import TypeSketch.Command.Request

/-!
# Arguments

The first word of a command line names the declarations that are wanted, and options follow it.

* `Usage` : why there is nothing to run, with its wording and its exit code;
* `Setting`, `Flag` : the options with values, and those without;
* `Word` : what a word by itself means;
* `Draft` : what has been read, and the option that may still take values;
* `parse` : the request of a command line.
-/

namespace TypeSketch.Command

/-! ## Command lines that ask for nothing to run -/

/-- Why a command line gives no request. -/
inductive Usage where
  /-- Help was asked for. -/
  | help
  | nothingGiven
  | unknownCommand
  | unknownArgument
  /-- An option without a value, or with an empty one where there must be a path. -/
  | badValue
  /-- An option that can be given once was given again. -/
  | repeated
  /-- An option without values was given one. -/
  | unwantedValue
  | inputMissing
deriving DecidableEq, Repr

namespace Usage

/-- The exit code: asking for help is no failure. -/
def exitCode : Usage → Nat
  | .help => 0
  | _ => 2

/-- What is wrong with the command line. -/
def message : Usage → String
  | .help => "usage: (csharp | typescript | both) --input PATH... [OPTION...]"
  | .nothingGiven => "error: a command is needed"
  | .unknownCommand => "error: no such command"
  | .unknownArgument => "error: unexpected argument"
  | .badValue => "error: an option lacks its value"
  | .repeated => "error: an option was given more than once"
  | .unwantedValue => "error: an option without values was given one"
  | .inputMissing => "error: --input is needed"

end Usage

/-! ## Words -/

/-- The options with values. -/
inductive Setting where
  | input | pointer | filter | config | modifier | accessor | className | interfaceName | output
deriving DecidableEq, Repr

namespace Setting

/-- The names of the options, after two hyphens. -/
def ofName? : String → Option Setting
  | "input" => some .input
  | "json-pointer" => some .pointer
  | "jq-expr" => some .filter
  | "config" => some .config
  | "modifier" => some .modifier
  | "accessor" => some .accessor
  | "class-name" => some .className
  | "interface-name" => some .interfaceName
  | "out" => some .output
  | _ => none

/-- The letters of the options that have one, after a hyphen. -/
def ofLetter? : Char → Option Setting
  | 'i' => some .input
  | 'o' => some .output
  | _ => none

/-- Whether the values of an option are paths, which cannot be empty. -/
def isPath (setting : Setting) : Bool := setting = .config || setting = .output

/-- Whether an option may take a value after those that it has. -/
def takes (setting : Setting) (values : List String) : Bool := setting = .input || values.isEmpty

end Setting

/-- The options without values. -/
inductive Flag where
  | help | byLine
deriving DecidableEq, Repr

/-- What a word by itself means. -/
inductive Word where
  | flag (flag : Flag) (value? : Option String)
  | option (setting : Setting) (value? : Option String)
  | unknown
  /-- Two hyphens, after which there are no options. -/
  | noMore
  /-- A word that is no option. -/
  | plain
deriving DecidableEq, Repr

namespace Word

/-- What a word with a name after two hyphens means. -/
def ofName (name : String) (value? : Option String) : Word :=
  if name = "help" then .flag .help value?
  else if name = "ndjson" then .flag .byLine value?
  else
    match Setting.ofName? name with
    | some setting => .option setting value?
    | none => .unknown

/-- The value after the letter of an option. -/
def attached? : List Char → Option String
  | [] => none
  | '=' :: value => some (String.ofList value)
  | value => some (String.ofList value)

/-- What a word with letters after a hyphen means. -/
def ofLetters (letter : Char) (rest : List Char) : Word :=
  if letter = 'h' then .flag .help none
  else
    match Setting.ofLetter? letter with
    | some setting => .option setting (attached? rest)
    | none => .unknown

/-- The text before the first equals sign, and the text after it. -/
def splitValue (s : List Char) : String × Option String :=
  (String.ofList (s.takeWhile (· ≠ '=')),
    match s.dropWhile (· ≠ '=') with
    | [] => none
    | _ :: value => some (String.ofList value))

/-- What a word by itself means. A hyphen alone is a value. -/
def read (word : String) : Word :=
  match word.toList with
  | ['-', '-'] => .noMore
  | '-' :: '-' :: rest => ofName (splitValue rest).1 (splitValue rest).2
  | '-' :: letter :: rest => ofLetters letter rest
  | _ => .plain

end Word

/-! ## Drafts -/

/-- What has been read of a command line, and the option that may still take values. -/
structure Draft where
  byLine : Bool := false
  /-- The options with their values, in order. -/
  given : List (Setting × String) := []
  /-- The option whose values are not among those given yet. -/
  open? : Option (Setting × List String) := none
deriving DecidableEq, Repr

namespace Draft

/-- The values of an option. -/
def values (draft : Draft) (setting : Setting) : List String :=
  (draft.given.filter fun entry => entry.1 = setting).map Prod.snd

/-- The first value of an option. -/
def value? (draft : Draft) (setting : Setting) : Option String := (draft.values setting).head?

/-- Stores the values of an option. Only inputs can be given again. -/
def store (draft : Draft) (setting : Setting) (values : List String) : Except Usage Draft :=
  if setting ≠ .input ∧ (draft.value? setting).isSome then .error .repeated
  else if setting.isPath ∧ values.any String.isEmpty then .error .badValue
  else .ok { draft with given := draft.given ++ values.map (setting, ·) }

/-- Stores the values of the option that is open, which must have some. -/
def settle (draft : Draft) : Except Usage Draft :=
  match draft.open? with
  | none => .ok draft
  | some (_, []) => .error .badValue
  | some (setting, values) => { draft with open? := none }.store setting values

/-- Takes a word that is no option: a value of the option that is open. -/
def take (draft : Draft) (word : String) : Except Usage Draft :=
  match draft.open? with
  | some (setting, values) =>
    if setting.takes values then .ok { draft with open? := some (setting, values ++ [word]) }
    else .error .unknownArgument
  | none => .error .unknownArgument

/-- Reads the words of options. What follows two hyphens is no option, and nothing else is known
there. -/
def read (draft : Draft) : List String → Except Usage Draft
  | [] => draft.settle
  | word :: rest => do
    match Word.read word with
    | .noMore => if rest.isEmpty then draft.settle else .error .unknownArgument
    | .unknown => .error .unknownArgument
    | .plain => read (← draft.take word) rest
    | .flag _ (some _) => .error .unwantedValue
    | .flag .help none =>
      discard draft.settle
      .error .help
    | .flag .byLine none =>
      let draft ← draft.settle
      if draft.byLine then .error .repeated else read { draft with byLine := true } rest
    | .option setting none => read { (← draft.settle) with open? := some (setting, []) } rest
    | .option setting (some value) => read (← (← draft.settle).store setting [value]) rest

/-- The request of what has been read. -/
def request (draft : Draft) (blocks : Blocks) : Except Usage Request :=
  if (draft.values .input).isEmpty then .error .inputMissing
  else
    .ok {
      blocks
      inputs := draft.values .input
      selection := { byLine := draft.byLine, pointer? := draft.value? .pointer, filter? := draft.value? .filter }
      config? := draft.value? .config
      overrides := {
        modifier? := draft.value? .modifier
        accessor? := draft.value? .accessor
        className? := draft.value? .className
        interfaceName? := draft.value? .interfaceName }
      output? := draft.value? .output }

end Draft

/-! ## Command lines -/

/-- The commands. -/
def Blocks.ofName? : String → Option Blocks
  | "csharp" => some .classes
  | "typescript" => some .interfaces
  | "both" => some .both
  | _ => none

/-- Whether a word can stand where a command is expected. -/
def isCommand (word : String) : Bool := (Blocks.ofName? word).isSome || word = "help"

/-- Why there is nothing to run after a request for help on some words: no command has others. -/
def helpOn : List String → Usage
  | [] => .help
  | [word] => if isCommand word then .help else .unknownCommand
  | _ => .unknownCommand

/-- Why there is nothing to run after a word that is no command. -/
def withoutCommand (word : String) (rest : List String) : Usage :=
  match Word.read word with
  | .noMore =>
    match rest with
    | [] => .nothingGiven
    | next :: _ => if isCommand next then .unknownArgument else .unknownCommand
  | .flag .help none => .help
  | .flag .help (some _) => .unwantedValue
  | .plain => .unknownCommand
  | _ => .unknownArgument

/-- The request of a command line. -/
def parse : List String → Except Usage Request
  | [] => .error .nothingGiven
  | word :: rest =>
    match Blocks.ofName? word with
    | some blocks => do (← Draft.read {} rest).request blocks
    | none => .error (if word = "help" then helpOn rest else withoutCommand word rest)

end TypeSketch.Command
