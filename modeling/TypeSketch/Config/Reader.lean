import TypeSketch.Config
import TypeSketch.Config.Rejection
import TypeSketch.Json.Reader

/-!
# Reading configurations

A configuration is an object with some of the ten fields, each at most once, or an array of the
first values in the order of the fields. What follows the value is not looked at.

* `textReader`, `policyReader` : the values of fields;
* `Key.reader` : the value of a given field, stored into a configuration;
* `reader` : a configuration;
* `parse`, `parseList`, `parseMap` : one configuration, a list of them, or a map of them by name.
-/

namespace TypeSketch.Config

open Json Text

/-- Another account of errors leaves results as they are. -/
theorem ok_of_mapError {ε δ α : Type} {f : ε → δ} {r : Except ε α} {a : α} (h : r.mapError f = .ok a) :
    r = .ok a := by
  cases r with
  | ok b => cases h; rfl
  | error e => cases h

/-- A result of a function comes from a result. -/
theorem ok_of_map {ε α β : Type} {f : α → β} {r : Except ε α} {b : β} (h : r.map f = .ok b) :
    ∃ a, r = .ok a ∧ f a = b := by
  cases r with
  | ok a => cases h; exact ⟨a, rfl, rfl⟩
  | error e => cases h

/-! ## Values of fields -/

/-- The rejection of a value that is not of the expected type. A value inside brackets is not read;
any other is read to its end first. -/
def misfit (expected : String) (s : List Char) : Rejection :=
  let reject (found : Found) (rest : List Char) : Rejection := ⟨[], .invalidType found expected, byteCount rest⟩
  let word (letters rest : List Char) (found : Found) : Rejection :=
    match readWord letters rest with
    | .ok rest => reject found rest
    | .error fault => .ofFault [] fault
  let number (negative : Bool) (s : List Char) : Rejection :=
    match readNumber negative s with
    | .ok (n, rest) => reject (.number n) rest
    | .error fault => .ofFault [] fault
  match s with
  | [] => .ofFault [] (.here .endInValue [])
  | c :: rest =>
    if c = 'n' then word ['u', 'l', 'l'] rest .null
    else if c = 't' then word ['r', 'u', 'e'] rest (.bool true)
    else if c = 'f' then word ['a', 'l', 's', 'e'] rest (.bool false)
    else if c = '-' then number true rest
    else if c.isDigit then number false s
    else if c = '"' then
      match readText [] rest with
      | .ok (text, rest) => reject (.string text) rest
      | .error fault => .ofFault [] fault
    else if c = '[' then reject .sequence s
    else if c = '\x7b' then reject .map s
    else .ofFault [] (.past .expectedValue s)

/-- Reads a string that is `expected`. -/
def runText (expected : String) (s : List Char) : Except Rejection (String × List Char) :=
  match skipBlanks s with
  | [] => .error (.ofFault [] (.here .endInValue []))
  | s@(c :: rest) => if c = '"' then (readText [] rest).mapError (.ofFault []) else .error (misfit expected s)

theorem length_runText_lt {expected : String} {s rest : List Char} {text : String}
    (h : runText expected s = .ok (text, rest)) : rest.length < s.length := by
  have := length_skipBlanks_le s
  unfold runText at h
  grind [→ length_of_readText, → ok_of_mapError]

/-- The reader of a string. -/
def textReader : Reader Rejection String := ⟨runText "a string", length_runText_lt⟩

/-- Reads a null where only a null may stand. -/
def runUnit (s : List Char) : Except Rejection (List Char) :=
  match skipBlanks s with
  | [] => .error (.ofFault [] (.here .endInValue []))
  | s@(c :: rest) =>
    if c = 'n' then (readWord ['u', 'l', 'l'] rest).mapError (.ofFault []) else .error (misfit "unit" s)

theorem length_runUnit_le {s rest : List Char} (h : runUnit s = .ok rest) : rest.length ≤ s.length := by
  have := length_skipBlanks_le s
  unfold runUnit at h
  grind [→ length_readWord_le, → ok_of_mapError]

/-- Reads the name of a variant as the type `expected` and looks it up. -/
def runVariant {α : Type} (variants : List (String × α)) (s : List Char) :
    Except Rejection (String × α × List Char) :=
  match runText "variant identifier" s with
  | .error r => .error r
  | .ok (name, rest) =>
    match variants.lookup name with
    | some value => .ok (name, value, rest)
    | none => .error ⟨[], .unknownVariant name (variants.map Prod.fst), byteCount rest⟩

theorem length_runVariant_lt {α : Type} {variants : List (String × α)} {s rest : List Char} {name : String}
    {value : α} (h : runVariant variants s = .ok (name, value, rest)) : rest.length < s.length := by
  unfold runVariant at h
  grind [→ length_runText_lt]

/-- Takes the closing brace after the only member of an object. -/
def closeObject (s : List Char) : Except Fault (List Char) :=
  match skipBlanks s with
  | [] => .error (.here .endInObject [])
  | s@(c :: rest) => if c = '\x7d' then .ok rest else .error (.here .expectedValue s)

theorem length_closeObject_le {s rest : List Char} (h : closeObject s = .ok rest) :
    rest.length ≤ s.length := by
  have := length_skipBlanks_le s
  unfold closeObject at h
  grind

/-- Reads a variant that is mapped to null, after the opening brace. -/
def runMappedVariant {α : Type} (variants : List (String × α)) (s : List Char) :
    Except Rejection (α × List Char) :=
  match runVariant variants s with
  | .error r => .error r
  | .ok (name, value, rest) =>
    match readColon rest with
    | .error fault => .error (.ofFault [] fault)
    | .ok rest =>
      match runUnit rest with
      | .error r => .error (r.within (.key name))
      | .ok rest => ((closeObject rest).mapError (.ofFault [])).map (value, ·)

theorem length_runMappedVariant_lt {α : Type} {variants : List (String × α)} {s rest : List Char} {value : α}
    (h : runMappedVariant variants s = .ok (value, rest)) : rest.length < s.length := by
  unfold runMappedVariant at h
  split at h
  · simp at h
  · next name v afterName hn =>
    split at h
    · simp at h
    · next afterColon hc =>
      split at h
      · simp at h
      · next afterUnit hu =>
        obtain ⟨r, hr, he⟩ := ok_of_map h
        have := length_runVariant_lt hn
        have := length_readColon_lt hc
        have := length_runUnit_le hu
        have := length_closeObject_le (ok_of_mapError hr)
        simp only [Prod.mk.injEq] at he
        rw [← he.2]
        omega

/-- Reads a policy: the name of a variant, or an object that maps one variant to null. -/
def runPolicy {α : Type} (variants : List (String × α)) (s : List Char) :
    Except Rejection (α × List Char) :=
  match skipBlanks s with
  | [] => .error (.ofFault [] (.here .endInValue []))
  | s@(c :: rest) =>
    if c = '"' then (runVariant variants s).map Prod.snd
    else if c = '\x7b' then runMappedVariant variants rest
    else .error (.ofFault [] (.past .expectedValue s))

theorem length_runPolicy_lt {α : Type} {variants : List (String × α)} {s rest : List Char} {value : α}
    (h : runPolicy variants s = .ok (value, rest)) : rest.length < s.length := by
  have := length_skipBlanks_le s
  unfold runPolicy at h
  simp only [Except.map] at h
  grind [→ length_runVariant_lt, → length_runMappedVariant_lt]

/-- The reader of a policy with some variants. -/
def policyReader {α : Type} (variants : List (String × α)) : Reader Rejection α :=
  ⟨runPolicy variants, length_runPolicy_lt⟩

/-- The names of the number policies. -/
def numberPolicies : List (String × NumberPolicy) :=
  [("safe_integer", .safeInteger), ("fractional", .fractional)]

/-- The names of the temporal policies. -/
def temporalPolicies : List (String × TemporalPolicy) := [("pattern", .pattern), ("strict", .strict)]

/-- Reads the value of a field into a configuration. -/
def Key.reader (config : Config) : Key → Reader Rejection Config
  | .modifier => textReader.map fun modifier => { config with modifier }
  | .accessor => textReader.map fun accessor => { config with accessor }
  | .className => textReader.map fun className => { config with className }
  | .interfaceName => textReader.map fun interfaceName => { config with interfaceName }
  | .classIndent => textReader.map fun classIndent => { config with classIndent }
  | .interfaceIndent => textReader.map fun interfaceIndent => { config with interfaceIndent }
  | .integerType => textReader.map fun integerType => { config with integerType }
  | .floatType => textReader.map fun floatType => { config with floatType }
  | .numberPolicy => (policyReader numberPolicies).map fun numberPolicy => { config with numberPolicy }
  | .temporalPolicy => (policyReader temporalPolicies).map fun temporalPolicy => { config with temporalPolicy }

/-- A reader whose rejections are those of a part of a value. -/
def inside {α : Type} (step : Step) (reader : Reader Rejection α) : Reader Rejection α where
  run s := (reader.run s).mapError (Rejection.within step)
  shorter h := reader.shorter (ok_of_mapError h)

/-! ## A configuration -/

/-- The fields read so far and the configuration they make. -/
structure Progress where
  seen : List Key := []
  config : Config := {}

/-- Where a complaint about a key is placed: after the blanks that follow it, and after the closing
brace if that comes next. -/
def afterKey (rest : List Char) : Nat :=
  match skipBlanks rest with
  | '\x7d' :: rest => byteCount rest
  | rest => byteCount rest

/-- Chooses the reader of the value of a key: the key must name a field that was not read yet. -/
def chooseField (progress : Progress) (name : String) (rest : List Char) :
    Except Rejection (Reader Rejection Progress) :=
  match Key.ofName? name with
  | none => .error ⟨[.key name], .unknownField name, afterKey rest⟩
  | some key =>
    if key ∈ progress.seen then .error ⟨[], .duplicateField key, afterKey rest⟩
    else .ok <| (inside (.key name) (key.reader progress.config)).map fun config =>
      ⟨key :: progress.seen, config⟩

/-- Reads a member of a configuration. -/
def memberReader (progress : Progress) : Reader Rejection Progress :=
  readMember (.ofFault [.unclear]) (.ofFault []) (chooseField progress)

/-- Reads the values of some fields in order, the first of them being at `index`, up to the closing
bracket or past the last field. -/
def readFields (keys : List Key) (index : Nat) (config : Config) (s : List Char) :
    Except Rejection (Config × List Char) :=
  match keys with
  | [] => .ok (config, s)
  | key :: keys =>
    match nextItem? (index == 0) s with
    | .error fault => .error (.ofFault [] fault)
    | .ok none => .ok (config, s)
    | .ok (some s) =>
      match (inside (.index index) (key.reader config)).run s with
      | .error r => .error r
      | .ok (config, rest) => readFields keys (index + 1) config rest

/-- Takes the closing bracket of an array whose values have all been read. -/
def closeArray (s : List Char) : Except Fault (List Char) :=
  match skipBlanks s with
  | [] => .error (.here .endInList [])
  | s@(c :: rest) =>
    if c = ']' then .ok rest
    else if c = ',' then
      match skipBlanks rest with
      | s@(']' :: _) => .error (.past .trailingComma s)
      | s => .error (.past .trailingCharacters s)
    else .error (.past .trailingCharacters s)

theorem length_readFields_le {keys : List Key} {index : Nat} {config config' : Config} {s rest : List Char}
    (h : readFields keys index config s = .ok (config', rest)) : rest.length ≤ s.length := by
  induction keys generalizing index config s with
  | nil => simp_all [readFields]
  | cons key keys ih =>
    unfold readFields at h
    grind [→ length_nextItem_le, → Reader.shorter]

theorem length_closeArray_le {s rest : List Char} (h : closeArray s = .ok rest) : rest.length ≤ s.length := by
  have := length_skipBlanks_le s
  unfold closeArray at h
  grind [length_skipBlanks_le]

/-- Reads a configuration written as an array, after the opening bracket. -/
def runSequence (s : List Char) : Except Rejection (Config × List Char) :=
  match readFields Key.all 0 {} s with
  | .error r => .error r
  | .ok (config, rest) => ((closeArray rest).mapError (.ofFault [])).map (config, ·)

/-- Reads a configuration written as an object, after the opening brace. -/
def runMapping (s : List Char) : Except Rejection (Config × List Char) :=
  match readMembers (.ofFault [.unclear]) memberReader true {} s with
  | .error r => .error r
  | .ok (progress, rest) => .ok (progress.config, rest.tail)

/-- Reads a configuration. -/
def runConfig (s : List Char) : Except Rejection (Config × List Char) :=
  match skipBlanks s with
  | [] => .error (.ofFault [] (.here .endInValue []))
  | s@(c :: rest) =>
    if c = '[' then runSequence rest
    else if c = '\x7b' then runMapping rest
    else .error (misfit "struct RenderConfig" s)

theorem length_runSequence_le {s rest : List Char} {config : Config}
    (h : runSequence s = .ok (config, rest)) : rest.length ≤ s.length := by
  unfold runSequence at h
  split at h
  · simp at h
  · next read afterFields hf =>
    obtain ⟨r, hr, he⟩ := ok_of_map h
    have := length_readFields_le hf
    have := length_closeArray_le (ok_of_mapError hr)
    simp only [Prod.mk.injEq] at he
    rw [← he.2]
    omega

theorem length_runMapping_le {s rest : List Char} {config : Config}
    (h : runMapping s = .ok (config, rest)) : rest.length ≤ s.length := by
  unfold runMapping at h
  split at h
  · simp at h
  · next r hr =>
    have := length_readMembers_le hr
    simp only [Except.ok.injEq, Prod.mk.injEq] at h
    have : rest.length = r.length - 1 := by rw [← h.2]; simp
    omega

theorem length_runConfig_lt {s rest : List Char} {config : Config} (h : runConfig s = .ok (config, rest)) :
    rest.length < s.length := by
  have := length_skipBlanks_le s
  unfold runConfig at h
  grind [→ length_runSequence_le, → length_runMapping_le]

/-- The reader of a configuration. -/
def reader : Reader Rejection Config := ⟨runConfig, length_runConfig_lt⟩

/-! ## Whole texts -/

/-- The configuration at the start of a text. -/
def parse (text : String) : Except Rejection Config := (reader.run text.toList).map Prod.fst

/-- Reads the list of configurations at the start of a text. -/
def runList (s : List Char) : Except Rejection (List Config) :=
  match skipBlanks s with
  | [] => .error (.ofFault [] (.here .endInValue []))
  | s@(c :: rest) =>
    if c = '[' then
      let item (configs : List Config) : Reader Rejection (List Config) :=
        (inside (.index configs.length) reader).map (· :: configs)
      (readItems (.ofFault []) item true [] rest).map fun (configs, _) => configs.reverse
    else .error (misfit "a sequence" s)

/-- The configurations listed at the start of a text. -/
def parseList (text : String) : Except Rejection (List Config) := runList text.toList

/-- Reads the map of configurations at the start of a text, sorted by their names. -/
def runMap (s : List Char) : Except Rejection (List (String × Config)) :=
  match skipBlanks s with
  | [] => .error (.ofFault [] (.here .endInValue []))
  | s@(c :: rest) =>
    if c = '\x7b' then
      let member (configs : List (String × Config)) : Reader Rejection (List (String × Config)) :=
        readMember (.ofFault [.unclear]) (.ofFault []) fun name _ =>
          .ok ((inside (.key name) reader).map fun config => Members.put name config configs)
      (readMembers (.ofFault [.unclear]) member true [] rest).map fun (configs, _) =>
        configs.mergeSort fun a b => !(b.1 < a.1)
    else .error (misfit "a map" s)

/-- The configurations mapped from their names at the start of a text. -/
def parseMap (text : String) : Except Rejection (List (String × Config)) := runMap text.toList

end TypeSketch.Config
