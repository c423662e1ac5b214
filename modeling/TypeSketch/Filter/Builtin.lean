import TypeSketch.Filter.Access
import TypeSketch.Filter.Document
import TypeSketch.Filter.Encoding
import TypeSketch.Filter.Moment
import TypeSketch.Filter.Search
import TypeSketch.Text.Base64
import TypeSketch.Text.Utf8
import TypeSketch.Text.White

/-!
# Built-in functions of values

The named filters that are functions of their input and of the values of their arguments.

* `Builtin` : a name, a number of arguments, and the function;
* `builtins`, `Builtin.find?` : all of them, and the one with a name.
-/

namespace TypeSketch.Filter

open Json

/-- A named function of its arguments and its input. -/
structure Builtin where
  name : String
  arity : Nat
  apply : List Val → Val → Except Problem Val

namespace Builtin

/-! ## Containers -/

/-- The size of a value: the absolute value of a number, the number of characters, items or
members, and zero for null. -/
def length (v : Val) : Except Problem Val :=
  match v with
  | .null => .ok (.int 0)
  | .bool _ => .error (.message (v.text ++ " has no length"))
  | .int n => .ok (.int n.natAbs)
  | .float x => .ok (.float x.abs)
  | .decimal text => .ok (.float (floatOfText text).abs)
  | .str s => .ok (.int s.length)
  | .arr items => .ok (.int items.length)
  | .obj members => .ok (.int members.length)

/-- The keys of an object in order, or the places of an array. -/
def keys (v : Val) : Except Problem Val :=
  match v with
  | .arr items => .ok (.arr ((List.range items.length).map fun (i : Nat) => .int i))
  | .obj members => .ok (.arr (members.map fun member => .str member.1))
  | v => .error (.wrongType v iterable)

/-- Whether a value has a part at a key. -/
def has (v key : Val) : Except Problem Val :=
  match v, key with
  | .arr items, .int n => if 0 ≤ n then .ok (.bool (n < items.length)) else .error (.noIndex v key)
  | .obj members, .str k => .ok (.bool (Members.get? k members).isSome)
  | v, key => .error (.noIndex v key)

/-- Whether a list of characters stands somewhere in another. -/
def isWithin (part : List Char) : List Char → Bool
  | [] => part.isEmpty
  | c :: rest => part.isPrefixOf (c :: rest) || isWithin part rest

/-- Whether a value, nested less deep than `depth`, holds all of another. -/
def contains : Nat → Val → Val → Bool
  | 0, _, _ => false
  | depth + 1, v, w =>
    match v, w with
    | .obj ms, .obj ns => ns.all fun n => (Members.get? n.1 ms).any fun value => contains depth value n.2
    | .arr xs, .arr ys => ys.all fun y => xs.any fun x => contains depth x y
    | .str s, .str t => isWithin t.toList s.toList
    | v, w => v.same w

/-- The places where a list stands in another. -/
def placesOf {α : Type} (same : α → α → Bool) (part : List α) (place : Nat) : List α → List Val
  | [] => []
  | x :: rest =>
    let here := part.length ≤ rest.length + 1 && (part.zip (x :: rest)).all fun pair => same pair.1 pair.2
    if here then .int place :: placesOf same part (place + 1) rest else placesOf same part (place + 1) rest

/-- The places where a value stands in another. -/
def indices (v w : Val) : Except Problem Val :=
  match v, w with
  | .str s, .str t =>
    if t.isEmpty then .ok (.arr []) else .ok (.arr (placesOf (fun a b => a == b) t.toList 0 s.toList))
  | .arr _, .arr [] => .ok (.arr [])
  | .arr xs, .arr ys => .ok (.arr (placesOf Val.same ys 0 xs))
  | .arr xs, w => .ok (.arr (placesOf Val.same [w] 0 xs))
  | v, w => .error (.noIndex v w)

/-- Where a search by halves for a value ends that starts at `base` and has `size` places left. -/
def searchHalves (items : Array Val) (w : Val) (base size : Nat) : Nat :=
  if 1 < size then
    let half := size / 2
    let middle := base + half
    searchHalves items w (if ((items.getD middle .null).order w) == .gt then base else middle) (size - half)
  else base
termination_by size
decreasing_by omega

/-- The place of a value in a sorted array, or one less than the negated place where it belongs. -/
def searchSorted (v w : Val) : Except Problem Val := do
  let items := (← v.asArr).toArray
  let base := searchHalves items w 0 items.size
  match items[base]? with
  | none => return .int (-1)
  | some x =>
    match x.order w with
    | .eq => return .int base
    | .lt => return .int (-1 - ((base + 1 : Nat) : Int))
    | .gt => return .int (-1 - (base : Int))

/-- An array backwards. -/
def reversed (v : Val) : Except Problem Val := v.asArr.map fun items => .arr items.reverse

/-! ## Texts -/

/-- A function of a text. -/
def onText (f : String → Val) (v : Val) : Except Problem Val := v.asStr.map f

/-- The character of a code point. -/
def character (v : Val) : Except Problem Char := do
  let n ← v.asInt
  if n < 0 ∨ 4294967296 ≤ n then throw (.message "out of range integral type conversion attempted")
  if n.toNat.isValidChar then return Char.ofNat n.toNat
  throw (.message ("cannot use " ++ toString n ++ " as character"))

/-- The text of an array of code points. -/
def implode (v : Val) : Except Problem Val := do return .ofChars (← (← v.asArr).mapM character)

/-- A text without another at its start. -/
def withoutStart (v w : Val) : Except Problem Val := do
  let s := (← v.asStr).toList
  let t := (← w.asStr).toList
  return if t.isPrefixOf s then .ofChars (s.drop t.length) else v

/-- A text without another at its end. -/
def withoutEnd (v w : Val) : Except Problem Val := do
  let s := (← v.asStr).toList
  let t := (← w.asStr).toList
  return if t.isSuffixOf s then .ofChars (s.take (s.length - t.length)) else v

/-- The text whose bytes are written in base 64. -/
def decodeText (v : Val) : Except Problem Val := do
  match Text.Base64.decode (← v.asStr).toUTF8.toList with
  | .error fault => throw (.message fault.message)
  | .ok bytes =>
    match Text.Utf8.decode bytes with
    | .error fault => throw (.message fault.message)
    | .ok s => return .ofChars s

/-- The value of a text that is a document. -/
def readDocument (v : Val) : Except Problem Val := do
  let s ← v.asStr
  match Val.ofText s with
  | .ok v => return v
  | .error fault => throw (.message ("cannot parse " ++ s ++ " as JSON: " ++ fault.message))

end Builtin

open Builtin in
/-- All functions of values. -/
def builtins : List Builtin :=
  let zero (name : String) (f : Val → Except Problem Val) : Builtin := ⟨name, 0, fun _ v => f v⟩
  let one (name : String) (f : Val → Val → Except Problem Val) : Builtin :=
    ⟨name, 1, fun args v => f v (args.getD 0 .null)⟩
  let two (name : String) (f : Val → Val → Val → Except Problem Val) : Builtin :=
    ⟨name, 2, fun args v => f v (args.getD 0 .null) (args.getD 1 .null)⟩
  let text (name : String) (f : String → Val) : Builtin := zero name (onText f)
  let escape (name : String) (f : String → String) : Builtin := text name fun s => .str (f s)
  [zero "length" length, zero "keys_unsorted" keys, one "has" has,
    one "contains" fun v w => .ok (.bool (contains (v.depth + 1) v w)), one "indices" indices,
    one "bsearch" searchSorted, zero "reverse" reversed, zero "tojson" fun v => .ok (.str v.text),
    zero "fromjson" readDocument, zero "floor" (Val.rounded Float.floor), zero "ceil" (Val.rounded Float.ceil),
    zero "round" (Val.rounded Float.round), zero "implode" implode,
    text "explode" fun s => .arr (s.toList.map fun c => .int c.toNat),
    text "utf8bytelength" fun s => .int s.utf8ByteSize,
    text "ascii_downcase" fun s => .ofChars (s.toList.map Char.toLower),
    text "ascii_upcase" fun s => .ofChars (s.toList.map Char.toUpper),
    text "trim" fun s => .ofChars (Text.trim s.toList),
    text "ltrim" fun s => .ofChars (s.toList.dropWhile Text.isWhite),
    text "rtrim" fun s => .ofChars (Text.trimEnd s.toList),
    one "ltrimstr" withoutStart, one "rtrimstr" withoutEnd,
    one "startswith" fun v w => do
      let s ← v.asStr
      return .bool ((← w.asStr).toList.isPrefixOf s.toList),
    one "endswith" fun v w => do
      let s ← v.asStr
      return .bool ((← w.asStr).toList.isSuffixOf s.toList),
    escape "escape_html" escapeHtml, escape "escape_uri" escapeUri, escape "escape_csv" escapeCsv,
    escape "escape_tsv" escapeTsv, escape "escape_sh" escapeShell,
    text "encode_base64" fun s => .ofChars (Text.Base64.encode s.toUTF8.toList), zero "decode_base64" decodeText,
    zero "todateiso8601" Val.toStamp, zero "fromdateiso8601" Val.ofStamp, zero "gmtime" Val.toParts,
    zero "mktime" Val.ofParts, one "strftime" Val.writeTime, one "strptime" Val.readTime,
    two "matches" (Val.search false true), two "split_matches" (Val.search true true),
    two "split_" (Val.search true false)] ++
  (floatFunctions.map fun (name, f) => zero name fun v => v.asFloat.map fun x => .float (f x)) ++
  (floatFunctions₂.map fun (name, f) => two name fun _ x y => do return .float (f (← x.asFloat) (← y.asFloat))) ++
  scalings.map fun (name, f) => two name fun _ x n => do return .float (f (← x.asFloat) (← n.asInt))

/-- The function with a name and a number of arguments. -/
def Builtin.find? (name : String) (arity : Nat) : Option Builtin :=
  builtins.find? fun f => f.name = name ∧ f.arity = arity

end TypeSketch.Filter
