import TypeSketch.Proofs.Influence
import TypeSketch.Proofs.Reread
import TypeSketch.Proofs.Surface

/-!
# A document on lines, shown again

* `toPretty_mapNumbers_iff` : a document on lines tells each of its numbers;
* `parse_toPretty_reread` : a document on lines is one again, with its numbers read anew;
* `interfaceBlock_mapNumbers`, `classBlock_mapNumbers` : what other numbers leave of the declarations;
* `renderText_reformatted` : so what is shown of it is the same exactly if each number is read as itself.
-/

namespace TypeSketch

open Json

variable {f : Number → Number} {config : Config}

/-! ## Telling the numbers -/

/-- The text of a value on lines, wherever it ends, tells whether its numbers were replaced. -/
def Json.Value.TellsNumbers (f : Number → Number) (v : Value) : Prop :=
  ∀ level rest rest', EndsNumber rest → EndsNumber rest' →
    v.pretty level ++ rest = (v.mapNumbers f).pretty level ++ rest' → v.EveryNumber (fun n => f n = n) ∧ rest = rest'

theorem items_of_prettyItems {items : List Value} (h : ∀ item ∈ items, item.TellsNumbers f) {level : Nat}
    {rest rest' : List Char}
    (e : Value.prettyItems level items ++ rest = Value.prettyItems level (Value.mapItems f items) ++ rest') :
    (∀ item ∈ items, item.EveryNumber fun n => f n = n) ∧ rest = rest' := by
  induction items with
  | nil => exact ⟨fun _ none => absurd none List.not_mem_nil, List.append_cancel_left e⟩
  | cons item items ih =>
    obtain ⟨head, tail⟩ := List.forall_mem_cons.1 h
    rw [Value.mapItems, Value.prettyItems, Value.prettyItems] at e
    simp only [List.cons_append, List.append_assoc, List.cons.injEq, true_and, List.append_cancel_left_eq] at e
    obtain ⟨here, left⟩ := head _ _ _ (endsNumber_prettyItems level items rest) (endsNumber_prettyItems level _ rest') e
    obtain ⟨others, left⟩ := ih tail left
    exact ⟨List.forall_mem_cons.2 ⟨here, others⟩, left⟩

theorem members_of_prettyMembers {members : List (String × Value)} (h : ∀ member ∈ members, member.2.TellsNumbers f)
    {level : Nat} {rest rest' : List Char}
    (e : Value.prettyMembers level members ++ rest = Value.prettyMembers level (Value.mapMembers f members) ++ rest') :
    (∀ member ∈ members, member.2.EveryNumber fun n => f n = n) ∧ rest = rest' := by
  induction members with
  | nil => exact ⟨fun _ none => absurd none List.not_mem_nil, List.append_cancel_left e⟩
  | cons member members ih =>
    obtain ⟨key, value⟩ := member
    obtain ⟨head, tail⟩ := List.forall_mem_cons.1 h
    rw [Value.mapMembers, Value.prettyMembers, Value.prettyMembers] at e
    simp only [List.cons_append, List.append_assoc, List.cons.injEq, true_and, List.append_cancel_left_eq] at e
    obtain ⟨here, left⟩ :=
      head _ _ _ (endsNumber_prettyMembers level members rest) (endsNumber_prettyMembers level _ rest') e
    obtain ⟨others, left⟩ := ih tail left
    exact ⟨List.forall_mem_cons.2 ⟨here, others⟩, left⟩

theorem tellsNumbers (v : Value) : v.TellsNumbers f := by
  -- By induction on the value: the text of each number ends where the text after it goes on.
  induction v using Value.nested with
  | null => exact fun _ _ _ _ _ e => ⟨.null, List.append_cancel_left e⟩
  | bool b => exact fun _ _ _ _ _ e => ⟨.bool b, List.append_cancel_left e⟩
  | number n =>
    intro level rest rest' ends ends' e
    obtain ⟨same, left⟩ := write_unique ends ends' e
    exact ⟨.number same.symm, left⟩
  | string s => exact fun _ _ _ _ _ e => ⟨.string s, List.append_cancel_left e⟩
  | array items ih =>
    intro level rest rest' _ _ e
    cases items with
    | nil => exact ⟨.array fun _ none => absurd none List.not_mem_nil, List.append_cancel_left e⟩
    | cons item items =>
      obtain ⟨head, tail⟩ := List.forall_mem_cons.1 ih
      rw [Value.mapNumbers, Value.mapItems, Value.pretty, Value.pretty] at e
      simp only [List.cons_append, List.append_assoc, List.cons.injEq, true_and, List.append_cancel_left_eq] at e
      obtain ⟨here, left⟩ :=
        head _ _ _ (endsNumber_prettyItems level items rest) (endsNumber_prettyItems level _ rest') e
      obtain ⟨others, left⟩ := items_of_prettyItems tail left
      exact ⟨.array (List.forall_mem_cons.2 ⟨here, others⟩), left⟩
  | object members ih =>
    intro level rest rest' _ _ e
    cases members with
    | nil => exact ⟨.object fun _ none => absurd none List.not_mem_nil, List.append_cancel_left e⟩
    | cons member members =>
      obtain ⟨key, value⟩ := member
      obtain ⟨head, tail⟩ := List.forall_mem_cons.1 ih
      rw [Value.mapNumbers, Value.mapMembers, Value.pretty, Value.pretty] at e
      simp only [List.cons_append, List.append_assoc, List.cons.injEq, true_and, List.append_cancel_left_eq] at e
      obtain ⟨here, left⟩ :=
        head _ _ _ (endsNumber_prettyMembers level members rest) (endsNumber_prettyMembers level _ rest') e
      obtain ⟨others, left⟩ := members_of_prettyMembers tail left
      exact ⟨.object (List.forall_mem_cons.2 ⟨here, others⟩), left⟩

theorem toPretty_mapNumbers_iff {v : Value} :
    (v.mapNumbers f).toPretty = v.toPretty ↔ v.EveryNumber fun n => f n = n := by
  constructor
  · intro same
    have texts : v.pretty 0 ++ [] = (v.mapNumbers f).pretty 0 ++ [] := by
      rw [List.append_nil, List.append_nil]
      exact (String.ofList_injective same).symm
    exact (tellsNumbers v 0 [] [] endsNumber_nil endsNumber_nil texts).1
  · intro kept
    rw [Value.mapNumbers_eq_self_iff.2 kept]

/-! ## Declarations under other numbers -/

theorem map_mapMembers {line : String × Value → String} (members : List (String × Value))
    (h : ∀ member : String × Value, line (member.1, member.2.mapNumbers f) = line member) :
    (Value.mapMembers f members).map line = members.map line := by
  rw [Value.mapMembers_eq_map, List.map_map]
  exact List.map_congr_left fun member _ => h member

/-- Other numbers do not change an interface. -/
theorem interfaceBlock_mapNumbers (config : Config) (f : Number → Number) (v : Value) :
    (Rendered.ofValue config (v.mapNumbers f)).interfaceBlock = (Rendered.ofValue config v).interfaceBlock := by
  by_cases object : v.kind = .object
  · obtain ⟨members, rfl⟩ := kind_eq_object_iff.1 object
    have lines : (Value.mapMembers f members).map (interfaceLine config) = members.map (interfaceLine config) := by
      refine map_mapMembers members fun member => ?_
      rw [interfaceLine, interfaceLine, (Ty.alike_mapNumbers rfl f member.2).structuralName_eq]
    rw [Value.mapNumbers, Rendered.ofValue_object, Rendered.ofValue_object]
    dsimp only
    unfold interfaceText
    rw [lines]
  · have other : (v.mapNumbers f).kind ≠ .object := by rwa [Value.kind_mapNumbers]
    rw [Rendered.ofValue_other config object, Rendered.ofValue_other config other, Value.kind_mapNumbers]

/-- Other numbers do not change a class that does not tell integers from floats, or that is none. -/
theorem classBlock_mapNumbers (f : Number → Number) {v : Value}
    (h : v.kind ≠ .object ∨ config.integerType = config.floatType) :
    (Rendered.ofValue config (v.mapNumbers f)).classBlock = (Rendered.ofValue config v).classBlock := by
  by_cases object : v.kind = .object
  · have names := h.resolve_left fun other => other object
    obtain ⟨members, rfl⟩ := kind_eq_object_iff.1 object
    have lines : (Value.mapMembers f members).map (classLine config) = members.map (classLine config) := by
      refine map_mapMembers members fun member => ?_
      rw [classLine, classLine, (Ty.alike_mapNumbers rfl f member.2).className_eq names]
    rw [Value.mapNumbers, Rendered.ofValue_object, Rendered.ofValue_object]
    dsimp only
    unfold classText
    rw [lines]
  · have other : (v.mapNumbers f).kind ≠ .object := by rwa [Value.kind_mapNumbers]
    rw [Rendered.ofValue_other config object, Rendered.ofValue_other config other, Value.kind_mapNumbers]

/-! ## Shown again -/

theorem parse_toPretty_reread {text : String} {value : Value} (accepted : parse text = .ok value) :
    parse value.toPretty = .ok (value.mapNumbers Number.reread) :=
  parse_toPretty (within_of_parse accepted) (Value.everyNumber_of_forall readsAs_reread value)

/-- **A document on lines, shown again,** is the same value with its numbers read from their texts. The
interface stays, and so does the class unless it tells integers from floats. Everything stays the
same exactly if every number is read from its text as itself, as integers and numbers of few digits
are. -/
theorem renderText_reformatted (config : Config) {text formatted : String}
    (shown : (renderText config text).formatted = some formatted) :
    ∃ value, parse text = .ok value ∧ parse formatted = .ok (value.mapNumbers Number.reread) ∧
      (renderText config formatted).interfaceBlock = (renderText config text).interfaceBlock ∧
      (value.kind ≠ .object ∨ config.integerType = config.floatType →
        (renderText config formatted).classBlock = (renderText config text).classBlock) ∧
      (renderText config formatted = renderText config text ↔ value.EveryNumber fun n => n.reread = n) ∧
      ((value.EveryNumber fun n => n.IsInteger ∨ n.FewDigits) →
        renderText config formatted = renderText config text) := by
  cases accepted : parse text with
  | error fault =>
    rw [renderText_of_error accepted] at shown
    cases shown
  | ok value =>
    rw [renderText_of_ok accepted, Rendered.formatted_ofValue] at shown
    obtain rfl := Option.some.inj shown
    have again := parse_toPretty_reread accepted
    rw [renderText_of_ok again, renderText_of_ok accepted]
    -- The text on lines tells its numbers, so it stays the same only if each of them does.
    have same : Rendered.ofValue config (value.mapNumbers Number.reread) = Rendered.ofValue config value ↔
        value.EveryNumber fun n => n.reread = n := by
      constructor
      · intro same
        have formatted := congrArg Rendered.formatted same
        rw [Rendered.formatted_ofValue, Rendered.formatted_ofValue] at formatted
        exact toPretty_mapNumbers_iff.1 (Option.some.inj formatted)
      · intro kept
        rw [Value.mapNumbers_eq_self_iff.2 kept]
    refine ⟨value, rfl, again, interfaceBlock_mapNumbers .., classBlock_mapNumbers _, same, fun few => ?_⟩
    exact same.2 (few.imp fun n => reread_eq_self)

/-- The object with one member `a` that is written as a number without a sign. -/
theorem parse_single {text : String} {literal : List Char} {n : Number}
    (chars : text.toList = '\x7b' :: '"' :: 'a' :: '"' :: ':' :: (literal ++ ['\x7d']))
    (read : readNumber false (literal ++ ['\x7d']) = .ok (n, ['\x7d'])) :
    parse text = .ok (.object [("a", .number n)]) := by
  have key (rest : List Char) : readText [] ('a' :: '"' :: rest) = .ok ("a", rest) := by
    rw [readText_plain (by decide) (by decide) (by decide), readText, if_pos rfl]
    rfl
  have value : Spells 126 (literal ++ ['\x7d']) (.number n) ['\x7d'] :=
    valueAt_of_readNumber read (some (Spells 125))
  have pairs : Pairs (Spells 126) true ('"' :: 'a' :: '"' :: ':' :: (literal ++ ['\x7d'])) [("a", .number n)] [] :=
    .pair (.first rfl) (key _) rfl value (.close rfl)
  refine parse_eq_ok_iff.2 (isDocument_object_iff.2 ⟨_, ⟨_, [], ?_, pairs, rfl⟩, rfl⟩)
  rw [chars]
  rfl

/-- The tenth is written with one digit more than it needs. -/
theorem renderText_reformatted_tenth :
    (renderText {} "\x7b\"a\":0.10\x7d").formatted = some "\x7b\n  \"a\": 0.1\n\x7d" ∧
    renderText {} "\x7b\n  \"a\": 0.1\n\x7d" = renderText {} "\x7b\"a\":0.10\x7d" := by
  have read : readNumber false (['0', '.', '1', '0'] ++ ['\x7d']) =
      .ok (.double ⟨false, 7205759403792794, -56, by decide⟩, ['\x7d']) := by decide +kernel
  have accepted : parse "\x7b\"a\":0.10\x7d" =
      .ok (.object [("a", .number (.double ⟨false, 7205759403792794, -56, by decide⟩))]) :=
    parse_single (by decide +kernel) read
  have shown : (renderText {} "\x7b\"a\":0.10\x7d").formatted = some "\x7b\n  \"a\": 0.1\n\x7d" := by
    rw [renderText_of_ok accepted, Rendered.formatted_ofValue]
    decide +kernel
  obtain ⟨value, parsed, -, -, -, -, kept⟩ := renderText_reformatted {} shown
  obtain rfl : Value.object [("a", .number (.double ⟨false, 7205759403792794, -56, by decide⟩))] = value :=
    Except.ok.inj (accepted.symm.trans parsed)
  refine ⟨shown, kept (.object (List.forall_mem_singleton.2 (.number (.inr ?_))))⟩
  exact ⟨by decide +kernel, by decide +kernel⟩

/-- Scaling the digits of a number that ends in a half may round it to an integer: the same number with one
digit less is read as another, and the class has an integer in place of a float. -/
theorem renderText_formatted_half :
    (renderText {} "\x7b\"a\":4503599627370495.50\x7d").formatted =
      some "\x7b\n  \"a\": 4503599627370495.5\n\x7d" ∧
    (renderText {} "\x7b\"a\":4503599627370495.50\x7d").classBlock =
      "public class ClassName \x7b\n    public float A \x7b get; set; \x7d\n\x7d" ∧
    (renderText {} "\x7b\n  \"a\": 4503599627370495.5\n\x7d").formatted =
      some "\x7b\n  \"a\": 4503599627370495.0\n\x7d" ∧
    (renderText {} "\x7b\n  \"a\": 4503599627370495.5\n\x7d").classBlock =
      "public class ClassName \x7b\n    public int A \x7b get; set; \x7d\n\x7d" ∧
    renderText {} "\x7b\n  \"a\": 4503599627370495.5\n\x7d" ≠ renderText {} "\x7b\"a\":4503599627370495.50\x7d" := by
  have read : readNumber false
      (['4', '5', '0', '3', '5', '9', '9', '6', '2', '7', '3', '7', '0', '4', '9', '5', '.', '5', '0'] ++ ['\x7d']) =
      .ok (.double ⟨false, 9007199254740991, -1, by decide⟩, ['\x7d']) := by decide +kernel
  have accepted : parse "\x7b\"a\":4503599627370495.50\x7d" =
      .ok (.object [("a", .number (.double ⟨false, 9007199254740991, -1, by decide⟩))]) :=
    parse_single (by decide +kernel) read
  have lines : (Value.object [("a", .number (.double ⟨false, 9007199254740991, -1, by decide⟩))]).toPretty =
      "\x7b\n  \"a\": 4503599627370495.5\n\x7d" := by decide +kernel
  have reread : (Number.double ⟨false, 9007199254740991, -1, by decide⟩).reread =
      .double ⟨false, 9007199254740990, -1, by decide⟩ :=
    (readsAs_of_scaled (y := ⟨false, 9007199254740990, -1, by decide⟩) (by decide +kernel)).reread_eq
  have again := parse_toPretty_reread accepted
  rw [lines, Value.mapNumbers, Value.mapMembers, Value.mapMembers, Value.mapNumbers, reread] at again
  rw [renderText_of_object accepted, renderText_of_object again, lines]
  dsimp only
  refine ⟨rfl, ?_, ?_, ?_, fun same => ?_⟩
  · decide +kernel
  · decide +kernel
  · decide +kernel
  · exact absurd (congrArg Rendered.formatted same) (by decide +kernel)

end TypeSketch
