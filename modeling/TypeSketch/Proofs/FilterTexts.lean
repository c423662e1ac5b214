import TypeSketch.Filter.Value
import TypeSketch.Proofs.Pretty

/-!
# Reading the texts of filter values

A filter gets a document as a value of its own and gives the text of such a value back, which is read as a
document again. The text has no blanks, and other escapes than a document on lines.

* `readText_quotedChar`, `readText_quoted` : a string in the text of a value is read as itself;
* `chars_ofNumber` : a number is written as in a document, whether it is kept as an integer or as its text;
* `spells_chars` : the text of a document's value is read as the document, but for the numbers that are read
  as others;
* `parse_text` : and so it is as a whole text.
-/

namespace TypeSketch.Filter

open Json

namespace Val

/-! ## Parts of a document -/

theorem ofItems_eq_map (items : List Value) : ofItems items = items.map ofJson := by
  induction items with
  | nil => rfl
  | cons item items ih => rw [ofItems, ih, List.map_cons]

theorem ofMembers_eq_map (members : List (String × Value)) :
    ofMembers members = members.map fun member => (member.1, ofJson member.2) := by
  induction members with
  | nil => rfl
  | cons member members ih => rw [ofMembers, ih, List.map_cons]

/-! ## Strings and numbers -/

theorem readText_quotedChar (c : Char) (read rest : List Char) :
    readText read (quotedChar c ++ rest) = readText (c :: read) rest := by
  unfold quotedChar
  split
  · next control =>
    refine readText_escape (readEscape_unit ?_ rest)
    rcases control with rfl | rfl <;> decide
  · exact readText_escaped c read rest

theorem readText_flatMap_quotedChar (s read rest : List Char) :
    readText read (s.flatMap quotedChar ++ '"' :: rest) = .ok (String.ofList (read.reverse ++ s), rest) := by
  induction s generalizing read with
  | nil => rw [List.flatMap_nil, List.nil_append, readText, if_pos rfl, List.append_nil]
  | cons c s ih =>
    rw [List.flatMap_cons, List.append_assoc, readText_quotedChar, ih, List.reverse_cons, List.append_assoc,
      List.singleton_append]

/-- A string is read as itself, whatever follows. -/
theorem readText_quoted (s : String) (rest : List Char) :
    ∃ t, quoted s ++ rest = '"' :: t ∧ readText [] t = .ok (s, rest) := by
  refine ⟨s.toList.flatMap quotedChar ++ '"' :: rest, ?_, ?_⟩
  · rw [quoted, List.cons_append, List.append_assoc, List.singleton_append]
  · rw [readText_flatMap_quotedChar, List.reverse_nil, List.nil_append, String.ofList_toList]

/-- A number is written as in a document, whether it is kept as an integer or as its text. -/
theorem chars_ofNumber (n : Number) : (ofNumber n).chars = n.write := by
  cases n with
  | integer value fits =>
    rw [ofNumber]
    split
    · rfl
    · rw [chars, String.toList_ofList]
  | double x => rw [ofNumber, chars, String.toList_ofList]

/-! ## Items and members -/

section

variable {f : Number → Number} {depth : Nat}

/-- Whatever ends its last number, the text of a document's value is read as the document but for its
numbers. -/
def Returns (f : Number → Number) (depth : Nat) (v : Value) : Prop :=
  ∀ rest, EndsNumber rest → Spells depth ((ofJson v).chars ++ rest) (v.mapNumbers f) rest

theorem endsNumber_itemChars (items : List Val) (rest : List Char) : EndsNumber (itemChars items ++ rest) := by
  cases items <;> exact endsNumber_cons (by decide) _

theorem endsNumber_memberChars (members : List (String × Val)) (rest : List Char) :
    EndsNumber (memberChars members ++ rest) := by
  cases members <;> exact endsNumber_cons (by decide) _

theorem Returns.item {item : Value} (h : Returns f depth item) {first : Bool} {s tail rest : List Char}
    {items : List Value} (before : Follows first s (skipBlanks ((ofJson item).chars ++ tail)))
    (ends : EndsNumber tail) (after : Items (Spells depth) false tail items rest) :
    Items (Spells depth) first s (item.mapNumbers f :: items) rest :=
  .item before ((h tail ends).congr (List.dropWhile_idempotent _ _).symm) after

theorem Returns.pair {value : Value} (h : Returns f depth value) {first : Bool} {key : String}
    {s tail rest : List Char} {pairs : List (String × Value)}
    (before : Follows first s (skipBlanks (quoted key ++ ':' :: ((ofJson value).chars ++ tail))))
    (ends : EndsNumber tail) (after : Pairs (Spells depth) false tail pairs rest) :
    Pairs (Spells depth) first s ((key, value.mapNumbers f) :: pairs) rest := by
  obtain ⟨t, written, name⟩ := readText_quoted key (':' :: ((ofJson value).chars ++ tail))
  rw [written] at before
  exact .pair before name rfl (h tail ends) after

theorem items_itemChars {items : List Value} (h : ∀ item ∈ items, Returns f depth item) (rest : List Char) :
    Items (Spells depth) false (itemChars (ofItems items) ++ rest) (Value.mapItems f items) rest := by
  induction items with
  | nil => exact .close rfl
  | cons item items ih =>
    obtain ⟨head, tail⟩ := List.forall_mem_cons.1 h
    rw [ofItems, itemChars, Value.mapItems, List.cons_append, List.append_assoc]
    exact head.item (.comma rfl rfl) (endsNumber_itemChars _ rest) (ih tail)

theorem pairs_memberChars {members : List (String × Value)} (h : ∀ member ∈ members, Returns f depth member.2)
    (rest : List Char) :
    Pairs (Spells depth) false (memberChars (ofMembers members) ++ rest) (Value.mapMembers f members) rest := by
  induction members with
  | nil => exact .close rfl
  | cons member members ih =>
    obtain ⟨key, value⟩ := member
    obtain ⟨head, tail⟩ := List.forall_mem_cons.1 h
    rw [ofMembers, memberChars, Value.mapMembers]
    simp only [List.cons_append, List.append_assoc]
    exact head.pair (.comma rfl rfl) (endsNumber_memberChars _ rest) (ih tail)

/-- **The text of a document's value** is read as the document, but for the numbers that are read as
others. -/
theorem spells_chars {v : Value} (within : v.Within depth) (numbers : v.EveryNumber fun n => n.ReadsAs (f n)) :
    Returns f depth v := by
  -- By induction on the nesting, as for a document on lines.
  induction within with
  | null depth =>
    intro rest _
    obtain ⟨nested, e⟩ := spells_eq_valueAt depth
    rw [e]
    exact .null rfl
  | bool depth b =>
    intro rest _
    obtain ⟨nested, e⟩ := spells_eq_valueAt depth
    rw [e]
    cases b with
    | true => exact .true rfl
    | false => exact .false rfl
  | number depth n =>
    intro rest ends
    obtain ⟨nested, e⟩ := spells_eq_valueAt depth
    rw [e, ofJson, chars_ofNumber]
    cases numbers with | number h => exact h nested rest ends
  | string depth s =>
    intro rest _
    obtain ⟨nested, e⟩ := spells_eq_valueAt depth
    obtain ⟨t, written, name⟩ := readText_quoted s rest
    rw [e, ofJson, chars, written]
    exact .string rfl name
  | @array depth items h ih =>
    intro rest _
    cases numbers with | array numbers =>
    have returns : ∀ item ∈ items, Returns f depth item := fun item mem => ih item mem (numbers item mem)
    cases items with
    | nil => exact .array rfl (.close rfl)
    | cons item items =>
      obtain ⟨head, tail⟩ := List.forall_mem_cons.1 returns
      rw [ofJson, ofItems, chars, Value.mapNumbers, Value.mapItems, List.cons_append, List.append_assoc]
      refine .array rfl ?_
      exact head.item (.first rfl) (endsNumber_itemChars _ rest) (items_itemChars tail rest)
  | @object depth members keys h ih =>
    intro rest _
    cases numbers with | object numbers =>
    have returns : ∀ member ∈ members, Returns f depth member.2 := fun member mem => ih member mem (numbers member mem)
    have distinct : Members.ofPairs (Value.mapMembers f members) = Value.mapMembers f members :=
      Members.ofPairs_of_nodup ((Value.keys_mapMembers f members).symm ▸ keys)
    rw [Value.mapNumbers, ← distinct]
    cases members with
    | nil => exact .object rfl (.close rfl)
    | cons member members =>
      obtain ⟨key, value⟩ := member
      obtain ⟨head, tail⟩ := List.forall_mem_cons.1 returns
      rw [ofJson, ofMembers, chars, Value.mapMembers]
      simp only [List.cons_append, List.append_assoc]
      refine .object rfl ?_
      exact head.pair (.first rfl) (endsNumber_memberChars _ rest) (pairs_memberChars tail rest)

end

theorem parse_text {f : Number → Number} {v : Value} (within : v.Within maxDepth)
    (numbers : v.EveryNumber fun n => n.ReadsAs (f n)) : parse (ofJson v).text = .ok (v.mapNumbers f) := by
  have spells := spells_chars within numbers [] endsNumber_nil
  rw [List.append_nil] at spells
  refine parse_eq_ok_iff.2 ⟨[], ?_, rfl⟩
  rwa [text, String.toList_ofList]

/-- A document without doubles comes back as it was. -/
theorem parse_text_of_integers {v : Value} (within : v.Within maxDepth) (integers : v.EveryNumber Number.IsInteger) :
    parse (ofJson v).text = .ok v := by
  have numbers : v.EveryNumber fun n => n.ReadsAs (id n) := by
    refine integers.imp ?_
    rintro n ⟨value, fits, rfl⟩
    exact readsAs_integer fits
  rw [parse_text within numbers, Value.mapNumbers_id]

end Val

end TypeSketch.Filter
