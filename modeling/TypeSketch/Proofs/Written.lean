import TypeSketch.Proofs.Grammar

/-!
# Values as they are written

A document is read as a value in which a repeated key has been settled. Where the repetition matters, the
value is looked at as it is written.

* `Value.settled` : a value with the repeated keys of its objects settled, at every depth;
* `Writes`, `IsWritten` : a value at the front of a text with all members that are written there, and a
  whole text that is such a value;
* `items_map_iff`, `pairs_map_iff` : items and pairs of which each is made into another one;
* `parse_eq_ok_iff_written` : a text is read as the settled form of what is written there;
* `Writes.opener` : the first character of a text tells what is written there.
-/

namespace TypeSketch.Json

/-! ## Settling repeated keys -/

mutual

/-- The value with the repeated keys of its objects settled, at every depth. -/
def Value.settled : Value → Value
  | .null => .null
  | .bool b => .bool b
  | .number n => .number n
  | .string s => .string s
  | .array items => .array (settledItems items)
  | .object pairs => .object (Members.ofPairs (settledPairs pairs))

/-- The items with their repeated keys settled. -/
def Value.settledItems : List Value → List Value
  | [] => []
  | item :: items => item.settled :: settledItems items

/-- The pairs with the repeated keys of their values settled. -/
def Value.settledPairs : List (String × Value) → List (String × Value)
  | [] => []
  | (key, value) :: pairs => (key, value.settled) :: settledPairs pairs

end

theorem settledItems_eq_map (items : List Value) : Value.settledItems items = items.map Value.settled := by
  induction items with
  | nil => rfl
  | cons item items ih => rw [Value.settledItems, ih, List.map_cons]

theorem settledPairs_eq_map (pairs : List (String × Value)) :
    Value.settledPairs pairs = pairs.map fun pair => (pair.1, pair.2.settled) := by
  induction pairs with
  | nil => rfl
  | cons pair pairs ih => rw [Value.settledPairs, ih, List.map_cons]

/-! ## The grammar of written values -/

/-- A value at the front of a text with all its members, `Item` saying what the values in its containers
look like. -/
inductive WrittenAt (Item : List Char → Value → List Char → Prop) : List Char → Value → List Char → Prop
  | plain {s v rest} (h : ValueAt none s v rest) : WrittenAt Item s v rest
  | array {s t rest items} (h : Next '[' s t) (hi : Items Item true t items rest) :
      WrittenAt Item s (.array items) rest
  | object {s t rest pairs} (h : Next '\x7b' s t) (hp : Pairs Item true t pairs rest) :
      WrittenAt Item s (.object pairs) rest

/-- A value at the front of a text with all its members, whose containers nest at most `depth` deep. -/
def Writes : Nat → List Char → Value → List Char → Prop
  | 0 => ValueAt none
  | depth + 1 => WrittenAt (Writes depth)

/-- A whole text that is a value with all its members, and nothing but blanks around it. -/
def IsWritten (text : String) (value : Value) : Prop :=
  ∃ rest, Writes maxDepth text.toList value rest ∧ skipBlanks rest = []

/-! ## What is read of it -/

section

variable {α β : Type} {Item : List Char → α → List Char → Prop} {Other : List Char → β → List Char → Prop} {f : β → α}

theorem items_map_iff (same : ∀ s a rest, Item s a rest ↔ ∃ b, Other s b rest ∧ f b = a) {first : Bool}
    {s rest : List Char} {items : List α} :
    Items Item first s items rest ↔ ∃ others, Items Other first s others rest ∧ others.map f = items := by
  constructor
  · intro h
    induction h with
    | close h => exact ⟨[], .close h, rfl⟩
    | item before here _ ih =>
      obtain ⟨b, other, rfl⟩ := (same _ _ _).1 here
      obtain ⟨others, after, rfl⟩ := ih
      exact ⟨b :: others, .item before other after, rfl⟩
  · rintro ⟨others, h, rfl⟩
    induction h with
    | close h => exact .close h
    | item before here _ ih => exact .item before ((same _ _ _).2 ⟨_, here, rfl⟩) ih

theorem pairs_map_iff (same : ∀ s a rest, Item s a rest ↔ ∃ b, Other s b rest ∧ f b = a) {first : Bool}
    {s rest : List Char} {pairs : List (String × α)} :
    Pairs Item first s pairs rest ↔
      ∃ others, Pairs Other first s others rest ∧ (others.map fun pair => (pair.1, f pair.2)) = pairs := by
  constructor
  · intro h
    induction h with
    | close h => exact ⟨[], .close h, rfl⟩
    | @pair _ _ _ _ _ _ _ key _ _ before name colon here _ ih =>
      obtain ⟨b, other, rfl⟩ := (same _ _ _).1 here
      obtain ⟨others, after, rfl⟩ := ih
      exact ⟨(key, b) :: others, .pair before name colon other after, rfl⟩
  · rintro ⟨others, h, rfl⟩
    induction h with
    | close h => exact .close h
    | pair before name colon here _ ih => exact .pair before name colon ((same _ _ _).2 ⟨_, here, rfl⟩) ih

end

variable {depth : Nat} {s rest : List Char} {v : Value} {text : String}

/-- A value that is no container is read as it is written. -/
theorem settled_of_plain (h : ValueAt none s v rest) : v.settled = v := by
  cases h <;> rfl

theorem valueAt_of_plain {Item : List Char → Value → List Char → Prop} (h : ValueAt none s v rest) :
    ValueAt (some Item) s v rest := by
  cases h with
  | null h => exact .null h
  | true h => exact .true h
  | false h => exact .false h
  | negative h hn => exact .negative h hn
  | number h hc hn => exact .number h hc hn
  | string h ht => exact .string h ht

/-- A text is read as the settled form of what is written there. -/
theorem spells_iff_writes : Spells depth s v rest ↔ ∃ written, Writes depth s written rest ∧ written.settled = v := by
  induction depth generalizing s v rest with
  | zero =>
    constructor
    · intro h
      exact ⟨v, h, settled_of_plain h⟩
    · rintro ⟨written, h, rfl⟩
      rw [settled_of_plain h]
      exact h
  | succ depth ih =>
    have nested : ∀ s v rest, Spells depth s v rest ↔ ∃ written, Writes depth s written rest ∧ written.settled = v :=
      fun _ _ _ => ih
    constructor
    · intro h
      cases h with
      | null h => exact ⟨_, .plain (.null h), rfl⟩
      | true h => exact ⟨_, .plain (.true h), rfl⟩
      | false h => exact ⟨_, .plain (.false h), rfl⟩
      | negative h hn => exact ⟨_, .plain (.negative h hn), rfl⟩
      | number h hc hn => exact ⟨_, .plain (.number h hc hn), rfl⟩
      | string h ht => exact ⟨_, .plain (.string h ht), rfl⟩
      | array h hi =>
        obtain ⟨items, written, rfl⟩ := (items_map_iff nested).1 hi
        exact ⟨.array items, .array h written, by rw [Value.settled, settledItems_eq_map]⟩
      | object h hp =>
        obtain ⟨pairs, written, rfl⟩ := (pairs_map_iff nested).1 hp
        exact ⟨.object pairs, .object h written, by rw [Value.settled, settledPairs_eq_map]⟩
    · rintro ⟨written, h, rfl⟩
      cases h with
      | plain h =>
        rw [settled_of_plain h]
        exact valueAt_of_plain h
      | array h hi =>
        rw [Value.settled, settledItems_eq_map]
        exact .array h ((items_map_iff nested).2 ⟨_, hi, rfl⟩)
      | object h hp =>
        rw [Value.settled, settledPairs_eq_map]
        exact .object h ((pairs_map_iff nested).2 ⟨_, hp, rfl⟩)

theorem parse_eq_ok_iff_written :
    parse text = .ok v ↔ ∃ written, IsWritten text written ∧ written.settled = v := by
  rw [parse_eq_ok_iff]
  constructor
  · rintro ⟨rest, h, blank⟩
    obtain ⟨written, h, settled⟩ := spells_iff_writes.1 h
    exact ⟨written, ⟨rest, h, blank⟩, settled⟩
  · rintro ⟨written, ⟨rest, h, blank⟩, settled⟩
    exact ⟨rest, spells_iff_writes.2 ⟨written, h, settled⟩, blank⟩

/-! ## What the first character tells -/

/-- The first character of a value tells whether it is null, a text, an array or an object. -/
structure Opener (v : Value) (c : Char) : Prop where
  null : c = 'n' ↔ v = .null
  string : c = '"' ↔ ∃ text, v = .string text
  array : c = '[' ↔ ∃ items, v = .array items
  object : c = '\x7b' ↔ ∃ pairs, v = .object pairs

theorem opener_of_plain (h : ValueAt none s v rest) : ∃ c t, skipBlanks s = c :: t ∧ Opener v c := by
  cases h with
  | null h => exact ⟨_, _, h, by simp, by simp, by simp, by simp⟩
  | true h => exact ⟨_, _, h, by simp, by simp, by simp, by simp⟩
  | false h => exact ⟨_, _, h, by simp, by simp, by simp, by simp⟩
  | negative h => exact ⟨_, _, h, by simp, by simp, by simp, by simp⟩
  | @number _ _ c _ _ _ h hc =>
    have apart {d : Char} (other : d.isDigit = false) : c ≠ d := by
      rintro rfl
      rw [hc] at other
      cases other
    exact ⟨_, _, h, by simpa using apart (by decide), by simpa using apart (by decide),
      by simpa using apart (by decide), by simpa using apart (by decide)⟩
  | string h => exact ⟨_, _, h, by simp, by simp, by simp, by simp⟩

theorem Writes.opener (h : Writes depth s v rest) : ∃ c t, skipBlanks s = c :: t ∧ Opener v c := by
  cases depth with
  | zero => exact opener_of_plain h
  | succ depth =>
    cases h with
    | plain h => exact opener_of_plain h
    | array h => exact ⟨_, _, h, by simp, by simp, by simp, by simp⟩
    | object h => exact ⟨_, _, h, by simp, by simp, by simp, by simp⟩

theorem Writes.opens (h : Writes depth s v rest) : Opens s := by
  have h := spells_iff_writes.2 ⟨v, h, rfl⟩
  rw [← readValue_takes] at h
  exact opens_of_readValue h

/-! ## What is written by its kind -/

theorem Writes.null_inv (h : Writes depth s .null rest) : skipBlanks s = 'n' :: 'u' :: 'l' :: 'l' :: rest := by
  cases depth with
  | zero => cases h; assumption
  | succ depth =>
    cases h with
    | plain h => cases h; assumption

theorem Writes.string_inv (h : Writes depth s (.string text) rest) :
    ∃ t, Next '"' s t ∧ readText [] t = .ok (text, rest) := by
  cases depth with
  | zero => cases h with | string h ht => exact ⟨_, h, ht⟩
  | succ depth =>
    cases h with
    | plain h => cases h with | string h ht => exact ⟨_, h, ht⟩

theorem Writes.array_inv {items : List Value} (h : Writes depth s (.array items) rest) :
    ∃ below t, Next '[' s t ∧ Items (Writes below) true t items rest := by
  cases depth with
  | zero => cases h
  | succ depth =>
    cases h with
    | plain h => cases h
    | array h hi => exact ⟨depth, _, h, hi⟩

theorem Writes.object_inv {pairs : List (String × Value)} (h : Writes depth s (.object pairs) rest) :
    ∃ below t, Next '\x7b' s t ∧ Pairs (Writes below) true t pairs rest := by
  cases depth with
  | zero => cases h
  | succ depth =>
    cases h with
    | plain h => cases h
    | object h hp => exact ⟨depth, _, h, hp⟩

end TypeSketch.Json
