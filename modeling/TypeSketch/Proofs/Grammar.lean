import TypeSketch.Json.Parser

/-!
# The grammar of documents

What a text has to look like to be read as a value, said without the loops of the readers.

* `Next`, `Follows` : a character after blanks, and the place of the next item or member;
* `Items`, `Pairs` : the items of an array up to its closing bracket, and the pairs of an object up to
  its closing brace, a repeated key being a pair of its own;
* `ValueAt`, `Spells` : a value whose containers nest at most so deep;
* `IsDocument`, `IsObjectOf` : a whole text that is a value, and one that is an object of some pairs;
* `items_of_readItems`, `pairs_of_readMembers`, `valueAt_of_runValue`, their converses, and
  `readValue_takes` : the readers take exactly what the grammar describes;
* `parse_eq_ok_iff` : and so does the parser.
-/

namespace TypeSketch.Json

variable {α : Type}

/-! ## Between values -/

/-- After its blanks, the text `s` goes on with `c`, and `rest` follows. -/
def Next (c : Char) (s rest : List Char) : Prop := skipBlanks s = c :: rest

/-- The next item or member stands at `t`: right after the opening bracket or brace if it is the
first one, and otherwise after a comma. -/
inductive Follows : Bool → List Char → List Char → Prop
  | first {s t : List Char} (h : skipBlanks s = t) : Follows true s t
  | comma {s t rest : List Char} (h : Next ',' s rest) (ht : skipBlanks rest = t) : Follows false s t

/-- A text that goes on with something else than the end of an array. -/
def Opens (t : List Char) : Prop := ∃ c rest, t = c :: rest ∧ c ≠ ']'

theorem nextItem_eq_none_iff {first : Bool} {s : List Char} :
    nextItem? first s = .ok none ↔ ∃ rest, Next ']' s rest := by
  unfold nextItem? Next
  grind

theorem nextItem_eq_some_iff {first : Bool} {s t : List Char} :
    nextItem? first s = .ok (some t) ↔ Follows first s t ∧ Opens t := by
  constructor
  · intro h
    unfold nextItem? at h
    split at h
    · simp at h
    · simp at h
    · next c rest hc hs =>
      split at h
      · next hf =>
        obtain rfl : c :: rest = t := by simpa using h
        exact ⟨hf ▸ .first hs, c, rest, rfl, hc⟩
      · next hf =>
        split at h
        · next hcomma =>
          split at h
          · simp at h
          · simp at h
          · next hnil hclose =>
            obtain rfl : skipBlanks rest = t := by simpa using h
            obtain ⟨d, after, ht⟩ := List.exists_cons_of_ne_nil hnil
            rw [Bool.not_eq_true] at hf
            exact ⟨hf ▸ .comma (hcomma ▸ hs) rfl, d, after, ht, fun e => hclose after (by rw [ht, e])⟩
        · simp at h
  · rintro ⟨before, c, rest, rfl, hc⟩
    unfold nextItem?
    cases before with
    | first h => grind
    | comma h ht => grind [Next]

theorem nextMember_eq_none_iff {first : Bool} {s : List Char} :
    nextMember? first s = .ok none ↔ ∃ rest, Next '\x7d' s rest := by
  unfold nextMember? Next
  grind

theorem nextMember_eq_some_iff {first : Bool} {s t : List Char} :
    nextMember? first s = .ok (some t) ↔ Follows first s t ∧ ∃ rest, t = '"' :: rest := by
  constructor
  · intro h
    unfold nextMember? at h
    split at h
    · simp at h
    · next c rest hs =>
      split at h
      · simp at h
      · split at h
        · next hf =>
          split at h
          · next hq =>
            obtain rfl : c :: rest = t := by simpa using h
            exact ⟨hf ▸ .first hs, rest, by rw [hq]⟩
          · simp at h
        · next hf =>
          rw [Bool.not_eq_true] at hf
          split at h
          · next hcomma =>
            split at h
            · simp at h
            · next d after hs' =>
              split at h
              · next hq =>
                obtain rfl : d :: after = t := by simpa using h
                exact ⟨hf ▸ .comma (hcomma ▸ hs) hs', after, by rw [hq]⟩
              · split at h <;> simp at h
          · simp at h
  · rintro ⟨before, rest, rfl⟩
    unfold nextMember?
    cases before with
    | first h => grind
    | comma h ht => grind [Next]

/-! ## Containers -/

/-- What a reader takes off the front of a text. -/
def Reader.Takes (reader : Reader Fault α) (s : List Char) (a : α) (rest : List Char) : Prop :=
  reader.run s = .ok (a, rest)

/-- The items of an array, from after the opening bracket or an item to after the closing bracket. -/
inductive Items (Item : List Char → α → List Char → Prop) : Bool → List Char → List α → List Char → Prop
  | close {first : Bool} {s rest : List Char} (h : Next ']' s rest) : Items Item first s [] rest
  | item {first : Bool} {s t u rest : List Char} {a : α} {items : List α} (before : Follows first s t)
      (here : Item t a u) (after : Items Item false u items rest) : Items Item first s (a :: items) rest

/-- The pairs of an object, from after the opening brace or a pair to after the closing brace. Escapes
in keys are resolved, and a key that is there already makes another pair. -/
inductive Pairs (Item : List Char → α → List Char → Prop) :
    Bool → List Char → List (String × α) → List Char → Prop
  | close {first : Bool} {s rest : List Char} (h : Next '\x7d' s rest) : Pairs Item first s [] rest
  | pair {first : Bool} {s t u w x rest : List Char} {key : String} {a : α} {pairs : List (String × α)}
      (before : Follows first s ('"' :: t)) (name : readText [] t = .ok (key, u)) (colon : Next ':' u w)
      (here : Item w a x) (after : Pairs Item false x pairs rest) :
      Pairs Item first s ((key, a) :: pairs) rest

theorem readText_escape {read s rest : List Char} {c : Char} (h : readEscape s = .ok (c, rest)) :
    readText read ('\\' :: s) = readText (c :: read) rest := by
  rw [readText, if_neg (by decide), if_pos rfl]
  split
  · next failed => cases failed.symm.trans h
  · next taken => cases taken.symm.trans h; rfl

theorem readColon_eq_ok_iff {s rest : List Char} : readColon s = .ok rest ↔ Next ':' s rest := by
  unfold readColon Next
  split
  · next r hr => simp [hr]
  · next hr => simp [hr]
  · next hc hr => simpa using fun h => hc rest h

theorem takes_map_iff {β : Type} {f : α → β} {reader : Reader Fault α} {s rest : List Char} {b : β} :
    (reader.map f).run s = .ok (b, rest) ↔ ∃ a, reader.Takes s a rest ∧ f a = b := by
  unfold Reader.map Reader.Takes
  dsimp only
  split
  · next h => simp [h]
  · next a r h => grind

/-- The reader of one more pair takes a key, a colon and a value. -/
theorem readMember_eq_ok_iff {reader : Reader Fault α} {read out : List (String × α)}
    {s rest : List Char} :
    (readMember id id fun key _ => .ok (reader.map fun a => (key, a) :: read)).run ('"' :: s) =
        .ok (out, rest) ↔
      ∃ key u w a, readText [] s = .ok (key, u) ∧ Next ':' u w ∧ reader.Takes w a rest ∧
        out = (key, a) :: read := by
  simp only [readMember, readKey, List.tail_cons]
  constructor
  · intro h
    split at h
    · simp at h
    · next key u hk =>
      split at h
      · simp at h
      · next w hw =>
        obtain ⟨a, ha, rfl⟩ := takes_map_iff.1 h
        exact ⟨key, u, w, a, hk, readColon_eq_ok_iff.1 hw, ha, rfl⟩
  · rintro ⟨key, u, w, a, hk, hw, ha, rfl⟩
    rw [hk]
    dsimp only
    rw [readColon_eq_ok_iff.2 hw]
    exact takes_map_iff.2 ⟨a, ha, rfl⟩

/-! ## Loops -/

theorem items_of_readItems {item : Reader Fault α} {first : Bool} {read out : List α} {s rest : List Char}
    (h : readItems id (fun items => item.map (· :: items)) first read s = .ok (out, rest)) :
    ∃ items t, Items item.Takes first s items t ∧ out = items.reverse ++ read ∧ rest = ']' :: t := by
  fun_induction readItems id (fun items => item.map (· :: items)) first read s with
  | case1 => simp at h
  | case2 first read s before =>
    obtain ⟨t, ht⟩ := nextItem_eq_none_iff.1 before
    simp only [Except.ok.injEq, Prod.mk.injEq] at h
    exact ⟨[], t, .close ht, by simp [h.1], h.2.symm.trans ht⟩
  | case3 => simp at h
  | case4 first read s s' before read' u taken ih =>
    obtain ⟨a, ha, rfl⟩ := takes_map_iff.1 taken
    obtain ⟨items, t, hitems, rfl, rfl⟩ := ih h
    exact ⟨a :: items, t, .item (nextItem_eq_some_iff.1 before).1 ha hitems, by simp, rfl⟩

theorem readItems_of_items {item : Reader Fault α} (opens : ∀ s a rest, item.Takes s a rest → Opens s)
    {first : Bool} {items : List α} {s t : List Char} (h : Items item.Takes first s items t) (read : List α) :
    readItems id (fun items => item.map (· :: items)) first read s = .ok (items.reverse ++ read, ']' :: t) := by
  induction h generalizing read with
  | close h =>
    rw [readItems]
    split
    · next hn => simp [nextItem_eq_none_iff.2 ⟨_, h⟩] at hn
    · simp only [List.reverse_nil, List.nil_append, Except.ok.injEq, Prod.mk.injEq, true_and]
      exact h
    · next hn => simp [nextItem_eq_none_iff.2 ⟨_, h⟩] at hn
  | @item first s s' u t a items before here after ih =>
    have hs := nextItem_eq_some_iff.2 ⟨before, opens _ _ _ here⟩
    have ht : (item.map (· :: read)).run s' = .ok (a :: read, u) := takes_map_iff.2 ⟨a, here, rfl⟩
    rw [readItems]
    grind

/-- The reader of one more pair, as objects use it. -/
def pairReader (reader : Reader Fault α) (read : List (String × α)) : Reader Fault (List (String × α)) :=
  readMember id id fun key _ => .ok (reader.map fun a => (key, a) :: read)

theorem pairs_of_readMembers {value : Reader Fault α} {first : Bool} {read out : List (String × α)}
    {s rest : List Char} (h : readMembers id (pairReader value) first read s = .ok (out, rest)) :
    ∃ pairs t, Pairs value.Takes first s pairs t ∧ out = pairs.reverse ++ read ∧ rest = '\x7d' :: t := by
  fun_induction readMembers id (pairReader value) first read s with
  | case1 => simp at h
  | case2 first read s before =>
    obtain ⟨t, ht⟩ := nextMember_eq_none_iff.1 before
    simp only [Except.ok.injEq, Prod.mk.injEq] at h
    exact ⟨[], t, .close ht, by simp [h.1], h.2.symm.trans ht⟩
  | case3 => simp at h
  | case4 first read s s' before read' x taken ih =>
    obtain ⟨follows, k, rfl⟩ := nextMember_eq_some_iff.1 before
    obtain ⟨key, u, w, a, hk, hw, ha, rfl⟩ := readMember_eq_ok_iff.1 taken
    obtain ⟨pairs, t, hpairs, rfl, rfl⟩ := ih h
    exact ⟨(key, a) :: pairs, t, .pair follows hk hw ha hpairs, by simp, rfl⟩

theorem readMembers_of_pairs {value : Reader Fault α} {first : Bool} {pairs : List (String × α)}
    {s t : List Char} (h : Pairs value.Takes first s pairs t) (read : List (String × α)) :
    readMembers id (pairReader value) first read s = .ok (pairs.reverse ++ read, '\x7d' :: t) := by
  induction h generalizing read with
  | close h =>
    rw [readMembers]
    split
    · next hn => simp [nextMember_eq_none_iff.2 ⟨_, h⟩] at hn
    · simp only [List.reverse_nil, List.nil_append, Except.ok.injEq, Prod.mk.injEq, true_and]
      exact h
    · next hn => simp [nextMember_eq_none_iff.2 ⟨_, h⟩] at hn
  | @pair first s k u w x t key a pairs before name colon here after ih =>
    have hs := nextMember_eq_some_iff.2 ⟨before, k, rfl⟩
    have ht : (pairReader value read).run ('"' :: k) = .ok ((key, a) :: read, x) :=
      readMember_eq_ok_iff.2 ⟨key, u, w, a, name, colon, here, rfl⟩
    rw [readMembers]
    grind

/-! ## Values -/

/-- A value at the front of a text, `nested` saying what the values in its containers look like and
being `none` where there can be no containers. -/
inductive ValueAt : Option (List Char → Value → List Char → Prop) → List Char → Value → List Char → Prop
  | null {nested s rest} (h : skipBlanks s = 'n' :: 'u' :: 'l' :: 'l' :: rest) : ValueAt nested s .null rest
  | true {nested s rest} (h : skipBlanks s = 't' :: 'r' :: 'u' :: 'e' :: rest) :
      ValueAt nested s (.bool true) rest
  | false {nested s rest} (h : skipBlanks s = 'f' :: 'a' :: 'l' :: 's' :: 'e' :: rest) :
      ValueAt nested s (.bool false) rest
  | negative {nested s t rest n} (h : Next '-' s t) (hn : readNumber true t = .ok (n, rest)) :
      ValueAt nested s (.number n) rest
  | number {nested s c t rest n} (h : Next c s t) (hc : c.isDigit) (hn : readNumber false (c :: t) = .ok (n, rest)) :
      ValueAt nested s (.number n) rest
  | string {nested s t rest text} (h : Next '"' s t) (ht : readText [] t = .ok (text, rest)) :
      ValueAt nested s (.string text) rest
  | array {Item s t rest items} (h : Next '[' s t) (hi : Items Item true t items rest) :
      ValueAt (some Item) s (.array items) rest
  /-- Of a repeated key the first place and the last value count. -/
  | object {Item s t rest pairs} (h : Next '\x7b' s t) (hp : Pairs Item true t pairs rest) :
      ValueAt (some Item) s (.object (Members.ofPairs pairs)) rest

/-- A value at the front of a text whose containers nest at most `depth` deep. -/
def Spells : Nat → List Char → Value → List Char → Prop
  | 0 => ValueAt none
  | depth + 1 => ValueAt (some (Spells depth))

/-- A whole text that is a value, with nothing but blanks around it. -/
def IsDocument (text : String) (value : Value) : Prop :=
  ∃ rest, Spells maxDepth text.toList value rest ∧ skipBlanks rest = []

/-- A whole text that is an object of some pairs, in the order of the text. -/
def IsObjectOf (text : String) (pairs : List (String × Value)) : Prop :=
  ∃ t rest, Next '\x7b' text.toList t ∧ Pairs (Spells (maxDepth - 1)) true t pairs rest ∧ skipBlanks rest = []

/-! ## Readers of values -/

theorem readWord_eq_ok_iff {letters s rest : List Char} :
    readWord letters s = .ok rest ↔ s = letters ++ rest := by
  fun_induction readWord letters s <;> grind

theorem map_eq_ok_iff {β : Type} {f : α → β} {result : Except Fault α} {b : β} :
    result.map f = .ok b ↔ ∃ a, result = .ok a ∧ f a = b := by
  cases result <;> simp [Except.map]

theorem readArray_eq_ok_iff {item : Reader Fault Value}
    (opens : ∀ s v rest, item.Takes s v rest → Opens s) {s rest : List Char} {v : Value} :
    readArray item s = .ok (v, rest) ↔ ∃ items, Items item.Takes true s items rest ∧ v = .array items := by
  unfold readArray
  constructor
  · intro h
    split at h
    · simp at h
    · next read r hr =>
      obtain ⟨items, t, hitems, rfl, rfl⟩ := items_of_readItems hr
      simp only [List.append_nil, List.reverse_reverse, List.tail_cons, Except.ok.injEq, Prod.mk.injEq] at h
      exact ⟨items, h.2 ▸ hitems, h.1.symm⟩
  · rintro ⟨items, hitems, rfl⟩
    rw [readItems_of_items opens hitems []]
    simp

theorem readObject_eq_ok_iff {value : Reader Fault Value} {s rest : List Char} {v : Value} :
    readObject value s = .ok (v, rest) ↔
      ∃ pairs, Pairs value.Takes true s pairs rest ∧ v = .object (Members.ofPairs pairs) := by
  have loop : readObject value s = (readMembers id (pairReader value) true [] s).map fun read =>
      (.object (Members.ofPairs read.1.reverse), read.2.tail) := by
    unfold readObject pairReader
    dsimp only
    split
    · next hr => rw [hr]; rfl
    · next hr => rw [hr]; rfl
  rw [loop]
  constructor
  · intro h
    obtain ⟨⟨read, r⟩, hr, h⟩ := map_eq_ok_iff.1 h
    obtain ⟨pairs, t, hpairs, rfl, rfl⟩ := pairs_of_readMembers hr
    simp only [List.append_nil, List.reverse_reverse, List.tail_cons, Prod.mk.injEq] at h
    exact ⟨pairs, h.2 ▸ hpairs, h.1.symm⟩
  · rintro ⟨pairs, hpairs, rfl⟩
    rw [readMembers_of_pairs hpairs []]
    simp [Except.map]

/-- A value never starts where an array ends. -/
theorem opens_of_runValue {nested : Option (Reader Fault Value)} {s rest : List Char} {v : Value}
    (h : runValue nested s = .ok (v, rest)) : Opens s := by
  cases s with
  | nil => simp [runValue, skipBlanks] at h
  | cons c s =>
    refine ⟨c, s, rfl, ?_⟩
    rintro rfl
    have : skipBlanks (']' :: s) = ']' :: s := by simp [skipBlanks, isBlank]
    simp [runValue, this] at h

theorem valueAt_of_runValue {nested : Option (Reader Fault Value)}
    (opens : ∀ reader ∈ nested, ∀ s v rest, reader.Takes s v rest → Opens s) {s rest : List Char} {v : Value}
    (h : runValue nested s = .ok (v, rest)) : ValueAt (nested.map Reader.Takes) s v rest := by
  unfold runValue at h
  split at h
  · simp at h
  · next c t hs =>
    split at h
    · next hc =>
      obtain ⟨r, hr, e⟩ := map_eq_ok_iff.1 h
      cases e
      exact .null (by rw [hs, hc, readWord_eq_ok_iff.1 hr]; rfl)
    split at h
    · next hc =>
      obtain ⟨r, hr, e⟩ := map_eq_ok_iff.1 h
      cases e
      exact .true (by rw [hs, hc, readWord_eq_ok_iff.1 hr]; rfl)
    split at h
    · next hc =>
      obtain ⟨r, hr, e⟩ := map_eq_ok_iff.1 h
      cases e
      exact .false (by rw [hs, hc, readWord_eq_ok_iff.1 hr]; rfl)
    split at h
    · next hc =>
      obtain ⟨r, hr, e⟩ := map_eq_ok_iff.1 h
      cases e
      exact .negative (hc ▸ hs) hr
    split at h
    · next hc =>
      obtain ⟨r, hr, e⟩ := map_eq_ok_iff.1 h
      cases e
      exact .number hs hc hr
    split at h
    · next hc =>
      obtain ⟨r, hr, e⟩ := map_eq_ok_iff.1 h
      cases e
      exact .string (hc ▸ hs) hr
    split at h
    · next hc =>
      cases nested with
      | none => simp at h
      | some item =>
        obtain ⟨items, hitems, rfl⟩ := (readArray_eq_ok_iff (opens item rfl)).1 h
        exact .array (hc ▸ hs) hitems
    split at h
    · next hc =>
      cases nested with
      | none => simp at h
      | some value =>
        obtain ⟨pairs, hpairs, rfl⟩ := readObject_eq_ok_iff.1 h
        exact .object (hc ▸ hs) hpairs
    · simp at h

theorem runValue_of_valueAt {nested : Option (Reader Fault Value)}
    (opens : ∀ reader ∈ nested, ∀ s v rest, reader.Takes s v rest → Opens s) {s rest : List Char} {v : Value}
    (h : ValueAt (nested.map Reader.Takes) s v rest) : runValue nested s = .ok (v, rest) := by
  generalize hR : nested.map Reader.Takes = R at h
  cases h with
  | null h => simp [runValue, h, readWord, Except.map]
  | true h => simp [runValue, h, readWord, Except.map]
  | false h => simp [runValue, h, readWord, Except.map]
  | negative h hn =>
    rw [Next] at h
    simp [runValue, h, hn, Except.map]
  | @number _ s c t rest n h hc hn =>
    rw [Next] at h
    have notLetter : c ≠ 'n' ∧ c ≠ 't' ∧ c ≠ 'f' ∧ c ≠ '-' := by
      refine ⟨?_, ?_, ?_, ?_⟩ <;> (rintro rfl; simp [Char.isDigit] at hc)
    simp [runValue, h, hn, hc, notLetter, Except.map]
  | string h ht =>
    rw [Next] at h
    simp [runValue, h, ht, Except.map, Char.isDigit]
  | array h hi =>
    cases nested with
    | none => simp at hR
    | some item =>
      obtain rfl := Option.some.inj hR
      rw [Next] at h
      simp [runValue, h, Char.isDigit, (readArray_eq_ok_iff (opens item rfl)).2 ⟨_, hi, rfl⟩]
  | object h hp =>
    cases nested with
    | none => simp at hR
    | some value =>
      obtain rfl := Option.some.inj hR
      rw [Next] at h
      simp [runValue, h, Char.isDigit, readObject_eq_ok_iff.2 ⟨_, hp, rfl⟩]

theorem opens_of_readValue {depth : Nat} {s rest : List Char} {v : Value}
    (h : (readValue depth).Takes s v rest) : Opens s := by
  cases depth with
  | zero => exact @opens_of_runValue none s rest v h
  | succ depth => exact @opens_of_runValue (some (readValue depth)) s rest v h

/-- Reading values up to a depth takes exactly the values of the grammar up to that depth. -/
theorem readValue_takes (depth : Nat) : (readValue depth).Takes = Spells depth := by
  induction depth with
  | zero =>
    funext s v rest
    exact propext ⟨@valueAt_of_runValue none (by simp) s rest v, @runValue_of_valueAt none (by simp) s rest v⟩
  | succ depth ih =>
    have opens : ∀ reader ∈ some (readValue depth), ∀ s v rest, reader.Takes s v rest → Opens s := by
      intro reader hreader s v rest h
      obtain rfl := Option.some.inj hreader
      exact opens_of_readValue h
    have nested : (some (readValue depth)).map Reader.Takes = some (Spells depth) := by rw [Option.map_some, ih]
    funext s v rest
    rw [Spells, ← nested]
    exact propext ⟨valueAt_of_runValue opens, runValue_of_valueAt opens⟩

theorem parse_eq_ok_iff {text : String} {value : Value} : parse text = .ok value ↔ IsDocument text value := by
  have takes : ∀ v rest, (readValue maxDepth).run text.toList = .ok (v, rest) ↔
      Spells maxDepth text.toList v rest := by
    intro v rest
    rw [← readValue_takes]
    rfl
  unfold parse parseChars IsDocument
  constructor
  · intro h
    split at h
    · simp at h
    · next v rest hr =>
      split at h
      · next blank =>
        obtain rfl : v = value := by simpa using h
        exact ⟨rest, (takes _ _).1 hr, blank⟩
      · simp at h
  · rintro ⟨rest, hv, blank⟩
    rw [(takes _ _).2 hv]
    simp [blank]

/-- The pairs of an object are determined by its text. -/
theorem Pairs.unique {depth : Nat} {s rest rest' : List Char} {pairs pairs' : List (String × Value)}
    (h : Pairs (Spells depth) true s pairs rest) (h' : Pairs (Spells depth) true s pairs' rest') :
    pairs = pairs' := by
  rw [← readValue_takes] at h h'
  have e := (readMembers_of_pairs h []).symm.trans (readMembers_of_pairs h' [])
  simp only [List.append_nil, Except.ok.injEq, Prod.mk.injEq, List.reverse_inj] at e
  exact e.1

theorem IsObjectOf.unique {text : String} {pairs pairs' : List (String × Value)} (h : IsObjectOf text pairs)
    (h' : IsObjectOf text pairs') : pairs = pairs' := by
  obtain ⟨t, rest, ht, hp, -⟩ := h
  obtain ⟨t', rest', ht', hp', -⟩ := h'
  obtain rfl : t = t' := by simpa using ht.symm.trans ht'
  exact hp.unique hp'

/-- The objects among the documents are those that are objects of some pairs. -/
theorem isDocument_object_iff {text : String} {members : List (String × Value)} :
    IsDocument text (.object members) ↔ ∃ pairs, IsObjectOf text pairs ∧ members = Members.ofPairs pairs := by
  constructor
  · rintro ⟨rest, h, blank⟩
    cases h with
    | object h hp => exact ⟨_, ⟨_, rest, h, hp, blank⟩, rfl⟩
  · rintro ⟨pairs, ⟨t, rest, h, hp, blank⟩, rfl⟩
    exact ⟨rest, .object h hp, blank⟩

theorem parse_braces : parse "\x7b\x7d" = .ok (.object []) := by
  have isObject : IsObjectOf "\x7b\x7d" [] := ⟨['\x7d'], [], rfl, .close rfl, rfl⟩
  exact parse_eq_ok_iff.2 (isDocument_object_iff.2 ⟨[], isObject, rfl⟩)

end TypeSketch.Json
