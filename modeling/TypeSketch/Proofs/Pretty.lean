import Mathlib.Data.List.DropRight
import TypeSketch.Proofs.Members
import TypeSketch.Proofs.Numbers
import TypeSketch.Proofs.Numerals
import TypeSketch.Proofs.Quoting
import TypeSketch.Surface

/-!
# Reading a document that was written on lines

* `Value.Within` : the values that a document can have, with containers nested at most so deep and
  no key twice in an object;
* `Number.ReadsAs` : what a number is read as from its text, wherever it stands;
* `spells_pretty` : a value on lines is read as itself, but for the numbers that are read as others;
* `readsAs_integer` : integers are read as themselves;
* `formatJson_parses` : so a document without doubles is kept as it is.
-/

namespace TypeSketch.Json

/-! ## Blanks -/

theorem skipBlanks_newline (level : Nat) (s : List Char) : skipBlanks (Value.newline level ++ s) = skipBlanks s := by
  have blank : ∀ c ∈ Value.newline level, isBlank c = true := by
    intro c h
    rcases List.mem_cons.1 h with rfl | h
    · rfl
    · rw [List.eq_of_mem_replicate h]
      rfl
  exact List.dropWhile_append_of_pos blank

/-- Blanks in front of a value do not matter. -/
theorem ValueAt.congr {nested : Option (List Char → Value → List Char → Prop)} {s s' rest : List Char} {v : Value}
    (h : ValueAt nested s v rest) (same : skipBlanks s = skipBlanks s') : ValueAt nested s' v rest := by
  cases h with
  | null h => exact .null (same ▸ h)
  | true h => exact .true (same ▸ h)
  | false h => exact .false (same ▸ h)
  | negative h hn => exact .negative (same.symm.trans h) hn
  | number h hc hn => exact .number (same.symm.trans h) hc hn
  | string h ht => exact .string (same.symm.trans h) ht
  | array h hi => exact .array (same.symm.trans h) hi
  | object h hp => exact .object (same.symm.trans h) hp

theorem spells_eq_valueAt (depth : Nat) : ∃ nested, Spells depth = ValueAt nested := by
  cases depth with
  | zero => exact ⟨none, rfl⟩
  | succ depth => exact ⟨some (Spells depth), rfl⟩

theorem Spells.congr {depth : Nat} {s s' rest : List Char} {v : Value} (h : Spells depth s v rest)
    (same : skipBlanks s = skipBlanks s') : Spells depth s' v rest := by
  obtain ⟨nested, e⟩ := spells_eq_valueAt depth
  rw [e] at h ⊢
  exact h.congr same

/-! ## Values of documents -/

/-- The values that a document can have: no key stands twice in an object, and containers nest at most
`depth` deep. -/
inductive Value.Within : Nat → Value → Prop
  | null (depth : Nat) : Within depth .null
  | bool (depth : Nat) (b : Bool) : Within depth (.bool b)
  | number (depth : Nat) (n : Number) : Within depth (.number n)
  | string (depth : Nat) (s : String) : Within depth (.string s)
  | array {depth : Nat} {items : List Value} (h : ∀ item ∈ items, Within depth item) :
    Within (depth + 1) (.array items)
  | object {depth : Nat} {members : List (String × Value)} (keys : (members.map Prod.fst).Nodup)
    (h : ∀ member ∈ members, Within depth member.2) : Within (depth + 1) (.object members)

section

variable {α : Type} {Item : List Char → α → List Char → Prop} {first : Bool} {s rest : List Char}

theorem Items.exists_item {items : List α} (h : Items Item first s items rest) :
    ∀ a ∈ items, ∃ t u, Item t a u := by
  induction h with
  | close h => exact fun a none => absurd none List.not_mem_nil
  | item before here after ih => exact List.forall_mem_cons.2 ⟨⟨_, _, here⟩, ih⟩

theorem Pairs.exists_item {pairs : List (String × α)} (h : Pairs Item first s pairs rest) :
    ∀ pair ∈ pairs, ∃ t u, Item t pair.2 u := by
  induction h with
  | close h => exact fun a none => absurd none List.not_mem_nil
  | pair before name colon here after ih => exact List.forall_mem_cons.2 ⟨⟨_, _, here⟩, ih⟩

end

theorem Spells.within {depth : Nat} {s rest : List Char} {v : Value} (h : Spells depth s v rest) :
    v.Within depth := by
  induction depth generalizing s v rest with
  | zero => cases h <;> constructor
  | succ depth ih =>
    cases h with
    | null => exact .null _
    | true => exact .bool _ true
    | false => exact .bool _ false
    | negative => exact .number _ _
    | number => exact .number _ _
    | string => exact .string _ _
    | array h hi =>
      refine .array fun item mem => ?_
      obtain ⟨t, u, here⟩ := hi.exists_item item mem
      exact ih here
    | object h hp =>
      refine .object (Members.nodup_keys_ofPairs _) fun member mem => ?_
      obtain ⟨t, u, here⟩ := hp.exists_item member (Members.mem_of_mem_ofPairs mem)
      exact ih here

theorem within_of_parse {text : String} {value : Value} (h : parse text = .ok value) : value.Within maxDepth := by
  obtain ⟨rest, spells, -⟩ := parse_eq_ok_iff.1 h
  exact spells.within

/-! ## Values on lines -/

/-- A number is read as `n'` from its text, wherever it stands and whatever ends it. -/
def Number.ReadsAs (n n' : Number) : Prop :=
  ∀ nested rest, EndsNumber rest → ValueAt nested (n.write ++ rest) (.number n') rest

theorem endsNumber_prettyItems (level : Nat) (items : List Value) (rest : List Char) :
    EndsNumber (Value.prettyItems level items ++ rest) := by
  cases items with
  | nil => exact endsNumber_cons (by decide) _
  | cons item items => exact endsNumber_cons (by decide) _

theorem endsNumber_prettyMembers (level : Nat) (members : List (String × Value)) (rest : List Char) :
    EndsNumber (Value.prettyMembers level members ++ rest) := by
  cases members with
  | nil => exact endsNumber_cons (by decide) _
  | cons member members => exact endsNumber_cons (by decide) _

section

variable {f : Number → Number} {depth : Nat}

/-- On lines, whatever its level and whatever ends its last number, a value is read as it is but for
its numbers. -/
def Value.Returns (f : Number → Number) (depth : Nat) (v : Value) : Prop :=
  ∀ level rest, EndsNumber rest → Spells depth (v.pretty level ++ rest) (v.mapNumbers f) rest

theorem Value.Returns.item {item : Value} (h : item.Returns f depth) {first : Bool} {level : Nat}
    {s tail rest : List Char} {items : List Value} (before : Follows first s (skipBlanks (item.pretty level ++ tail)))
    (ends : EndsNumber tail) (after : Items (Spells depth) false tail items rest) :
    Items (Spells depth) first s (item.mapNumbers f :: items) rest :=
  .item before ((h level tail ends).congr (List.dropWhile_idempotent _ _).symm) after

theorem Value.Returns.pair {value : Value} (h : value.Returns f depth) {first : Bool} {level : Nat} {key : String}
    {s tail rest : List Char} {pairs : List (String × Value)}
    (before : Follows first s (skipBlanks (writeString key ++ ':' :: ' ' :: (value.pretty level ++ tail))))
    (ends : EndsNumber tail) (after : Pairs (Spells depth) false tail pairs rest) :
    Pairs (Spells depth) first s ((key, value.mapNumbers f) :: pairs) rest := by
  obtain ⟨t, written, name⟩ := readText_quote key (':' :: ' ' :: (value.pretty level ++ tail))
  rw [written] at before
  exact .pair before name rfl ((h level tail ends).congr rfl) after

theorem items_prettyItems {items : List Value} (h : ∀ item ∈ items, item.Returns f depth) (level : Nat)
    (rest : List Char) :
    Items (Spells depth) false (Value.prettyItems level items ++ rest) (Value.mapItems f items) rest := by
  induction items with
  | nil =>
    refine .close ?_
    rw [Next, Value.prettyItems, List.append_assoc, skipBlanks_newline]
    rfl
  | cons item items ih =>
    obtain ⟨head, tail⟩ := List.forall_mem_cons.1 h
    rw [Value.prettyItems, Value.mapItems, List.cons_append, List.append_assoc, List.append_assoc]
    exact head.item (.comma rfl (skipBlanks_newline _ _)) (endsNumber_prettyItems level items rest) (ih tail)

theorem pairs_prettyMembers {members : List (String × Value)} (h : ∀ member ∈ members, member.2.Returns f depth)
    (level : Nat) (rest : List Char) :
    Pairs (Spells depth) false (Value.prettyMembers level members ++ rest) (Value.mapMembers f members) rest := by
  induction members with
  | nil =>
    refine .close ?_
    rw [Next, Value.prettyMembers, List.append_assoc, skipBlanks_newline]
    rfl
  | cons member members ih =>
    obtain ⟨key, value⟩ := member
    obtain ⟨head, tail⟩ := List.forall_mem_cons.1 h
    rw [Value.prettyMembers, Value.mapMembers]
    simp only [List.cons_append, List.append_assoc]
    exact head.pair (.comma rfl (skipBlanks_newline _ _)) (endsNumber_prettyMembers level members rest) (ih tail)

/-- **A value on lines** is read as itself, but for the numbers that are read as others. -/
theorem spells_pretty {v : Value} (within : v.Within depth) (numbers : v.EveryNumber fun n => n.ReadsAs (f n)) :
    v.Returns f depth := by
  -- By induction on the nesting: what is shown of the values in a container serves its lines.
  induction within with
  | null depth =>
    intro level rest _
    obtain ⟨nested, e⟩ := spells_eq_valueAt depth
    rw [e]
    exact .null rfl
  | bool depth b =>
    intro level rest _
    obtain ⟨nested, e⟩ := spells_eq_valueAt depth
    rw [e]
    cases b with
    | true => exact .true rfl
    | false => exact .false rfl
  | number depth n =>
    intro level rest ends
    obtain ⟨nested, e⟩ := spells_eq_valueAt depth
    rw [e]
    cases numbers with | number h => exact h nested rest ends
  | string depth s =>
    intro level rest _
    obtain ⟨nested, e⟩ := spells_eq_valueAt depth
    obtain ⟨t, written, name⟩ := readText_quote s rest
    rw [e, Value.pretty, written]
    exact .string rfl name
  | @array depth items h ih =>
    intro level rest _
    cases numbers with | array numbers =>
    have returns : ∀ item ∈ items, item.Returns f depth := fun item mem => ih item mem (numbers item mem)
    cases items with
    | nil => exact .array rfl (.close rfl)
    | cons item items =>
      obtain ⟨head, tail⟩ := List.forall_mem_cons.1 returns
      rw [Value.pretty, Value.mapNumbers, Value.mapItems, List.cons_append, List.append_assoc, List.append_assoc]
      refine .array rfl ?_
      exact head.item (.first (skipBlanks_newline _ _)) (endsNumber_prettyItems level items rest)
        (items_prettyItems tail level rest)
  | @object depth members keys h ih =>
    intro level rest _
    cases numbers with | object numbers =>
    have returns : ∀ member ∈ members, member.2.Returns f depth := fun member mem => ih member mem (numbers member mem)
    have distinct : Members.ofPairs (Value.mapMembers f members) = Value.mapMembers f members :=
      Members.ofPairs_of_nodup ((Value.keys_mapMembers f members).symm ▸ keys)
    rw [Value.mapNumbers, ← distinct]
    cases members with
    | nil => exact .object rfl (.close rfl)
    | cons member members =>
      obtain ⟨key, value⟩ := member
      obtain ⟨head, tail⟩ := List.forall_mem_cons.1 returns
      rw [Value.pretty, Value.mapMembers]
      simp only [List.cons_append, List.append_assoc]
      refine .object rfl ?_
      exact head.pair (.first (skipBlanks_newline _ _)) (endsNumber_prettyMembers level members rest)
        (pairs_prettyMembers tail level rest)

end

theorem parse_toPretty {f : Number → Number} {v : Value} (within : v.Within maxDepth)
    (numbers : v.EveryNumber fun n => n.ReadsAs (f n)) : parse v.toPretty = .ok (v.mapNumbers f) := by
  have spells := spells_pretty within numbers 0 [] endsNumber_nil
  rw [List.append_nil] at spells
  refine parse_eq_ok_iff.2 ⟨[], ?_, rfl⟩
  rwa [Value.toPretty, String.toList_ofList]

/-! ## Numbers -/

theorem exists_digit_of_readNumber {negative : Bool} {s rest : List Char} {n : Number}
    (h : readNumber negative s = .ok (n, rest)) : ∃ c t, s = c :: t ∧ c.isDigit = true := by
  cases s with
  | nil => cases h
  | cons c t =>
    refine ⟨c, t, rfl, ?_⟩
    by_contra other
    rw [Bool.not_eq_true] at other
    rw [readNumber, other, if_pos (by decide)] at h
    cases h

/-- A number after its sign is a value where it stands. -/
theorem valueAt_of_readNumber {negative : Bool} {s rest : List Char} {n : Number}
    (h : readNumber negative s = .ok (n, rest)) (nested : Option (List Char → Value → List Char → Prop)) :
    ValueAt nested ((if negative then ['-'] else []) ++ s) (.number n) rest := by
  cases negative with
  | true => exact .negative rfl h
  | false =>
    obtain ⟨c, t, rfl, digit⟩ := exists_digit_of_readNumber h
    have notBlank : isBlank c = false := by
      rw [Bool.eq_false_iff]
      intro blank
      simp only [isBlank, Bool.or_eq_true, decide_eq_true_eq] at blank
      rcases blank with ((rfl | rfl) | rfl) | rfl <;> exact absurd digit (by decide)
    refine .number ?_ digit h
    rw [if_neg (by decide), List.nil_append, Next, skipBlanks, List.dropWhile_cons, notBlank]
    rfl

theorem readsAs_integer {n : Int} (fits : Fits64 n) : (Number.integer n fits).ReadsAs (.integer n fits) := by
  intro nested rest ends
  have size : n.natAbs < Nat.pow 2 64 := by
    unfold Fits64 at fits
    have : Nat.pow 2 64 = 18446744073709551616 := rfl
    omega
  have value : (if decide (n < 0) = true then -(n.natAbs : Int) else n.natAbs) = n := by
    by_cases negative : n < 0
    · rw [decide_eq_true negative, if_pos rfl]
      omega
    · rw [decide_eq_false negative, if_neg (by decide)]
      omega
  have notZero : ¬ (decide (n < 0) = true ∧ n.natAbs = 0) := by
    rw [decide_eq_true_eq]
    omega
  have read : readNumber (decide (n < 0)) (Nat.toDigits 10 n.natAbs ++ rest) = .ok (.integer n fits, rest) := by
    rw [readNumber_integer (wholePart_toDigits _) (by rwa [Nat.ofDigitChars_ten_toDigits]) ends,
      Nat.ofDigitChars_ten_toDigits, wholeNumber]
    simp only [value, dif_pos fits, if_neg notZero]
  rw [Number.write, writeInt_eq, List.append_assoc]
  exact valueAt_of_readNumber read nested

/-! ## Documents without doubles -/

/-- The numbers that are integers of 64 bits. -/
def Number.IsInteger (n : Number) : Prop := ∃ value fits, n = .integer value fits

/-- **A document without doubles** is put on lines in a text that is read as the same value, and that
is on lines already. -/
theorem formatJson_parses {text : String} {value : Value} (accepted : parse text = .ok value)
    (integers : value.EveryNumber Number.IsInteger) :
    ∃ formatted, formatJson text = .ok formatted ∧ parse formatted = .ok value ∧
      formatJson formatted = .ok formatted := by
  have numbers : value.EveryNumber fun n => n.ReadsAs (id n) := by
    refine integers.imp ?_
    rintro n ⟨value, fits, rfl⟩
    exact readsAs_integer fits
  have reread := parse_toPretty (within_of_parse accepted) numbers
  rw [Value.mapNumbers_id] at reread
  refine ⟨value.toPretty, ?_, reread, ?_⟩
  · rw [formatJson, accepted, Except.map]
  · rw [formatJson, reread, Except.map]

/-- The largest integer of 64 bits beside an object whose key is a control character. -/
def wideAndControl : Value :=
  .array [.number (.integer 18446744073709551615 (by decide)),
    .object [("\x01", .number (.integer (-1) (by decide)))]]

theorem formatJson_parses_wideAndControl :
    parse "[18446744073709551615 ,\x7b\"\\u0001\":-1\x7d]" = .ok wideAndControl ∧
    wideAndControl.EveryNumber Number.IsInteger ∧
    ∃ formatted, formatJson "[18446744073709551615 ,\x7b\"\\u0001\":-1\x7d]" = .ok formatted ∧
      parse formatted = .ok wideAndControl ∧ formatJson formatted = .ok formatted := by
  have chars : "[18446744073709551615 ,\x7b\"\\u0001\":-1\x7d]".toList =
      '[' :: (writeInt 18446744073709551615 ++
        [' ', ',', '\x7b', '"', '\\', 'u', '0', '0', '0', '1', '"', ':', '-', '1', '\x7d', ']']) := by
    decide +kernel
  have key : readText [] ['\\', 'u', '0', '0', '0', '1', '"', ':', '-', '1', '\x7d', ']'] =
      .ok ("\x01", [':', '-', '1', '\x7d', ']']) := by
    rw [readText_escape rfl]
    simp [readText]
  have one : Spells 125 ['-', '1', '\x7d', ']'] (.number (.integer (-1) (by decide))) ['\x7d', ']'] := by
    have fits : Fits64 (-1) := by decide
    exact readsAs_integer fits (some (Spells 124)) ['\x7d', ']'] (endsNumber_cons (by decide) _)
  have object : Spells 126 ['\x7b', '"', '\\', 'u', '0', '0', '0', '1', '"', ':', '-', '1', '\x7d', ']']
      (.object (Members.ofPairs [("\x01", .number (.integer (-1) (by decide)))])) [']'] :=
    .object rfl (.pair (.first rfl) key rfl one (.close rfl))
  have second : Items (Spells 126) false
      [' ', ',', '\x7b', '"', '\\', 'u', '0', '0', '0', '1', '"', ':', '-', '1', '\x7d', ']']
      [.object [("\x01", .number (.integer (-1) (by decide)))]] [] :=
    .item (.comma rfl rfl) object (.close rfl)
  have wide (rest : List Char) (ends : EndsNumber rest) : Spells 126 (writeInt 18446744073709551615 ++ rest)
      (.number (.integer 18446744073709551615 (by decide))) rest :=
    readsAs_integer (n := 18446744073709551615) (by decide) (some (Spells 125)) rest ends
  have accepted : parse "[18446744073709551615 ,\x7b\"\\u0001\":-1\x7d]" = .ok wideAndControl := by
    refine parse_eq_ok_iff.2 ⟨[], ?_, rfl⟩
    rw [chars]
    refine .array rfl (.item (.first ?_) (wide _ ?_) second)
    · decide +kernel
    · exact endsNumber_cons (by decide) _
  have integers : wideAndControl.EveryNumber Number.IsInteger := by
    refine .array (List.forall_mem_cons.2 ⟨.number ⟨_, _, rfl⟩, List.forall_mem_singleton.2 ?_⟩)
    exact .object (List.forall_mem_singleton.2 (.number ⟨_, _, rfl⟩))
  exact ⟨accepted, integers, formatJson_parses accepted integers⟩

end TypeSketch.Json
