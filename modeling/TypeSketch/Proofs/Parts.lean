import TypeSketch.Command.Document
import TypeSketch.Proofs.Pointers
import TypeSketch.Proofs.Pretty

/-!
# Parts of a value

* `Value.part?`, `Value.at?` : the part of a value that a step leads to, and that a path leads to;
* `indexOf?_eq_some_iff`, `child?_eq_some_iff`, `descend?_eq_some_iff` : the text of a step means a key
  or an index, by the value that it is met in;
* `path_unique` : in a value, a path is known by the texts of its steps;
* `index_lt_of_spells` : the text of a value is longer than any index in it;
* `documentsOf_pointer` : every part of a document is selected by its pointer, and by no other.
-/

namespace TypeSketch

namespace Json

open Pointer (Step)

/-! ## Paths -/

/-- The part of a value that a step leads to. -/
def Value.part? : Value → Step → Option Value
  | .object members, .key k => Members.get? k members
  | .array items, .index n => items[n]?
  | _, _ => none

/-- The part of a value that a path leads to. -/
def Value.at? (value : Value) : List Step → Option Value
  | [] => some value
  | step :: path => (value.part? step).bind fun part => part.at? path

/-! ## Steps in a value -/

theorem indexFrom_eq_some_iff {digits : List Char} {m n : Nat} :
    indexFrom m digits = some n ↔ AllDigits digits ∧ Nat.ofDigitChars 10 digits m = n := by
  induction digits generalizing m with
  | nil => simp [indexFrom, allDigits_nil]
  | cons c rest ih =>
    rw [indexFrom, allDigits_cons_iff, Nat.ofDigitChars_cons]
    by_cases digit : c.isDigit = true
    · rw [if_pos digit, ih]
      simp [digit]
    · rw [if_neg digit]
      simp [digit]

theorem digitChar_ofDigit {c : Char} (digit : c.isDigit = true) : Nat.digitChar (c.toNat - '0'.toNat) = c := by
  have chars : ∀ d < 10, Nat.digitChar d = Char.ofNat ('0'.toNat + d) := by decide
  have small : digitValue c ≤ 9 := digitValue_le digit
  simp only [Char.isDigit, Bool.and_eq_true, decide_eq_true_eq] at digit
  have low : '0'.toNat ≤ c.toNat := digit.1
  rw [digitValue] at small
  rw [chars _ (by omega), Nat.add_sub_cancel' low, Char.ofNat_toNat]

/-- Digits without a zero too many are the digits of the number that they stand for. -/
theorem toDigits_ofDigitChars {digits : List Char} (whole : WholePart digits) :
    Nat.toDigits 10 (Nat.ofDigitChars 10 digits 0) = digits := by
  -- By induction on the last digit, so that the digits before it are still without a zero too many.
  induction digits using List.reverseRecOn with
  | nil => exact absurd rfl whole.ne_nil
  | append_singleton before c ih =>
    obtain ⟨all, last⟩ := List.forall_mem_append.1 whole.all
    have digit : c.isDigit = true := last c (List.mem_singleton_self c)
    have small : c.toNat - '0'.toNat < 10 := by
      have : c.toNat - '0'.toNat ≤ 9 := digitValue_le digit
      omega
    rw [Nat.ofDigitChars_append, Nat.ofDigitChars_cons, Nat.ofDigitChars_nil]
    rcases eq_or_ne before [] with rfl | some
    · rw [Nat.ofDigitChars_nil, Nat.mul_zero, Nat.zero_add, Nat.toDigits_of_lt_base small, digitChar_ofDigit digit]
      rfl
    · have zero : ∀ t, before ≠ '0' :: t := by
        rintro t rfl
        exact absurd (whole.zero _ (List.cons_append ..)) (by simp)
      have own := ih ⟨some, all, fun t e => absurd e (zero t)⟩
      have positive : 0 < Nat.ofDigitChars 10 before 0 := by
        refine Nat.pos_of_ne_zero fun none => zero [] ?_
        rw [← own, none, Nat.toDigits_zero]
      rw [← Nat.toDigits_append_toDigits (by decide) positive small, own, Nat.toDigits_of_lt_base small,
        digitChar_ofDigit digit]

/-- A text means an index if it is the index in decimal, and the index fits a word. -/
theorem indexOf?_eq_some_iff {step : String} {n : Nat} :
    indexOf? step = some n ↔ step = toString n ∧ n < Nat.pow 2 64 := by
  have spelled : step = toString n ↔ WholePart step.toList ∧ Nat.ofDigitChars 10 step.toList 0 = n := by
    rw [Nat.toString_eq_ofList_toDigits, ← String.toList_inj, String.toList_ofList]
    constructor
    · intro e
      rw [e]
      exact ⟨wholePart_toDigits n, Nat.ofDigitChars_ten_toDigits⟩
    · rintro ⟨whole, rfl⟩
      exact (toDigits_ofDigitChars whole).symm
  rw [spelled, indexOf?]
  split
  · next empty =>
    rw [empty]
    exact ⟨fun h => (by cases h), fun h => absurd rfl h.1.1.ne_nil⟩
  · next zero =>
    rw [zero]
    constructor
    · intro h
      cases h
      exact ⟨⟨wholePart_zero, rfl⟩, by decide⟩
    · rintro ⟨⟨-, rfl⟩, -⟩
      rfl
  · next rest more zero =>
    rw [zero]
    exact ⟨fun h => (by cases h), fun h => absurd (h.1.1.zero _ rfl) more⟩
  · next some other plain =>
    have whole : WholePart step.toList ↔ AllDigits step.toList :=
      ⟨WholePart.all, fun all => ⟨some, all, fun t e => absurd e (plain t)⟩⟩
    rw [Option.filter_eq_some_iff, indexFrom_eq_some_iff, whole, decide_eq_true_eq]

theorem toString_injective {m n : Nat} (h : toString m = toString n) : m = n := by
  rw [Nat.toString_eq_ofList_toDigits, Nat.toString_eq_ofList_toDigits, String.ofList_inj] at h
  rw [← Nat.ofDigitChars_ten_toDigits (n := m), h, Nat.ofDigitChars_ten_toDigits]

/-- The steps that a pointer can say: an index has to fit a word. -/
def Pointer.Step.Fits : Step → Prop
  | .key _ => True
  | .index n => n < Nat.pow 2 64

variable {value part part' : Value} {path path' : List Step}

/-- A text of a step leads where a key or an index with this text does. -/
theorem child?_eq_some_iff {text : String} :
    value.child? text = some part ↔ ∃ step : Step, step.spelling = text ∧ value.part? step = some part ∧ step.Fits := by
  constructor
  · intro h
    cases value with
    | object members => exact ⟨.key text, rfl, h, trivial⟩
    | array items =>
      obtain ⟨n, index, item⟩ := Option.bind_eq_some_iff.1 h
      obtain ⟨spelled, fits⟩ := indexOf?_eq_some_iff.1 index
      exact ⟨.index n, spelled.symm, item, fits⟩
    | _ => cases h
  · rintro ⟨step, rfl, h, fits⟩
    cases value with
    | object members =>
      cases step with
      | key k => exact h
      | index n => cases h
    | array items =>
      cases step with
      | key k => cases h
      | index n => exact Option.bind_eq_some_iff.2 ⟨n, indexOf?_eq_some_iff.2 ⟨rfl, fits⟩, h⟩
    | _ => cases step <;> cases h

/-- Texts of steps lead where a path with these texts does. -/
theorem descend?_eq_some_iff {texts : List String} :
    value.descend? texts = some part ↔
      ∃ path, path.map Step.spelling = texts ∧ value.at? path = some part ∧ ∀ step ∈ path, step.Fits := by
  induction texts generalizing value with
  | nil =>
    constructor
    · intro h
      exact ⟨[], rfl, h, fun _ none => absurd none List.not_mem_nil⟩
    · rintro ⟨path, spelled, h, -⟩
      rw [List.map_eq_nil_iff.1 spelled] at h
      exact h
  | cons text texts ih =>
    rw [Value.descend?, Option.bind_eq_some_iff]
    constructor
    · rintro ⟨child, here, later⟩
      obtain ⟨step, rfl, first, fits⟩ := child?_eq_some_iff.1 here
      obtain ⟨path, rfl, rest, all⟩ := ih.1 later
      refine ⟨step :: path, rfl, ?_, List.forall_mem_cons.2 ⟨fits, all⟩⟩
      rw [Value.at?, first]
      exact rest
    · rintro ⟨path, spelled, h, fits⟩
      obtain ⟨step, path, rfl, own, rest⟩ := List.map_eq_cons_iff.1 spelled
      obtain ⟨child, here, later⟩ := Option.bind_eq_some_iff.1 h
      obtain ⟨first, all⟩ := List.forall_mem_cons.1 fits
      exact ⟨child, child?_eq_some_iff.2 ⟨step, own, here, first⟩, ih.2 ⟨path, rest, later, all⟩⟩

/-- In a value, a path is known by its texts: a step is a key in an object and an index in an array. -/
theorem path_unique (h : value.at? path = some part) (h' : value.at? path' = some part')
    (same : path.map Step.spelling = path'.map Step.spelling) : path = path' := by
  induction path generalizing value path' with
  | nil => exact (List.map_eq_nil_iff.1 same.symm).symm
  | cons step path ih =>
    obtain ⟨step', path', rfl, spelled, rest⟩ := List.map_eq_cons_iff.1 same.symm
    obtain ⟨child, here, later⟩ := Option.bind_eq_some_iff.1 h
    obtain ⟨child', here', later'⟩ := Option.bind_eq_some_iff.1 h'
    have own : step = step' := by
      cases value with
      | object members =>
        cases step with
        | index n => cases here
        | key k =>
          cases step' with
          | index n => cases here'
          | key k' => exact congrArg Step.key spelled.symm
      | array items =>
        cases step with
        | key k => cases here
        | index n =>
          cases step' with
          | key k => cases here'
          | index n' => exact congrArg Step.index (toString_injective spelled.symm)
      | _ => cases step <;> cases here
    subst own
    rw [here] at here'
    obtain rfl := Option.some.inj here'
    rw [ih later later' rest.symm]

/-! ## Indices in a text -/

section

variable {α : Type} {Item : List Char → α → List Char → Prop} {first : Bool} {s rest t : List Char}

theorem Next.length_lt {c : Char} (h : Next c s rest) : rest.length < s.length := by
  have := length_skipBlanks_le s
  rw [h, List.length_cons] at this
  omega

theorem Follows.length_le (h : Follows first s t) : t.length ≤ s.length := by
  cases h with
  | first h => exact h ▸ length_skipBlanks_le s
  | comma h ht => exact Nat.le_of_lt (Nat.lt_of_le_of_lt (ht ▸ length_skipBlanks_le _) h.length_lt)

/-- Every item takes a character at least. -/
theorem Items.length_lt {items : List α} (shorter : ∀ s a rest, Item s a rest → rest.length < s.length)
    (h : Items Item first s items rest) : items.length < s.length := by
  induction h with
  | close h => exact Nat.zero_lt_of_lt h.length_lt
  | item before here _ ih =>
    have := before.length_le
    have := shorter _ _ _ here
    rw [List.length_cons]
    omega

theorem Items.exists_item_le {items : List α} (shorter : ∀ s a rest, Item s a rest → rest.length < s.length)
    (h : Items Item first s items rest) : ∀ a ∈ items, ∃ t u, Item t a u ∧ t.length ≤ s.length := by
  induction h with
  | close h => exact fun a none => absurd none List.not_mem_nil
  | item before here _ ih =>
    have start := before.length_le
    have taken := shorter _ _ _ here
    refine List.forall_mem_cons.2 ⟨⟨_, _, here, start⟩, fun a mem => ?_⟩
    obtain ⟨t, u, item, le⟩ := ih a mem
    exact ⟨t, u, item, by omega⟩

theorem Pairs.exists_item_le {pairs : List (String × α)}
    (shorter : ∀ s a rest, Item s a rest → rest.length < s.length) (h : Pairs Item first s pairs rest) :
    ∀ pair ∈ pairs, ∃ t u, Item t pair.2 u ∧ t.length ≤ s.length := by
  induction h with
  | close h => exact fun a none => absurd none List.not_mem_nil
  | pair before name colon here _ ih =>
    have start := before.length_le
    have key := length_of_readText name
    have value := colon.length_lt
    have taken := shorter _ _ _ here
    rw [List.length_cons] at start
    refine List.forall_mem_cons.2 ⟨⟨_, _, here, by omega⟩, fun pair mem => ?_⟩
    obtain ⟨t, u, item, le⟩ := ih pair mem
    exact ⟨t, u, item, by omega⟩

end

theorem Spells.length_lt {depth : Nat} {s rest : List Char} (h : Spells depth s value rest) :
    rest.length < s.length := by
  rw [← readValue_takes] at h
  exact (readValue depth).shorter h

theorem Members.exists_mem_of_get? {key : String} {members : List (String × Value)}
    (h : Members.get? key members = some part) : ∃ member ∈ members, member.2 = part := by
  obtain ⟨member, found, own⟩ := Option.map_eq_some_iff.1 h
  exact ⟨member, List.mem_of_find?_eq_some found, own⟩

/-- The text of a value is longer than any index in it. -/
theorem index_lt_of_spells {depth : Nat} {s rest : List Char} (h : Spells depth s value rest)
    (there : value.at? path = some part) : ∀ n, Step.index n ∈ path → n < s.length := by
  induction path generalizing depth s rest value with
  | nil => exact fun n none => absurd none List.not_mem_nil
  | cons step path ih =>
    obtain ⟨child, here, later⟩ := Option.bind_eq_some_iff.1 there
    cases depth with
    | zero => cases h <;> cases here
    | succ depth =>
      have shorter : ∀ s v rest, Spells depth s v rest → rest.length < s.length := fun _ _ _ => Spells.length_lt
      cases h with
      | @array _ _ t _ items opened inner =>
        have start := opened.length_lt
        cases step with
        | key k => cases here
        | index n =>
          obtain ⟨inside, rfl⟩ := List.getElem?_eq_some_iff.1 here
          have count := inner.length_lt shorter
          obtain ⟨u, w, item, le⟩ := inner.exists_item_le shorter _ (List.getElem_mem inside)
          intro m mem
          rcases List.mem_cons.1 mem with own | mem
          · cases own
            omega
          · have := ih item later m mem
            omega
      | @object _ _ t _ pairs opened inner =>
        have start := opened.length_lt
        cases step with
        | index n => cases here
        | key k =>
          obtain ⟨member, settled, rfl⟩ := Members.exists_mem_of_get? here
          obtain ⟨u, w, item, le⟩ := inner.exists_item_le shorter _ (Members.mem_of_mem_ofPairs settled)
          intro m mem
          have := ih item later m (List.mem_of_ne_of_mem (by simp) mem)
          omega
      | _ => cases here

/-! ## Pointers into a value -/

theorem fits_of_parse {text : String} (accepted : parse text = .ok value) (held : text.length < Nat.pow 2 64)
    (there : value.at? path = some part) : ∀ step ∈ path, step.Fits := by
  obtain ⟨rest, spells, -⟩ := parse_eq_ok_iff.1 accepted
  intro step mem
  cases step with
  | key k => exact trivial
  | index n => exact Nat.lt_trans (index_lt_of_spells spells there n mem) held

/-- The pointer of a path leads where the path does. -/
theorem atPointer?_write (there : value.at? path = some part) (fits : ∀ step ∈ path, step.Fits) :
    value.atPointer? (Pointer.write path) = some part := by
  rw [Value.atPointer?, Pointer.steps?_write]
  exact descend?_eq_some_iff.2 ⟨path, rfl, there, fits⟩

/-- A well-formed pointer leads only where a path does whose pointer it is. -/
theorem exists_path_of_atPointer? {pointer : String} (formed : Pointer.WellFormed pointer)
    (found : value.atPointer? pointer = some part) : ∃ path, Pointer.write path = pointer ∧ value.at? path = some part := by
  obtain ⟨spellings, rfl⟩ := formed.exists_encode
  rw [Value.atPointer?, Pointer.steps?_encode] at found
  obtain ⟨path, rfl, there, -⟩ := descend?_eq_some_iff.1 found
  exact ⟨path, Pointer.write_eq path, there⟩

end Json

namespace Command

open Json

variable {selection : Selection} {byLine : Bool} {filter? : Option String} {pointer : String} {text : List Char}
  {value part : Value}

theorem part_of_there (there : value.atPointer? pointer = some part) :
    Selection.part ⟨byLine, some pointer, filter?⟩ value = .ok part := by
  rw [Selection.part]
  dsimp only
  rw [there]

theorem part_of_nowhere (nowhere : value.atPointer? pointer = none) :
    Selection.part ⟨byLine, some pointer, filter?⟩ value = .error (.noPart pointer) := by
  rw [Selection.part]
  dsimp only
  rw [nowhere]

theorem documentsOf_of_part (accepted : parseChars text = .ok value) (selected : selection.part value = .ok part)
    (origin : String) : selection.documentsOf origin text = selection.filtered origin part := by
  rw [Selection.documentsOf, accepted]
  dsimp only
  rw [selected]

theorem documentsOf_of_noPart {reason : Reason} (accepted : parseChars text = .ok value)
    (missed : selection.part value = .error reason) (origin : String) :
    selection.documentsOf origin text = [⟨origin, .failed reason⟩] := by
  rw [Selection.documentsOf, accepted]
  dsimp only
  rw [missed]

/-- **Every part of a document is selected by its pointer**, and parts at different paths have different
pointers. A well-formed pointer of no path selects nothing. No text is so long that an index in it does
not fit a word. -/
theorem documentsOf_pointer {text : String} {value : Value} (accepted : Json.parse text = .ok value)
    (held : text.length < Nat.pow 2 64) (byLine : Bool) (origin : String) :
    (∀ path part, value.at? path = some part →
      Selection.documentsOf ⟨byLine, some (Pointer.write path), none⟩ origin text.toList = [⟨origin, .value part⟩]) ∧
    (∀ path path' part part', value.at? path = some part → value.at? path' = some part' →
      Pointer.write path = Pointer.write path' → path = path') ∧
    ∀ pointer, Pointer.WellFormed pointer →
      (∀ path part, value.at? path = some part → Pointer.write path ≠ pointer) →
      Selection.documentsOf ⟨byLine, some pointer, none⟩ origin text.toList =
        [⟨origin, .failed (.noPart pointer)⟩] := by
  refine ⟨fun path part there => ?_, fun path path' part part' there there' same => ?_, fun pointer formed other => ?_⟩
  · have selected := atPointer?_write there (fits_of_parse accepted held there)
    exact documentsOf_of_part accepted (part_of_there selected) origin
  · have spelled := congrArg Pointer.steps? same
    rw [Pointer.steps?_write, Pointer.steps?_write] at spelled
    exact path_unique there there' (Option.some.inj spelled)
  · cases found : value.atPointer? pointer with
    | none => exact documentsOf_of_noPart accepted (part_of_nowhere found) origin
    | some part =>
      obtain ⟨path, written, there⟩ := exists_path_of_atPointer? formed found
      exact absurd written (other path part there)

/-- The pointer `/~01/0` goes to the item under the key `~1`, and the key `/` of the pointer `/~1/0` is not
there. -/
theorem documentsOf_pointer_tilde :
    Json.parse "\x7b\"~1\":[true]\x7d" = .ok (.object [("~1", .array [.bool true])]) ∧
    "\x7b\"~1\":[true]\x7d".length < Nat.pow 2 64 ∧
    Selection.documentsOf ⟨false, some "/~01/0", none⟩ "x" "\x7b\"~1\":[true]\x7d".toList =
      [⟨"x", .value (.bool true)⟩] ∧
    Pointer.WellFormed "/~1/0" ∧
    Selection.documentsOf ⟨false, some "/~1/0", none⟩ "x" "\x7b\"~1\":[true]\x7d".toList =
      [⟨"x", .failed (.noPart "/~1/0")⟩] := by
  have key : readText [] ['~', '1', '"', ':', '[', 't', 'r', 'u', 'e', ']', '\x7d'] =
      .ok ("~1", [':', '[', 't', 'r', 'u', 'e', ']', '\x7d']) := by
    simp [readText]
  have accepted : Json.parse "\x7b\"~1\":[true]\x7d" = .ok (.object [("~1", .array [.bool true])]) := by
    have items : Spells 126 ['[', 't', 'r', 'u', 'e', ']', '\x7d'] (.array [.bool true]) ['\x7d'] :=
      .array rfl (.item (.first rfl) (.true rfl) (.close rfl))
    have object : Spells 127 "\x7b\"~1\":[true]\x7d".toList
        (.object (Members.ofPairs [("~1", .array [.bool true])])) [] :=
      .object rfl (.pair (.first rfl) key rfl items (.close rfl))
    exact parse_eq_ok_iff.2 ⟨[], object, rfl⟩
  have formed : Pointer.WellFormed "/~1/0" := by
    refine ⟨⟨_, rfl⟩, fun before after split => ?_⟩
    have split : ['/', '~', '1', '/', '0'] = before ++ '~' :: after := split
    obtain _ | ⟨c, _ | ⟨d, before⟩⟩ := before
    · cases split
    · cases split
      exact ⟨_, _, rfl, .inr rfl⟩
    · have later : ['1', '/', '0'] = before ++ '~' :: after := (List.cons.inj (List.cons.inj split).2).2
      have tilde : '~' ∈ ['1', '/', '0'] := later ▸ List.mem_append_right before List.mem_cons_self
      exact absurd tilde (by decide)
  obtain ⟨selects, -, misses⟩ := documentsOf_pointer accepted (by decide) false "x"
  refine ⟨accepted, by decide, ?_, formed, misses _ formed fun path part there written => ?_⟩
  · exact selects [.key "~1", .index 0] _ rfl
  · have spelled := congrArg Pointer.steps? written
    rw [Pointer.steps?_write] at spelled
    have spelled : path.map Pointer.Step.spelling = ["/", "0"] := Option.some.inj spelled
    obtain ⟨step, path, rfl, own, -⟩ := List.map_eq_cons_iff.1 spelled
    cases step with
    | key k =>
      obtain rfl : k = "/" := own
      cases there
    | index n => cases there

end Command

end TypeSketch
