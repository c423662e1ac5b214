import TypeSketch.Proofs.Fields
import TypeSketch.Proofs.Written

/-!
# Configurations that are accepted

* `toOption_runText`, `toOption_runPolicy`, `toOption_runKey` : the value of a field, read from a text;
* `toOption_readMembers`, `toOption_readFields` : the members of an object, and the values of an array;
* `toOption_runConfig` : a configuration is read where a value is written that stands for one;
* `parse_object`, `parse_array` : the configuration of a text that is an object or an array;
* `parse_of_document` : which documents are configurations, and of what.
-/

namespace TypeSketch.Config

open Json Text

variable {depth : Nat} {s rest : List Char} {v : Value}

theorem toOption_map {ε α β : Type} (f : α → β) (r : Except ε α) : (r.map f).toOption = r.toOption.map f := by
  cases r <;> rfl

theorem toOption_mapError {ε δ α : Type} (f : ε → δ) (r : Except ε α) : (r.mapError f).toOption = r.toOption := by
  cases r <;> rfl

theorem toOption_eq_some_iff {ε α : Type} {r : Except ε α} {a : α} : r.toOption = some a ↔ r = .ok a := by
  cases r <;> simp [Except.toOption]

theorem toOption_eq_none_iff {ε α : Type} {r : Except ε α} : r.toOption = none ↔ ∃ e, r = .error e := by
  cases r <;> simp [Except.toOption]

/-! ## Values of fields -/

theorem runText_of_quote {t : List Char} {text : String} (expected : String) (quote : skipBlanks s = '"' :: t)
    (read : readText [] t = .ok (text, rest)) : runText expected s = .ok (text, rest) := by
  unfold runText
  simp only [quote, if_true, read]
  rfl

theorem toOption_runText_of_ne {c : Char} {t : List Char} (expected : String) (start : skipBlanks s = c :: t)
    (notQuote : c ≠ '"') : (runText expected s).toOption = none := by
  unfold runText
  simp only [start, if_neg notQuote]
  rfl

/-- A text is read where a text is written, and nothing else is. -/
theorem toOption_runText (expected : String) (h : Writes depth s v rest) :
    (runText expected s).toOption = (text? v).map (·, rest) := by
  obtain ⟨c, t, start, opener⟩ := h.opener
  by_cases string : ∃ text, v = .string text
  · obtain ⟨text, rfl⟩ := string
    obtain ⟨t, quote, read⟩ := h.string_inv
    rw [runText_of_quote expected quote read]
    rfl
  · rw [toOption_runText_of_ne expected start (mt opener.string.1 string)]
    cases v with
    | string text => exact absurd ⟨text, rfl⟩ string
    | _ => rfl

variable {α : Type} {variants : List (String × α)}

theorem toOption_runVariant_of_quote {t : List Char} {name : String} (quote : skipBlanks s = '"' :: t)
    (read : readText [] t = .ok (name, rest)) :
    (runVariant variants s).toOption = (variants.lookup name).map (name, ·, rest) := by
  unfold runVariant
  rw [runText_of_quote _ quote read]
  dsimp only
  cases variants.lookup name <;> rfl

theorem toOption_runVariant_of_ne {c : Char} {t : List Char} (start : skipBlanks s = c :: t)
    (notQuote : c ≠ '"') : (runVariant variants s).toOption = none := by
  obtain ⟨r, refused⟩ := toOption_eq_none_iff.1 (toOption_runText_of_ne "variant identifier" start notQuote)
  unfold runVariant
  rw [refused]
  rfl

/-- Whether a value is null. -/
def null? : Value → Option Unit
  | .null => some ()
  | _ => none

theorem toOption_runUnit (h : Writes depth s v rest) : (runUnit s).toOption = (null? v).map fun _ => rest := by
  obtain ⟨c, t, start, opener⟩ := h.opener
  unfold runUnit
  simp only [start]
  by_cases null : v = .null
  · subst null
    obtain ⟨rfl, rfl⟩ := List.cons.inj (start.symm.trans h.null_inv)
    rfl
  · rw [if_neg (mt opener.null.1 null)]
    cases v with
    | null => exact absurd rfl null
    | _ => rfl

theorem toOption_closeObject {Item : List Char → Value → List Char → Prop} {pairs : List (String × Value)}
    (h : Pairs Item false s pairs rest) : (closeObject s).toOption = if pairs.isEmpty then some rest else none := by
  unfold closeObject
  cases h with
  | close close =>
    rw [Next] at close
    simp only [close, if_true]
    rfl
  | pair before =>
    cases before with
    | comma comma =>
      rw [Next] at comma
      simp only [comma]
      rfl

theorem variant?_object_cons (name : String) (value : Value) (pairs : List (String × Value)) :
    variant? variants (.object ((name, value) :: pairs)) =
      (variants.lookup name).bind fun variant =>
        (null? value).bind fun _ => if pairs.isEmpty then some variant else none := by
  cases value <;> cases pairs <;> cases h : variants.lookup name <;> simp [variant?, null?, h]

theorem toOption_runMappedVariant {pairs : List (String × Value)} (h : Pairs (Writes depth) true s pairs rest) :
    (runMappedVariant variants s).toOption = (variant? variants (.object pairs)).map (·, rest) := by
  unfold runMappedVariant
  cases h with
  | close close =>
    obtain ⟨r, refused⟩ := toOption_eq_none_iff.1 (@toOption_runVariant_of_ne _ _ variants _ _ close (by decide))
    rw [refused]
    rfl
  | @pair _ _ _ u w x _ name value pairs before key colon here after =>
    cases before with
    | first quote =>
    have named := @toOption_runVariant_of_quote _ _ _ variants _ _ quote key
    rw [variant?_object_cons]
    cases found : variants.lookup name with
    | none =>
      rw [found] at named
      obtain ⟨r, refused⟩ := toOption_eq_none_iff.1 named
      rw [refused]
      rfl
    | some variant =>
      rw [found] at named
      rw [toOption_eq_some_iff.1 named]
      dsimp only
      rw [readColon_eq_ok_iff.2 colon]
      dsimp only
      have unit := toOption_runUnit here
      cases isNull : null? value with
      | none =>
        rw [isNull] at unit
        obtain ⟨r, refused⟩ := toOption_eq_none_iff.1 unit
        rw [refused]
        rfl
      | some _ =>
        rw [isNull] at unit
        rw [toOption_eq_some_iff.1 unit]
        dsimp only
        rw [toOption_map, toOption_mapError, toOption_closeObject after]
        cases pairs <;> rfl

/-- A variant is read where one is written, and nothing else is. -/
theorem toOption_runPolicy (h : Writes depth s v rest) :
    (runPolicy variants s).toOption = (variant? variants v).map (·, rest) := by
  obtain ⟨c, t, start, opener⟩ := h.opener
  by_cases string : ∃ text, v = .string text
  · obtain ⟨text, rfl⟩ := string
    obtain ⟨t, quote, read⟩ := h.string_inv
    have named := @toOption_runVariant_of_quote ('"' :: t) _ _ variants _ _ rfl read
    rw [Next] at quote
    unfold runPolicy
    simp only [quote, if_true]
    rw [toOption_map, named, Option.map_map]
    rfl
  · by_cases object : ∃ pairs, v = .object pairs
    · obtain ⟨pairs, rfl⟩ := object
      obtain ⟨below, t, brace, written⟩ := h.object_inv
      rw [Next] at brace
      unfold runPolicy
      simp only [brace, if_true]
      exact toOption_runMappedVariant written
    · unfold runPolicy
      simp only [start, if_neg (mt opener.string.1 string), if_neg (mt opener.object.1 object)]
      cases v with
      | string text => exact absurd ⟨text, rfl⟩ string
      | object pairs => exact absurd ⟨pairs, rfl⟩ object
      | _ => rfl

theorem toOption_run_map {β : Type} (f : α → β) (reader : Reader Rejection α) :
    ((reader.map f).run s).toOption = ((reader.run s).toOption).map fun read => (f read.1, read.2) := by
  unfold Reader.map
  dsimp only
  cases reader.run s <;> rfl

/-- The value of a field is read where an acceptable one is written, and nothing else is. -/
theorem toOption_runKey (config : Config) (key : Key) (h : Writes depth s v rest) :
    ((key.reader config).run s).toOption = (key.read? v).map fun setting => (config.set key setting, rest) := by
  have text (store : String → Config) : ((textReader.map store).run s).toOption =
      (text? v).map fun text => (store text, rest) := by
    rw [toOption_run_map, textReader, toOption_runText _ h, Option.map_map]
    rfl
  have policy {α : Type} (variants : List (String × α)) (store : α → Config) :
      (((policyReader variants).map store).run s).toOption =
        (variant? variants v).map fun variant => (store variant, rest) := by
    rw [toOption_run_map, policyReader, toOption_runPolicy h, Option.map_map]
    rfl
  cases key with
  | numberPolicy => exact policy _ _
  | temporalPolicy => exact policy _ _
  | _ => exact text _

theorem toOption_run_inside (step : Step) (reader : Reader Rejection α) :
    ((inside step reader).run s).toOption = (reader.run s).toOption := toOption_mapError _ _

/-! ## Members -/

/-- A member is taken as the progress takes it. -/
theorem toOption_runMember (progress : Progress) {t u w x : List Char} {name : String}
    (key : readText [] t = .ok (name, u)) (colon : Next ':' u w) (here : Writes depth w v x) :
    ((memberReader progress).run ('"' :: t)).toOption = (progress.take? (name, v)).map (·, x) := by
  simp only [memberReader, readMember, readKey, List.tail_cons, key, chooseField, Progress.take?]
  cases Key.ofName? name with
  | none => rfl
  | some field =>
    dsimp only
    by_cases seen : field ∈ progress.seen
    · rw [if_pos seen, if_pos seen]
      rfl
    · rw [if_neg seen, if_neg seen]
      dsimp only
      rw [readColon_eq_ok_iff.2 colon]
      dsimp only
      rw [toOption_run_map, toOption_run_inside, toOption_runKey _ _ here, Option.map_map, Option.map_map]
      rfl

/-- The members of an object are taken one after the other, up to the closing brace. -/
theorem toOption_readMembers {first : Bool} {pairs : List (String × Value)}
    (h : Pairs (Writes depth) first s pairs rest) (progress : Progress) :
    (readMembers (.ofFault [.unclear]) memberReader first progress s).toOption =
      (progress.takeAll? pairs).map (·, '\x7d' :: rest) := by
  -- The progress is general, since every member is taken into another one.
  induction h generalizing progress with
  | close close =>
    rw [readMembers]
    split
    · next none => cases none.symm.trans (nextMember_eq_none_iff.2 ⟨_, close⟩)
    · rw [close]
      rfl
    · next some => cases some.symm.trans (nextMember_eq_none_iff.2 ⟨_, close⟩)
  | @pair _ _ t _ _ _ _ name value pairs before key colon here _ ih =>
    have next := nextMember_eq_some_iff.2 ⟨before, t, rfl⟩
    have member := toOption_runMember progress key colon here
    rw [readMembers]
    split
    · next fault => cases fault.symm.trans next
    · next none => cases none.symm.trans next
    · next t' some =>
      obtain rfl := Option.some.inj (Except.ok.inj (some.symm.trans next))
      rw [Progress.takeAll?]
      split
      · next refused =>
        rw [refused] at member
        cases taken : progress.take? (name, value) with
        | none => rfl
        | some _ =>
          rw [taken] at member
          cases member
      · next taken =>
        rw [taken] at member
        obtain ⟨after, first, e⟩ := Option.map_eq_some_iff.1 member.symm
        obtain ⟨rfl, rfl⟩ := Prod.mk.inj e
        rw [first]
        exact ih _

/-! ## Values in order -/

theorem toOption_closeArray_of_ne {c : Char} {t : List Char} (start : skipBlanks s = c :: t) (notClose : c ≠ ']') :
    (closeArray s).toOption = none := by
  unfold closeArray
  simp only [start, if_neg notClose]
  split
  · split <;> rfl
  · rfl

/-- An array cannot be closed where another item stands. -/
theorem toOption_closeArray_of_follows {first : Bool} {t : List Char} (before : Follows first s t) (opens : Opens t) :
    (closeArray s).toOption = none := by
  obtain ⟨c, after, rfl, notClose⟩ := opens
  cases before with
  | first start => exact toOption_closeArray_of_ne start notClose
  | comma comma => exact toOption_closeArray_of_ne comma (by decide)

theorem closeArray_of_close (close : Next ']' s rest) : closeArray s = .ok rest := by
  rw [Next] at close
  simp only [closeArray, close, if_true]

/-- The values of an array are read for the first fields, up to the closing bracket. -/
theorem toOption_readFields {values : List Value} {keys : List Key} {index : Nat}
    (h : Items (Writes depth) (index == 0) s values rest) (config : Config) :
    ((readFields keys index config s).toOption.bind fun read =>
      (closeArray read.2).toOption.map fun rest => (read.1, rest)) = (fill? keys values config).map (·, rest) := by
  induction keys generalizing values index config s with
  | nil =>
    change (closeArray s).toOption.map (config, ·) = _
    cases h with
    | close close =>
      rw [closeArray_of_close close]
      rfl
    | item before here _ =>
      rw [toOption_closeArray_of_follows before here.opens]
      rfl
  | cons key keys ih =>
    rw [readFields]
    cases h with
    | close close =>
      rw [nextItem_eq_none_iff.2 ⟨_, close⟩]
      change (closeArray s).toOption.map (config, ·) = _
      rw [closeArray_of_close close]
      rfl
    | @item _ _ t u _ value values before here after =>
      rw [nextItem_eq_some_iff.2 ⟨before, here.opens⟩]
      dsimp only
      have read := toOption_runKey config key here
      rw [← toOption_run_inside (.index index)] at read
      cases meant : key.read? value with
      | none =>
        rw [meant] at read
        obtain ⟨r, refused⟩ := toOption_eq_none_iff.1 read
        rw [refused, fill?, meant]
        rfl
      | some setting =>
        rw [meant] at read
        rw [toOption_eq_some_iff.1 read, fill?, meant]
        exact @ih _ values (index + 1) after (config.set key setting)

/-! ## Configurations -/

/-- The values of an array are read up to the closing bracket if they are values for the first fields. -/
theorem toOption_runSequence {values : List Value} (h : Items (Writes depth) true s values rest) :
    (runSequence s).toOption = (fill? Key.all values {}).map (·, rest) := by
  rw [← @toOption_readFields _ _ _ _ Key.all 0 h {}, runSequence]
  cases readFields Key.all 0 {} s with
  | error r => rfl
  | ok read =>
    dsimp only
    rw [toOption_map, toOption_mapError]
    rfl

/-- The members of an object are read up to the closing brace if they make a configuration. -/
theorem toOption_runMapping {pairs : List (String × Value)} (h : Pairs (Writes depth) true s pairs rest) :
    (runMapping s).toOption = (Progress.takeAll? {} pairs).map fun done => (done.config, rest) := by
  have members := toOption_readMembers h {}
  rw [runMapping]
  cases taken : Progress.takeAll? {} pairs with
  | none =>
    rw [taken] at members
    obtain ⟨r, refused⟩ := toOption_eq_none_iff.1 members
    rw [refused]
    rfl
  | some done =>
    rw [taken] at members
    rw [toOption_eq_some_iff.1 members]
    rfl

/-- **A configuration is read** where a value is written that stands for one, and nothing else is. -/
theorem toOption_runConfig (h : Writes depth s v rest) : (runConfig s).toOption = (ofValue? v).map (·, rest) := by
  obtain ⟨c, t, start, opener⟩ := h.opener
  by_cases array : ∃ values, v = .array values
  · obtain ⟨values, rfl⟩ := array
    obtain ⟨below, t, bracket, written⟩ := h.array_inv
    rw [Next] at bracket
    simp only [runConfig, bracket, if_true]
    exact toOption_runSequence written
  · by_cases object : ∃ pairs, v = .object pairs
    · obtain ⟨pairs, rfl⟩ := object
      obtain ⟨below, t, brace, written⟩ := h.object_inv
      rw [Next] at brace
      simp only [runConfig, brace]
      rw [if_neg (by decide), if_true, toOption_runMapping written, ofValue?, Option.map_map]
      rfl
    · simp only [runConfig, start, if_neg (mt opener.array.1 array), if_neg (mt opener.object.1 object)]
      cases v with
      | array values => exact absurd ⟨values, rfl⟩ array
      | object pairs => exact absurd ⟨pairs, rfl⟩ object
      | _ => rfl

variable {text : String} {config : Config}

theorem toOption_parse (h : IsWritten text v) : (parse text).toOption = ofValue? v := by
  obtain ⟨rest, h, -⟩ := h
  have fronts : (parse text).toOption = (runConfig text.toList).toOption.map Prod.fst := toOption_map _ _
  rw [fronts, toOption_runConfig h, Option.map_map]
  exact Option.map_id'

/-- An object is read as the configuration that its members make. -/
theorem toOption_parse_object {pairs : List (String × Value)} (h : IsWritten text (.object pairs)) :
    (parse text).toOption = (Progress.takeAll? {} pairs).map Progress.config := toOption_parse h

/-- An array is read as the configuration with its values for the first fields. -/
theorem toOption_parse_array {values : List Value} (h : IsWritten text (.array values)) :
    (parse text).toOption = fill? Key.all values {} := toOption_parse h

/-- **An object is a configuration** exactly if its members make one, and which one it is does not depend
on their order. -/
theorem parse_object {pairs : List (String × Value)} (h : IsWritten text (.object pairs)) :
    ((∃ config, parse text = .ok config) ↔ Accepted pairs) ∧
      (∀ config, parse text = .ok config → Describes pairs config) ∧
      ∀ other others, IsWritten other (.object others) → others.Perm pairs →
        (parse other).toOption = (parse text).toOption := by
  have parsed := toOption_parse_object h
  refine ⟨?_, fun config ok => ?_, fun other others written perm => ?_⟩
  · rw [accepted_iff]
    constructor
    · rintro ⟨config, ok⟩
      rw [ok] at parsed
      obtain ⟨done, taken, -⟩ := Option.map_eq_some_iff.1 parsed.symm
      exact ⟨done, taken⟩
    · rintro ⟨done, taken⟩
      rw [taken] at parsed
      exact ⟨done.config, toOption_eq_some_iff.1 parsed⟩
  · rw [ok] at parsed
    obtain ⟨done, taken, rfl⟩ := Option.map_eq_some_iff.1 parsed.symm
    exact describes_takeAll? taken
  · rw [parsed, toOption_parse_object written, takeAll?_perm perm]

/-- **An array is a configuration** exactly if there are not more values than fields and each is acceptable
for the field at its place, and it is the configuration of the object with these fields. -/
theorem parse_array {values : List Value} (h : IsWritten text (.array values)) :
    ((∃ config, parse text = .ok config) ↔
        values.length ≤ 10 ∧ ∀ field ∈ Key.all.zip values, (field.1.read? field.2).isSome) ∧
      ∀ config, parse text = .ok config → Describes (members Key.all values) config ∧
        ∀ other, IsWritten other (.object (members Key.all values)) → parse other = .ok config := by
  have parsed := toOption_parse_array h
  refine ⟨?_, fun config ok => ?_⟩
  · have fills := @exists_fill?_iff Key.all values {}
    rw [← parsed] at fills
    simp only [toOption_eq_some_iff] at fills
    exact fills
  · rw [ok] at parsed
    have short := (exists_fill?_iff.1 ⟨config, parsed.symm⟩).1
    have taken := @fill?_eq_takeAll? Key.all values {} short Key.nodup_all fun _ _ => List.not_mem_nil
    rw [← parsed] at taken
    refine ⟨?_, fun other written => toOption_eq_some_iff.1 ((toOption_parse_object written).trans taken.symm)⟩
    obtain ⟨done, takes, rfl⟩ := Option.map_eq_some_iff.1 taken.symm
    exact describes_takeAll? takes

/-- **The documents that are configurations.** An object is one exactly if its keys, of which none comes
twice, are names of fields and their values are acceptable there; it sets these fields, leaves the others at
their defaults, and the order of its members does not matter. An array is one exactly if it has at most ten
values, each acceptable for the field at its place; it is the same one as the object with these fields. -/
theorem parse_of_document (text : String) :
    (∀ settled, Json.parse text = .ok (.object settled) →
      (∃ pairs, IsWritten text (.object pairs) ∧ Value.settled (.object pairs) = .object settled) ∧
      ∀ pairs, IsWritten text (.object pairs) →
        ((∃ config, parse text = .ok config) ↔ Accepted pairs) ∧
        (∀ config, parse text = .ok config → Describes pairs config) ∧
        ∀ other others, IsWritten other (.object others) → others.Perm pairs →
          (parse other).toOption = (parse text).toOption) ∧
    ∀ settled, Json.parse text = .ok (.array settled) →
      (∃ values, IsWritten text (.array values) ∧ Value.settled (.array values) = .array settled) ∧
      ∀ values, IsWritten text (.array values) →
        ((∃ config, parse text = .ok config) ↔
          values.length ≤ 10 ∧ ∀ field ∈ Key.all.zip values, (field.1.read? field.2).isSome) ∧
        ∀ config, parse text = .ok config → Describes (members Key.all values) config ∧
          ∀ other, IsWritten other (.object (members Key.all values)) → parse other = .ok config := by
  constructor
  · intro settled document
    obtain ⟨written, h, same⟩ := parse_eq_ok_iff_written.1 document
    refine ⟨?_, fun pairs h => parse_object h⟩
    cases written with
    | object pairs => exact ⟨pairs, h, same⟩
    | _ => simp [Value.settled] at same
  · intro settled document
    obtain ⟨written, h, same⟩ := parse_eq_ok_iff_written.1 document
    refine ⟨?_, fun values h => parse_array h⟩
    cases written with
    | array values => exact ⟨values, h, same⟩
    | _ => simp [Value.settled] at same

/-- A policy that is mapped to null, and a text for the first field. -/
theorem parse_of_document_policy :
    (Json.parse "\x7b\"number_policy\":\x7b\"fractional\":null\x7d\x7d" =
        .ok (.object [("number_policy", .object [("fractional", .null)])]) ∧
      parse "\x7b\"number_policy\":\x7b\"fractional\":null\x7d\x7d" = .ok { numberPolicy := .fractional }) ∧
    Json.parse "[\"x\"]" = .ok (.array [.string "x"]) ∧ parse "[\"x\"]" = .ok { modifier := "x" } := by
  constructor
  · have inner : readText [] "fractional\":null\x7d\x7d".toList = .ok ("fractional", ":null\x7d\x7d".toList) := by
      simp [readText]
    have policy : Pairs (Writes 125) true "\"fractional\":null\x7d\x7d".toList [("fractional", .null)] ['\x7d'] :=
      .pair (w := "null\x7d\x7d".toList) (x := ['\x7d', '\x7d']) (.first rfl) inner rfl (.plain (.null rfl))
        (.close rfl)
    have outer : readText [] "number_policy\":\x7b\"fractional\":null\x7d\x7d".toList =
        .ok ("number_policy", ":\x7b\"fractional\":null\x7d\x7d".toList) := by
      simp [readText]
    have written : IsWritten "\x7b\"number_policy\":\x7b\"fractional\":null\x7d\x7d"
        (.object [("number_policy", .object [("fractional", .null)])]) :=
      ⟨[], .object rfl (.pair (w := "\x7b\"fractional\":null\x7d\x7d".toList) (x := ['\x7d']) (.first rfl) outer rfl
        (.object rfl policy) (.close rfl)), rfl⟩
    have document : Json.parse "\x7b\"number_policy\":\x7b\"fractional\":null\x7d\x7d" =
        .ok (.object [("number_policy", .object [("fractional", .null)])]) :=
      parse_eq_ok_iff_written.2 ⟨_, written, rfl⟩
    obtain ⟨accepts, describes, -⟩ := ((parse_of_document _).1 _ document).2 _ written
    have accepted : Accepted [("number_policy", .object [("fractional", .null)])] :=
      ⟨List.nodup_singleton _, List.forall_mem_singleton.2 ⟨.numberPolicy, rfl, rfl⟩⟩
    obtain ⟨config, ok⟩ := accepts.2 accepted
    have same : Describes [("number_policy", .object [("fractional", .null)])] { numberPolicy := .fractional } := by
      intro key
      cases key <;> rfl
    exact ⟨document, by rw [ok, (describes config ok).unique same]⟩
  · have first : readText [] "x\"]".toList = .ok ("x", "]".toList) := by simp [readText]
    have written : IsWritten "[\"x\"]" (.array [.string "x"]) :=
      ⟨[], .array rfl (.item (u := "]".toList) (.first rfl) (.plain (.string rfl first)) (.close rfl)), rfl⟩
    have document : Json.parse "[\"x\"]" = .ok (.array [.string "x"]) :=
      parse_eq_ok_iff_written.2 ⟨_, written, rfl⟩
    obtain ⟨accepts, describes⟩ := ((parse_of_document _).2 _ document).2 _ written
    obtain ⟨config, ok⟩ := accepts.2 ⟨by decide, List.forall_mem_singleton.2 rfl⟩
    have same : Describes [("modifier", .string "x")] { modifier := "x" } := by
      intro key
      cases key <;> rfl
    exact ⟨document, by rw [ok, (describes config ok).1.unique same]⟩

end TypeSketch.Config
