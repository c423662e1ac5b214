import TypeSketch.Proofs.Acceptance
import TypeSketch.Proofs.Fronts

/-!
# What follows a configuration

A configuration ends with its bracket or brace, and the rest of its text is not looked at. So a text is a
configuration if it begins with one, whether or not the whole of it is a document.

* `Stands` : a value is written at the front of a text, and is so whatever follows it;
* `stands_of_runPolicy`, `stands_of_runKey`, `stands_of_runConfig` : what is read as a variant, as a field or as a
  configuration is such a value;
* `parse_of_writes`, `exists_stands` : a text is a configuration if it begins with a value that stands for one, and
  only then;
* `parse_eq_ok_iff_front` : so what follows that value is not looked at.
-/

namespace TypeSketch.Config

open Json Text

/-- A value whose containers nest at most `depth` deep is written at the front of a text, whatever follows it. -/
def Stands (depth : Nat) (s : List Char) (v : Value) (rest : List Char) : Prop :=
  Stays (fun s rest => Writes depth s v rest) s rest

variable {depth : Nat} {s rest : List Char}

/-! ## Values of fields -/

theorem quote_of_runText {expected text : String} (h : runText expected s = .ok (text, rest)) :
    ∃ t, Next '"' s t ∧ readText [] t = .ok (text, rest) := by
  unfold runText at h
  split at h
  · cases h
  · next c t start =>
    split at h
    · next quote => exact ⟨t, quote ▸ start, ok_of_mapError h⟩
    · cases h

theorem stands_of_runText {expected text : String} (h : runText expected s = .ok (text, rest)) :
    Stands depth s (.string text) rest := by
  obtain ⟨t, quote, read⟩ := quote_of_runText h
  exact stays_string quote read

theorem stands_of_runUnit (h : runUnit s = .ok rest) : Stands depth s .null rest := by
  unfold runUnit at h
  split at h
  · cases h
  · next c t start =>
    split at h
    · next letter =>
      rw [letter, readWord_eq_ok_iff.1 (ok_of_mapError h)] at start
      exact stays_null start
    · cases h

theorem next_of_closeObject (h : closeObject s = .ok rest) : Next '\x7d' s rest := by
  unfold closeObject at h
  split at h
  · cases h
  · next c t start =>
    split at h
    · next brace =>
      obtain rfl := Except.ok.inj h
      exact brace ▸ start
    · cases h

variable {α : Type} {variants : List (String × α)} {variant : α}

theorem runText_of_runVariant {name : String} (h : runVariant variants s = .ok (name, variant, rest)) :
    runText "variant identifier" s = .ok (name, rest) := by
  unfold runVariant at h
  split at h
  · cases h
  · next name' rest' named =>
    split at h
    · obtain ⟨rfl, same⟩ := Prod.mk.inj (Except.ok.inj h)
      rw [named, (Prod.mk.inj same).2]
    · cases h

/-- A variant is read after the opening brace only if it is the key of the one pair there, with null. -/
theorem pairs_of_runMappedVariant (h : runMappedVariant variants s = .ok (variant, rest)) :
    ∃ name, Pairs (Stands depth) true s [(name, .null)] rest := by
  unfold runMappedVariant at h
  split at h
  · cases h
  · next name _ _ named =>
    obtain ⟨t, quote, read⟩ := quote_of_runText (runText_of_runVariant named)
    split at h
    · cases h
    · next _ colon =>
      split at h
      · cases h
      · next _ unit =>
        obtain ⟨closed, brace, same⟩ := ok_of_map h
        obtain rfl := (Prod.mk.inj same).2
        exact ⟨name, .pair (.first quote) read (readColon_eq_ok_iff.1 colon) (stands_of_runUnit unit)
          (.close (next_of_closeObject (ok_of_mapError brace)))⟩

theorem stands_of_runPolicy (h : runPolicy variants s = .ok (variant, rest)) :
    ∃ v, Stands (depth + 1) s v rest := by
  unfold runPolicy at h
  split at h
  · cases h
  · next c t start =>
    split at h
    · next quote =>
      subst quote
      obtain ⟨⟨name, read⟩, named, rfl⟩ := ok_of_map h
      obtain ⟨t', again, text⟩ := quote_of_runText (runText_of_runVariant named)
      obtain ⟨-, rfl⟩ := List.cons.inj again
      exact ⟨.string name, stays_string start text⟩
    · split at h
      · next brace =>
        obtain ⟨name, pair⟩ := pairs_of_runMappedVariant h
        exact ⟨_, stays_object (brace ▸ start) pair⟩
      · cases h

theorem run_of_run_map {β : Type} {f : α → β} {reader : Reader Rejection α} {b : β}
    (h : (reader.map f).run s = .ok (b, rest)) : ∃ a, reader.run s = .ok (a, rest) := by
  unfold Reader.map at h
  dsimp only at h
  split at h
  · cases h
  · next a rest' read =>
    obtain ⟨-, rfl⟩ := Prod.mk.inj (Except.ok.inj h)
    exact ⟨a, read⟩

theorem stands_of_runKey {config next : Config} {key : Key} (h : (key.reader config).run s = .ok (next, rest)) :
    ∃ v, Stands (depth + 1) s v rest := by
  have text {store : String → Config} (h : (textReader.map store).run s = .ok (next, rest)) :
      ∃ v, Stands (depth + 1) s v rest := by
    obtain ⟨text, read⟩ := run_of_run_map h
    exact ⟨_, stands_of_runText read⟩
  have policy {α : Type} {variants : List (String × α)} {store : α → Config}
      (h : ((policyReader variants).map store).run s = .ok (next, rest)) : ∃ v, Stands (depth + 1) s v rest := by
    obtain ⟨variant, read⟩ := run_of_run_map h
    exact stands_of_runPolicy read
  cases key with
  | numberPolicy => exact policy h
  | temporalPolicy => exact policy h
  | _ => exact text h

/-! ## Configurations -/

theorem member_of_runMember {progress next : Progress} {t : List Char}
    (h : (memberReader progress).run ('"' :: t) = .ok (next, rest)) :
    ∃ name u w v, readText [] t = .ok (name, u) ∧ Next ':' u w ∧ Stands (depth + 1) w v rest := by
  simp only [memberReader, readMember, readKey, List.tail_cons] at h
  split at h
  · cases h
  · next name u key =>
    split at h
    · cases h
    · next reader chosen =>
      split at h
      · cases h
      · next w colon =>
        unfold chooseField at chosen
        split at chosen
        · cases chosen
        · split at chosen
          · cases chosen
          · obtain rfl := Except.ok.inj chosen
            obtain ⟨config, read⟩ := run_of_run_map h
            obtain ⟨v, stands⟩ := @stands_of_runKey depth _ _ _ _ _ (ok_of_mapError read)
            exact ⟨name, u, w, v, key, readColon_eq_ok_iff.1 colon, stands⟩

/-- What is read as the members of a configuration is the pairs of an object. -/
theorem pairs_of_readMembers {first : Bool} {progress done : Progress}
    (h : readMembers (.ofFault [.unclear]) memberReader first progress s = .ok (done, rest)) :
    ∃ pairs t, Pairs (Stands (depth + 1)) first s pairs t ∧ rest = '\x7d' :: t := by
  fun_induction readMembers (.ofFault [.unclear]) memberReader first progress s with
  | case1 => cases h
  | case2 first progress s before =>
    obtain ⟨t, ends⟩ := nextMember_eq_none_iff.1 before
    obtain ⟨-, rfl⟩ := Prod.mk.inj (Except.ok.inj h)
    exact ⟨[], t, .close ends, ends⟩
  | case3 => cases h
  | case4 first progress s s' before next x taken ih =>
    obtain ⟨follows, t, rfl⟩ := nextMember_eq_some_iff.1 before
    obtain ⟨name, u, w, v, key, colon, stands⟩ := @member_of_runMember depth _ _ _ _ taken
    obtain ⟨pairs, t', others, rfl⟩ := ih h
    exact ⟨(name, v) :: pairs, t', .pair follows key colon stands others, rfl⟩

theorem next_of_closeArray (h : closeArray s = .ok rest) : Next ']' s rest := by
  unfold closeArray at h
  split at h
  · cases h
  · next c t start =>
    split at h
    · next bracket =>
      obtain rfl := Except.ok.inj h
      exact bracket ▸ start
    · split at h
      · split at h <;> cases h
      · cases h

/-- What is read as the values of the first fields is the items of an array. -/
theorem items_of_readFields {keys : List Key} {index : Nat} {config filled : Config} {t : List Char}
    (h : readFields keys index config s = .ok (filled, t)) (close : closeArray t = .ok rest) :
    ∃ values, Items (Stands (depth + 1)) (index == 0) s values rest := by
  induction keys generalizing index config s with
  | nil =>
    obtain ⟨-, rfl⟩ := Prod.mk.inj (Except.ok.inj h)
    exact ⟨[], .close (next_of_closeArray close)⟩
  | cons key keys ih =>
    unfold readFields at h
    split at h
    · cases h
    · obtain ⟨-, rfl⟩ := Prod.mk.inj (Except.ok.inj h)
      exact ⟨[], .close (next_of_closeArray close)⟩
    · next item before =>
      split at h
      · cases h
      · next config' u taken =>
        obtain ⟨v, stands⟩ := @stands_of_runKey depth _ _ _ _ _ (ok_of_mapError taken)
        obtain ⟨values, others⟩ := ih h
        exact ⟨v :: values, .item (nextItem_eq_some_iff.1 before).1 stands others⟩

/-- What is read as a configuration is a value that is written there whatever follows it. -/
theorem stands_of_runConfig {config : Config} (h : runConfig s = .ok (config, rest)) :
    ∃ v, Stands (depth + 2) s v rest := by
  unfold runConfig at h
  split at h
  · cases h
  · next c t start =>
    split at h
    · next bracket =>
      unfold runSequence at h
      split at h
      · cases h
      · next filled u fields =>
        obtain ⟨closed, close, same⟩ := ok_of_map h
        obtain rfl := (Prod.mk.inj same).2
        obtain ⟨values, items⟩ := @items_of_readFields depth _ _ _ _ _ _ _ fields (ok_of_mapError close)
        exact ⟨.array values, stays_array (bracket ▸ start) items⟩
    · split at h
      · next brace =>
        unfold runMapping at h
        split at h
        · cases h
        · next done u members =>
          obtain ⟨-, rfl⟩ := Prod.mk.inj (Except.ok.inj h)
          obtain ⟨pairs, t', written, rfl⟩ := @pairs_of_readMembers depth _ _ _ _ _ members
          exact ⟨.object pairs, stays_object (brace ▸ start) written⟩
      · cases h

/-! ## Whole texts -/

/-- A value at the front of a text leaves one rest. -/
theorem rest_eq_of_writes {v v' : Value} {rest' : List Char} (h : Writes depth s v rest) (h' : Writes depth s v' rest') :
    rest' = rest := by
  have spells := spells_iff_writes.2 ⟨v, h, rfl⟩
  have spells' := spells_iff_writes.2 ⟨v', h', rfl⟩
  rw [← readValue_takes] at spells spells'
  exact (Prod.mk.inj (Except.ok.inj (spells'.symm.trans spells))).2

variable {text : String} {config : Config}

/-- A text is a configuration if a value is written at its front that stands for one. -/
theorem parse_of_writes {v : Value} (h : Writes depth text.toList v rest) (meant : ofValue? v = some config) :
    parse text = .ok config := by
  have read := toOption_runConfig h
  rw [meant] at read
  rw [parse]
  exact congrArg (Except.map Prod.fst) (toOption_eq_some_iff.1 read)

/-- The text of a configuration begins with a value that stands for it, whatever follows this value. -/
theorem exists_stands (h : parse text = .ok config) :
    ∃ v rest, Stands maxDepth text.toList v rest ∧ ofValue? v = some config := by
  obtain ⟨⟨config', rest⟩, read, rfl⟩ := ok_of_map h
  change runConfig text.toList = .ok (config', rest) at read
  obtain ⟨v, stands⟩ := @stands_of_runConfig 125 _ _ _ read
  have meant := toOption_runConfig stands.step
  rw [toOption_eq_some_iff.2 read] at meant
  obtain ⟨config, meant, same⟩ := Option.map_eq_some_iff.1 meant.symm
  exact ⟨v, rest, stands, meant.trans (congrArg some (Prod.mk.inj same).1)⟩

/-- **A text is a configuration** exactly if it begins with a document that is one, and it is this one whatever follows
the document. The whole text need not be a document: it is one only if nothing but blanks follows. -/
theorem parse_eq_ok_iff_front (text : String) (config : Config) : parse text = .ok config ↔
    ∃ front rest : String, text = front ++ rest ∧
      (∃ value, Json.parse front = .ok value) ∧
      (∀ other, parse (front ++ other) = .ok config) ∧
      ((∃ value, Json.parse text = .ok value) ↔ ∀ c ∈ rest.toList, isBlank c = true) := by
  constructor
  · intro h
    obtain ⟨v, rest, stands, meant⟩ := exists_stands h
    have here := stands.step
    obtain ⟨front, -, split, stays⟩ := stands
    have written : IsWritten (.ofList front) v := by
      refine ⟨[], ?_, rfl⟩
      rw [String.toList_ofList, ← List.append_nil front]
      exact stays []
    have followed (other : String) : Writes maxDepth (String.ofList front ++ other).toList v other.toList := by
      rw [String.toList_append, String.toList_ofList]
      exact stays other.toList
    refine ⟨.ofList front, .ofList rest, ?_, ⟨_, parse_eq_ok_iff_written.2 ⟨v, written, rfl⟩⟩,
      fun other => parse_of_writes (followed other) meant, ?_⟩
    · rw [← String.toList_inj, split, String.toList_append, String.toList_ofList, String.toList_ofList]
    · rw [String.toList_ofList, ← List.dropWhile_eq_nil_iff]
      constructor
      · rintro ⟨value, document⟩
        obtain ⟨v', ⟨rest', whole, blank⟩, -⟩ := parse_eq_ok_iff_written.1 document
        rwa [rest_eq_of_writes here whole] at blank
      · intro blank
        exact ⟨_, parse_eq_ok_iff_written.2 ⟨v, ⟨rest, here, blank⟩, rfl⟩⟩
  · rintro ⟨front, rest, rfl, -, stays, -⟩
    exact stays rest

/-- The object is closed too early. What was meant as its second member is left over and not noticed. -/
theorem parse_closed_early :
    parse "\x7b\"modifier\":\"internal\"\x7d,\"float_type\":\"double\"\x7d" = .ok { modifier := "internal" } ∧
    ∀ value, Json.parse "\x7b\"modifier\":\"internal\"\x7d,\"float_type\":\"double\"\x7d" ≠ .ok value := by
  have key : readText [] "modifier\":\"internal\"\x7d,\"float_type\":\"double\"\x7d".toList =
      .ok ("modifier", ":\"internal\"\x7d,\"float_type\":\"double\"\x7d".toList) := by
    simp [readText]
  have text : readText [] "internal\"\x7d,\"float_type\":\"double\"\x7d".toList =
      .ok ("internal", "\x7d,\"float_type\":\"double\"\x7d".toList) := by
    simp [readText]
  have written : Writes maxDepth "\x7b\"modifier\":\"internal\"\x7d,\"float_type\":\"double\"\x7d".toList
      (.object [("modifier", .string "internal")]) ",\"float_type\":\"double\"\x7d".toList :=
    .object rfl (.pair (w := "\"internal\"\x7d,\"float_type\":\"double\"\x7d".toList) (.first rfl) key rfl
      (.plain (.string rfl text)) (.close rfl))
  refine ⟨parse_of_writes written rfl, fun value document => ?_⟩
  obtain ⟨v, ⟨rest, whole, blank⟩, -⟩ := parse_eq_ok_iff_written.1 document
  rw [rest_eq_of_writes written whole] at blank
  cases blank

end TypeSketch.Config
