import TypeSketch.Proofs.FilterOutputs
import TypeSketch.Proofs.FilterTexts

/-!
# Documents as inputs of filters

The filters `.` and `.[]` show what becomes of a document on its way through a filter: it is turned into a
value of filters, written as the text of one, and read again.

* `compile_identity`, `compile_iterate` : what the two filters are;
* `toList_outputs_identity`, `toList_outputs_iterate` : their outputs for any document;
* `Value.Integral`, `Integral.item`, `Integral.member`, `Integral.atPointer` : the documents of integers, and
  their parts;
* `run_identity`, `run_iterate_array`, `run_iterate_object` : the documents that the two filters make of one;
* `map_loaded_identity` : what is found in a text, with and without the filter `.`;
* `run_identity_and_iterate` : the two filters on the document of a text.
-/

namespace TypeSketch

namespace Filter

open Json Parse

/-! ## Programs -/

/-- The filter of all items or of the values of all members. -/
def Term.iterate : Term := .path .id [(.range none none, false)]

theorem compile_identity : compile "." = .ok .id := rfl

theorem Parse.bind_of_ok {α β : Type} {p : Parse α} {f : α → Parse β} {s s' : Progress} {a : α} (h : p s = .ok a s') :
    (p >>= f) s = f a s' := by
  show EStateM.bind p f s = _
  rw [EStateM.bind, h]

section

variable (fuel : Nat)

theorem path_iterate :
    path (fuel + 2) ⟨[.block "[]" [.symbol "]"]], []⟩ = .ok [(.range none none, false)] ⟨[], []⟩ := by
  have opens : "[]".startsWith "[" = true := by cbv
  show (if "[]".startsWith "[" = true then _ else _ : Parse _) _ = _
  rw [if_pos opens]
  rfl

theorem atom_iterate :
    atom (fuel + 3) ⟨[.symbol ".", .block "[]" [.symbol "]"]], []⟩ = .ok .iterate ⟨[], []⟩ :=
  (bind_of_ok (path_iterate fuel)).trans rfl

theorem term_iterate :
    term (fuel + 5) ⟨[.symbol ".", .block "[]" [.symbol "]"]], []⟩ = .ok .iterate ⟨[], []⟩ :=
  (bind_of_ok (atom_iterate fuel)).trans rfl

theorem program_iterate :
    program (fuel + 5) ⟨[.symbol ".", .block "[]" [.symbol "]"]], []⟩ = .ok ([], .iterate) ⟨[], []⟩ :=
  (bind_of_ok (term_iterate fuel)).trans rfl

theorem runAll_iterate :
    Parse.runAll ([], .id) (program (fuel + 5)) [.symbol ".", .block "[]" [.symbol "]"]] = .ok ([], .iterate) := by
  rw [runAll, within]
  have whole : (do let x ← program (fuel + 5); finish ""; return x : Parse _)
      ⟨[.symbol ".", .block "[]" [.symbol "]"]], []⟩ = .ok ([], .iterate) ⟨[], []⟩ :=
    (bind_of_ok (program_iterate fuel)).trans rfl
  dsimp only
  rw [whole]
  rfl

end

theorem compile_iterate : compile ".[]" = .ok .iterate := by
  have lexed : (tokenize ".[]".toList).mapError Failure.lexical = pure [.symbol ".", .block "[]" [.symbol "]"]] := rfl
  -- The tokens are computed; parsing them is left to the lemmas, for any fuel that is enough.
  have parsed : (Parse.runAll ([], .id) (program (depthOf ".[]".toList))
      [.symbol ".", .block "[]" [.symbol "]"]]).mapError Failure.grammatical = pure ([], .iterate) := by
    rw [show depthOf ".[]".toList = 35 + 5 from rfl, runAll_iterate]
    rfl
  unfold compile
  dsimp only
  rw [lexed, pure_bind, parsed, pure_bind]
  rfl

/-! ## Outputs -/

theorem eval_identity (fuel : Nat) (c : Scope) (x : At) : eval (fuel + 1) c .id x = Results.one x := rfl

theorem eval_iterate (fuel : Nat) (c : Scope) (x : At) :
    eval (fuel + 3) c .iterate x = reachAll x [(.range none none, false)] := rfl

theorem toList_each_one {α : Type} (outputs : Results α) : (outputs.each Results.one).toList = outputs.toList := by
  rw [Results.each, Outputs.toList_flatMap]
  conv_rhs => rw [← List.flatMap_singleton' outputs.toList]
  refine List.flatMap_congr fun output _ => ?_
  cases output <;> rfl

theorem toList_reach_children {v : Val} {parts : List Val} (h : v.children = .ok parts) :
    (Step.reach (.range none none) ⟨v, none⟩).toList = parts.map fun part => .ok ⟨part, none⟩ := by
  -- The keys lead to the parts, and are dropped where no path is asked for.
  have dropped {keys : List Val} (enough : parts.length ≤ keys.length) :
      ((keys.zip parts).map fun entry => (.ok (At.part ⟨v, none⟩ entry.1 entry.2) : Except Exit At)) =
        parts.map fun part => .ok ⟨part, none⟩ := by
    conv_rhs => rw [← List.map_snd_zip enough, List.map_map]
    rfl
  rw [Step.reach, h]
  refine (Outputs.toList_ofList _).trans (dropped ?_)
  cases v with
  | obj members =>
    obtain rfl := Except.ok.inj h
    rw [List.length_map, List.length_map]
  | _ => rw [List.length_map, List.length_range]

theorem toList_outputs_identity (document : Value) :
    (outputs .id document).toList = [.ok ⟨Val.ofJson document, none⟩] := by
  rw [outputs, show maxCalls = 999999999 + 1 from rfl, eval_identity]
  rfl

theorem toList_outputs_iterate {document : Value} {parts : List Val} (h : (Val.ofJson document).children = .ok parts) :
    (outputs .iterate document).toList = parts.map fun part => .ok ⟨part, none⟩ := by
  rw [outputs, show maxCalls = 999999997 + 3 from rfl, eval_iterate]
  exact (toList_each_one _).trans (toList_reach_children h)

end Filter

/-! ## Documents of integers -/

namespace Json

theorem Value.Within.succ {depth : Nat} {v : Value} (h : v.Within depth) : v.Within (depth + 1) := by
  induction h with
  | null depth => exact .null _
  | bool depth b => exact .bool _ b
  | number depth n => exact .number _ n
  | string depth s => exact .string _ s
  | array h ih => exact .array ih
  | object keys h ih => exact .object keys ih

/-- A document that a text can hold, and all of whose numbers are integers. -/
structure Value.Integral (v : Value) : Prop where
  within : v.Within maxDepth
  integers : v.EveryNumber Number.IsInteger

namespace Value.Integral

variable {v part : Value}

theorem item {items : List Value} (h : (Value.array items).Integral) : ∀ item ∈ items, item.Integral := by
  obtain ⟨within, integers⟩ := h
  cases within with | array within =>
  cases integers with | array integers =>
  exact fun item mem => ⟨(within item mem).succ, integers item mem⟩

theorem member {members : List (String × Value)} (h : (Value.object members).Integral) :
    ∀ member ∈ members, member.2.Integral := by
  obtain ⟨within, integers⟩ := h
  cases within with | object keys within =>
  cases integers with | object integers =>
  exact fun member mem => ⟨(within member mem).succ, integers member mem⟩

theorem child {step : String} (h : v.Integral) (there : v.child? step = some part) : part.Integral := by
  cases v with
  | object members =>
    obtain ⟨member, mem, rfl⟩ := Members.exists_mem_of_get? there
    exact h.member member mem
  | array items =>
    obtain ⟨n, -, there⟩ := Option.bind_eq_some_iff.1 there
    exact h.item part (List.mem_of_getElem? there)
  | _ => cases there

theorem descend {steps : List String} (h : v.Integral) (there : v.descend? steps = some part) : part.Integral := by
  induction steps generalizing v with
  | nil => exact Option.some.inj there ▸ h
  | cons step steps ih =>
    obtain ⟨child, here, later⟩ := Option.bind_eq_some_iff.1 there
    exact ih (h.child here) later

theorem atPointer {pointer : String} (h : v.Integral) (there : v.atPointer? pointer = some part) : part.Integral := by
  obtain ⟨steps, -, there⟩ := Option.bind_eq_some_iff.1 there
  exact h.descend there

end Value.Integral

end Json

namespace Filter

open Json

variable {v : Value}

/-- A document of integers is the only output of the filter `.`. -/
theorem run_identity (h : v.Integral) : run "." v = .ok [v] := by
  rw [run_of_compile compile_identity, readOutputs_eq_ok_iff, toList_outputs_identity]
  exact .cons ⟨_, rfl, Val.parse_text_of_integers h.within h.integers⟩ .nil

theorem run_iterate {parts : List Value} (children : (Val.ofJson v).children = .ok (parts.map Val.ofJson))
    (h : ∀ part ∈ parts, part.Integral) : run ".[]" v = .ok parts := by
  rw [run_of_compile compile_iterate, readOutputs_eq_ok_iff, toList_outputs_iterate children, List.map_map,
    List.forall₂_map_left_iff, List.forall₂_same]
  exact fun part mem => ⟨_, rfl, Val.parse_text_of_integers (h part mem).within (h part mem).integers⟩

/-- The items of a document of integers are the outputs of the filter `.[]`. -/
theorem run_iterate_array {items : List Value} (h : (Value.array items).Integral) : run ".[]" (.array items) = .ok items :=
  run_iterate (congrArg Except.ok (Val.ofItems_eq_map items)) h.item

/-- The values of the members of a document of integers are the outputs of the filter `.[]`. -/
theorem run_iterate_object {members : List (String × Value)} (h : (Value.object members).Integral) :
    run ".[]" (.object members) = .ok (members.map Prod.snd) := by
  refine run_iterate (congrArg Except.ok ?_) (List.forall_mem_map.2 h.member)
  rw [Val.ofMembers_eq_map, List.map_map, List.map_map]
  rfl

end Filter

namespace Command

open Json

variable {text : String} {value : Value}

/-- What is selected of a document of integers is one. -/
theorem integral_part {selection : Selection} {part : Value} (h : value.Integral)
    (selected : selection.part value = .ok part) : part.Integral := by
  obtain ⟨byLine, pointer?, filter?⟩ := selection
  cases pointer? with
  | none =>
    obtain rfl : value = part := Except.ok.inj selected
    exact h
  | some pointer =>
    cases there : value.atPointer? pointer with
    | none => cases (part_of_nowhere there).symm.trans selected
    | some found =>
      obtain rfl : found = part := Except.ok.inj ((part_of_there there).symm.trans selected)
      exact h.atPointer there

/-- The filter `.` leaves what is found in a text as it is. -/
theorem map_loaded_identity (accepted : Json.parse text = .ok value) (h : value.Integral) (byLine : Bool)
    (pointer? : Option String) (origin : String) :
    (Selection.documentsOf ⟨byLine, pointer?, some "."⟩ origin text.toList).map Document.loaded =
      (Selection.documentsOf ⟨byLine, pointer?, none⟩ origin text.toList).map Document.loaded := by
  -- Both select the same part, as the filter has no say in it.
  cases selected : Selection.part ⟨byLine, pointer?, none⟩ value with
  | error reason =>
    have missed : Selection.part ⟨byLine, pointer?, some "."⟩ value = .error reason := selected
    rw [documentsOf_of_noPart accepted selected, documentsOf_of_noPart accepted missed]
  | ok part =>
    have same : Selection.part ⟨byLine, pointer?, some "."⟩ value = .ok part := selected
    rw [documentsOf_of_part accepted selected, documentsOf_of_part accepted same, Selection.filtered, Selection.filtered]
    dsimp only
    rw [Filter.run_identity (integral_part h selected)]
    rfl

/-- **A document of integers as the input of a filter** comes back as it was: it is the only output of the filter
`.`, and its items or the values of its members, in order, are the outputs of the filter `.[]`. So the filter
`.` leaves the declarations of a text as they are, whatever the pointer. -/
theorem run_identity_and_iterate (accepted : Json.parse text = .ok value) (integers : value.EveryNumber Number.IsInteger) :
    Filter.run "." value = .ok [value] ∧
    (∀ items, value = .array items → Filter.run ".[]" value = .ok items) ∧
    (∀ members, value = .object members → Filter.run ".[]" value = .ok (members.map Prod.snd)) ∧
    ∀ blocks config byLine pointer? origin,
      let filtered := declareAll blocks config (Selection.documentsOf ⟨byLine, pointer?, some "."⟩ origin text.toList)
      let plain := declareAll blocks config (Selection.documentsOf ⟨byLine, pointer?, none⟩ origin text.toList)
      filtered.text = plain.text ∧ filtered.complete = plain.complete := by
  have integral : value.Integral := ⟨within_of_parse accepted, integers⟩
  refine ⟨Filter.run_identity integral, ?_, ?_, fun blocks config byLine pointer? origin => ?_⟩
  · rintro items rfl
    exact Filter.run_iterate_array integral
  · rintro members rfl
    exact Filter.run_iterate_object integral
  · exact declareAll_congr (map_loaded_identity accepted integral byLine pointer? origin)

/-- Control characters and the largest integer of 64 bits, at different depths. -/
def controlledMembers : List (String × Value) := [("\x08", wideAndControl), ("a", .string "\x0c")]

theorem run_identity_and_iterate_controlled :
    Json.parse "\x7b\"\\u0008\":[18446744073709551615,\x7b\"\\u0001\":-1\x7d],\"a\":\"\\u000c\"\x7d" =
      .ok (.object controlledMembers) ∧
    (Value.object controlledMembers).EveryNumber Number.IsInteger ∧
    Filter.run "." (.object controlledMembers) = .ok [.object controlledMembers] ∧
    Filter.run ".[]" (.object controlledMembers) = .ok [wideAndControl, .string "\x0c"] := by
  have wide : wideAndControl.EveryNumber Number.IsInteger := by
    refine .array (List.forall_mem_cons.2 ⟨.number ⟨_, _, rfl⟩, List.forall_mem_singleton.2 ?_⟩)
    exact .object (List.forall_mem_singleton.2 (.number ⟨_, _, rfl⟩))
  have integers : (Value.object controlledMembers).EveryNumber Number.IsInteger :=
    .object (List.forall_mem_cons.2 ⟨wide, List.forall_mem_singleton.2 (.string _)⟩)
  have shallow : wideAndControl.Within (maxDepth - 1) := by
    refine .array (List.forall_mem_cons.2 ⟨.number _ _, List.forall_mem_singleton.2 ?_⟩)
    exact .object (by decide) (List.forall_mem_singleton.2 (.number _ _))
  have within : (Value.object controlledMembers).Within maxDepth :=
    .object (by decide) (List.forall_mem_cons.2 ⟨shallow, List.forall_mem_singleton.2 (.string _ _)⟩)
  have written : (Filter.Val.ofJson (.object controlledMembers)).text =
      "\x7b\"\\u0008\":[18446744073709551615,\x7b\"\\u0001\":-1\x7d],\"a\":\"\\u000c\"\x7d" := by
    decide +kernel
  have accepted := Filter.Val.parse_text_of_integers within integers
  rw [written] at accepted
  obtain ⟨identity, -, members, -⟩ := run_identity_and_iterate accepted integers
  exact ⟨accepted, integers, identity, members _ rfl⟩

end Command

end TypeSketch
