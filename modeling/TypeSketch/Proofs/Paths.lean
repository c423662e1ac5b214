import TypeSketch.Proofs.Acceptance

/-!
# Where a configuration goes wrong

Members and items are read in order, so the first value that is wrong is the one that is reported, and what
comes after it is not looked at.

* `MemberAt`, `ItemAt` : the place of a value in an object or an array, told by what is written before it;
* `FailsAt` : a result that is a rejection with a given path;
* `failsAt_readMembers`, `failsAt_readItems` : the loops stop at the first member or item that is rejected;
* `Key.Misfits`, `Key.MisfitsAt`, `failsAt_runKey` : what is wrong for a field, which is rejected as a whole;
* `IsConfig` : the values that are configurations;
* `failsAt_runConfig`, `failsAt_runList`, `failsAt_runMap` : the path to a wrong value in a configuration, and in a
  list or a map of them;
* `ObjectMisfit`, `ListMisfit`, `MapMisfit` : texts with a wrong value, whatever follows it;
* `parse_misfit` : the texts of these paths.
-/

namespace TypeSketch.Json

variable {α : Type} {Item : List Char → α → List Char → Prop}

/-! ## Places -/

/-- The value of the key `key` stands at `place`, after some pairs. What follows is left open. -/
inductive MemberAt (Item : List Char → α → List Char → Prop) (key : String) (place : List Char) :
    Bool → List Char → List (String × α) → Prop
  | here {first : Bool} {s t u : List Char} (before : Follows first s ('"' :: t)) (name : readText [] t = .ok (key, u))
      (colon : Next ':' u place) : MemberAt Item key place first s []
  | later {first : Bool} {s t u w x : List Char} {other : String} {a : α} {pairs : List (String × α)}
      (before : Follows first s ('"' :: t)) (name : readText [] t = .ok (other, u)) (colon : Next ':' u w)
      (passed : Item w a x) (after : MemberAt Item key place false x pairs) :
      MemberAt Item key place first s ((other, a) :: pairs)

/-- The next item stands at `place`, after some items. What follows is left open. -/
inductive ItemAt (Item : List Char → α → List Char → Prop) (place : List Char) : Bool → List Char → List α → Prop
  | here {first : Bool} {s : List Char} (before : Follows first s place) : ItemAt Item place first s []
  | later {first : Bool} {s t u : List Char} {a : α} {items : List α} (before : Follows first s t) (passed : Item t a u)
      (after : ItemAt Item place false u items) : ItemAt Item place first s (a :: items)

theorem Pairs.memberAt {first : Bool} {s rest : List Char} {before after : List (String × α)} {key : String} {a : α}
    (h : Pairs Item first s (before ++ (key, a) :: after) rest) :
    ∃ place x, MemberAt Item key place first s before ∧ Item place a x := by
  induction before generalizing first s with
  | nil =>
    cases h with
    | pair before name colon here _ => exact ⟨_, _, .here before name colon, here⟩
  | cons pair before ih =>
    cases h with
    | pair follows name colon passed others =>
      obtain ⟨place, x, member, here⟩ := ih others
      exact ⟨place, x, .later follows name colon passed member, here⟩

theorem Items.itemAt {first : Bool} {s rest : List Char} {before after : List α} {a : α}
    (h : Items Item first s (before ++ a :: after) rest) :
    ∃ place x, ItemAt Item place first s before ∧ Item place a x := by
  induction before generalizing first s with
  | nil =>
    cases h with
    | item before here _ => exact ⟨_, _, .here before, here⟩
  | cons item before ih =>
    cases h with
    | item follows passed others =>
      obtain ⟨place, x, next, here⟩ := ih others
      exact ⟨place, x, .later follows passed next, here⟩

end TypeSketch.Json

namespace TypeSketch.Config

open Json Text

/-! ## Rejections and their paths -/

/-- The result is a rejection with this path. -/
def FailsAt {α : Type} (path : List Step) (result : Except Rejection α) : Prop :=
  ∃ r, result = .error r ∧ r.path = path

section

variable {α β : Type} {path : List Step} {reader : Reader Rejection α} {s : List Char}

/-- A result that passes rejections on is rejected with the same path. -/
theorem FailsAt.passed {result : Except Rejection α} {other : Except Rejection β} (h : FailsAt path result)
    (passes : ∀ r, result = .error r → other = .error r) : FailsAt path other := by
  obtain ⟨r, failed, same⟩ := h
  exact ⟨r, passes r failed, same⟩

theorem FailsAt.map (f : α → β) (h : FailsAt path (reader.run s)) : FailsAt path ((reader.map f).run s) :=
  h.passed fun r failed => by simp only [Reader.map, failed]

theorem FailsAt.inside (step : Step) (h : FailsAt path (reader.run s)) :
    FailsAt (step :: path) ((inside step reader).run s) := by
  obtain ⟨r, failed, rfl⟩ := h
  refine ⟨r.within step, ?_, rfl⟩
  simp only [Config.inside, failed]
  rfl

end

section

variable {α σ : Type} {Item : List Char → α → List Char → Prop} {path : List Step} {fault : Fault → Rejection}
  {first : Bool} {state : σ} {s place : List Char}

/-- **Members are read up to the first that is rejected.** `Ahead` says of a state that it can take these pairs, one after
the other. -/
theorem failsAt_readMembers {member : σ → Reader Rejection σ} {key : String} {pairs : List (String × α)}
    (Ahead : σ → List (String × α) → Prop)
    (taken : ∀ {state name a pairs t u w x}, Ahead state ((name, a) :: pairs) → readText [] t = .ok (name, u) →
      Next ':' u w → Item w a x → ∃ next, (member state).run ('"' :: t) = .ok (next, x) ∧ Ahead next pairs)
    (refused : ∀ {state t u}, Ahead state [] → readText [] t = .ok (key, u) → Next ':' u place →
      FailsAt path ((member state).run ('"' :: t)))
    (h : MemberAt Item key place first s pairs) (start : Ahead state pairs) :
    FailsAt path (readMembers fault member first state s) := by
  induction h generalizing state with
  | @here first s t u before name colon =>
    have next := nextMember_eq_some_iff.2 ⟨before, t, rfl⟩
    refine (refused start name colon).passed fun r failed => ?_
    rw [readMembers]
    grind
  | @later first s t u w x other a pairs before name colon passed _ ih =>
    have next := nextMember_eq_some_iff.2 ⟨before, t, rfl⟩
    obtain ⟨state', read, ahead⟩ := taken start name colon passed
    refine (ih ahead).passed fun r failed => ?_
    rw [readMembers]
    grind

/-- **Items are read up to the first that is rejected.** -/
theorem failsAt_readItems {item : σ → Reader Rejection σ} {items : List α} (Ahead : σ → List α → Prop)
    (opens : ∀ {s a rest}, Item s a rest → Opens s)
    (taken : ∀ {state a items t u}, Ahead state (a :: items) → Item t a u →
      ∃ next, (item state).run t = .ok (next, u) ∧ Ahead next items)
    (refused : ∀ {state}, Ahead state [] → FailsAt path ((item state).run place))
    (h : ItemAt Item place first s items) (there : Opens place) (start : Ahead state items) :
    FailsAt path (readItems fault item first state s) := by
  induction h generalizing state with
  | @here first s before =>
    have next := nextItem_eq_some_iff.2 ⟨before, there⟩
    refine (refused start).passed fun r failed => ?_
    rw [readItems]
    grind
  | @later first s t u a items before passed _ ih =>
    have next := nextItem_eq_some_iff.2 ⟨before, opens passed⟩
    obtain ⟨state', read, ahead⟩ := taken start passed
    refine (ih ahead).passed fun r failed => ?_
    rw [readItems]
    grind

end

/-! ## Wrong values -/

/-- The values that are wrong for a field: no text where a text belongs, and a text that names no variant where a
variant belongs. -/
def Key.Misfits : Key → Value → Prop
  | .numberPolicy, value => ∃ name, value = .string name ∧ numberPolicies.lookup name = none
  | .temporalPolicy, value => ∃ name, value = .string name ∧ temporalPolicies.lookup name = none
  | _, value => value.kind ≠ .string

/-- A text goes on with a string that names none of the variants. -/
def NamesNone {α : Type} (variants : List (String × α)) (s : List Char) : Prop :=
  ∃ t name rest, Next '"' s t ∧ readText [] t = .ok (name, rest) ∧ variants.lookup name = none

/-- A text goes on with what is wrong for a field. Whether a value ends there is left open, unless it is a string. -/
def Key.MisfitsAt (s : List Char) : Key → Prop
  | .numberPolicy => NamesNone numberPolicies s
  | .temporalPolicy => NamesNone temporalPolicies s
  | _ => ∃ c t, Next c s t ∧ c ≠ '"'

variable {depth : Nat} {s rest : List Char} {value : Value}

theorem misfitsAt_of_writes {key : Key} (h : Writes depth s value rest) (wrong : key.Misfits value) :
    key.MisfitsAt s := by
  have text (other : value.kind ≠ .string) : ∃ c t, Next c s t ∧ c ≠ '"' := by
    obtain ⟨c, t, start, opener⟩ := h.opener
    refine ⟨c, t, start, fun quote => ?_⟩
    obtain ⟨name, rfl⟩ := opener.string.1 quote
    exact other rfl
  have policy {α : Type} {variants : List (String × α)}
      (unknown : ∃ name, value = .string name ∧ variants.lookup name = none) : NamesNone variants s := by
    obtain ⟨name, rfl, unknown⟩ := unknown
    obtain ⟨t, quote, read⟩ := h.string_inv
    exact ⟨t, name, rest, quote, read, unknown⟩
  cases key with
  | numberPolicy => exact policy wrong
  | temporalPolicy => exact policy wrong
  | _ => exact text wrong

theorem path_misfit (expected : String) (s : List Char) : (misfit expected s).path = [] := by
  unfold misfit
  dsimp only
  repeat' split
  all_goals rfl

theorem failsAt_runText {expected : String} {c : Char} {t : List Char} (start : Next c s t) (notQuote : c ≠ '"') :
    FailsAt [] (runText expected s) := by
  refine ⟨misfit expected (c :: t), ?_, path_misfit _ _⟩
  rw [Next] at start
  simp only [runText, start, if_neg notQuote]

theorem failsAt_runPolicy {α : Type} {variants : List (String × α)} (h : NamesNone variants s) :
    FailsAt [] (runPolicy variants s) := by
  obtain ⟨t, name, rest, quote, read, unknown⟩ := h
  have named := runText_of_quote (s := '"' :: t) "variant identifier" rfl read
  rw [Next] at quote
  refine ⟨⟨[], .unknownVariant name (variants.map Prod.fst), byteCount rest⟩, ?_, rfl⟩
  simp only [runPolicy, quote, if_true, runVariant, named, unknown]
  rfl

/-- What is wrong for a field is rejected as a whole. -/
theorem failsAt_runKey {key : Key} (config : Config) (wrong : key.MisfitsAt s) :
    FailsAt [] ((key.reader config).run s) := by
  have text (store : String → Config) (other : ∃ c t, Next c s t ∧ c ≠ '"') :
      FailsAt [] ((textReader.map store).run s) := by
    obtain ⟨c, t, start, notQuote⟩ := other
    exact FailsAt.map store (failsAt_runText start notQuote)
  have policy {α : Type} (variants : List (String × α)) (store : α → Config) (unknown : NamesNone variants s) :
      FailsAt [] (((policyReader variants).map store).run s) :=
    FailsAt.map store (failsAt_runPolicy unknown)
  cases key with
  | numberPolicy => exact policy _ _ wrong
  | temporalPolicy => exact policy _ _ wrong
  | _ => exact text _ wrong

/-! ## Configurations -/

/-- The values that are configurations: objects of acceptable members, and arrays of acceptable values for the first
fields. -/
def IsConfig : Value → Prop
  | .object pairs => Accepted pairs
  | .array values => values.length ≤ 10 ∧ ∀ field ∈ Key.all.zip values, (field.1.read? field.2).isSome
  | _ => False

theorem isConfig_iff : IsConfig value ↔ ∃ config, ofValue? value = some config := by
  cases value with
  | object pairs =>
    rw [IsConfig, accepted_iff, ofValue?]
    constructor
    · rintro ⟨done, taken⟩
      exact ⟨done.config, by rw [taken]; rfl⟩
    · rintro ⟨config, meant⟩
      obtain ⟨done, taken, -⟩ := Option.map_eq_some_iff.1 meant
      exact ⟨done, taken⟩
  | array values => exact (@exists_fill?_iff Key.all values {}).symm
  | _ => simp [IsConfig, ofValue?]

theorem run_of_isConfig (h : Writes depth s value rest) (acceptable : IsConfig value) :
    ∃ config, reader.run s = .ok (config, rest) := by
  obtain ⟨config, meant⟩ := isConfig_iff.1 acceptable
  have read := toOption_runConfig h
  rw [meant] at read
  exact ⟨config, toOption_eq_some_iff.1 read⟩

section

variable {t place : List Char} {path : List Step}

theorem failsAt_runMember {progress : Progress} {key : Key} {u : List Char} (new : key ∉ progress.seen)
    (name : readText [] t = .ok (key.name, u)) (colon : Next ':' u place)
    (refused : FailsAt path ((key.reader progress.config).run place)) :
    FailsAt (.key key.name :: path) ((memberReader progress).run ('"' :: t)) := by
  simp only [memberReader, readMember, readKey, List.tail_cons, name, chooseField, Key.ofName?_eq_some_iff.2 rfl,
    if_neg new, readColon_eq_ok_iff.2 colon]
  exact FailsAt.map _ (FailsAt.inside _ refused)

/-- An object fails at its first member that has a wrong value. -/
theorem failsAt_runConfig {before : List (String × Value)} {key : Key} (brace : Next '\x7b' s t)
    (member : MemberAt (Writes depth) key.name place true t before) (accepted : Accepted before)
    (further : key.name ∉ before.map Prod.fst) (wrong : key.MisfitsAt place) :
    FailsAt [.key key.name] (runConfig s) := by
  -- The members ahead can be taken, and the field is not among those that were taken or are ahead.
  let Ahead (progress : Progress) (pairs : List (String × Value)) : Prop :=
    key ∉ progress.seen ∧ key.name ∉ pairs.map Prod.fst ∧ ∃ done, progress.takeAll? pairs = some done
  have failed : FailsAt [.key key.name] (readMembers (.ofFault [.unclear]) memberReader true {} t) := by
    refine failsAt_readMembers Ahead ?_ ?_ member ⟨List.not_mem_nil, further, accepted_iff.1 accepted⟩
    · rintro progress name v pairs t u w x ⟨new, apart, done, taken⟩ read colon passed
      obtain ⟨next, first, others⟩ := Progress.takeAll?_cons_eq_some_iff.1 taken
      obtain ⟨own, setting, named, -, -, rfl⟩ := Progress.take?_eq_some_iff.1 first
      have ran := toOption_runMember progress read colon passed
      rw [first] at ran
      rw [List.map_cons, List.mem_cons, not_or] at apart
      refine ⟨_, toOption_eq_some_iff.1 ran, ?_, apart.2, done, others⟩
      rw [List.mem_cons, not_or]
      exact ⟨fun same => apart.1 (same ▸ named), new⟩
    · rintro progress t u ⟨new, -, -⟩ name colon
      exact failsAt_runMember new name colon (failsAt_runKey progress.config wrong)
  rw [Next] at brace
  refine failed.passed fun r failed => ?_
  simp only [runConfig, brace]
  rw [if_neg (by decide), if_true, runMapping, failed]

/-- A list fails at its first item that is rejected. -/
theorem failsAt_runList {configs : List Value} (bracket : Next '[' s t)
    (item : ItemAt (Writes depth) place true t configs) (there : Opens place)
    (acceptable : ∀ config ∈ configs, IsConfig config) (refused : FailsAt path (runConfig place)) :
    FailsAt (.index configs.length :: path) (runList s) := by
  -- The items taken and those ahead are as many as come before the rejected one.
  let Ahead (read : List Config) (ahead : List Value) : Prop :=
    read.length + ahead.length = configs.length ∧ ∀ config ∈ ahead, IsConfig config
  have failed : FailsAt (.index configs.length :: path) (readItems (.ofFault [])
      (fun read => (inside (.index read.length) reader).map (· :: read)) true [] t) := by
    refine failsAt_readItems Ahead Writes.opens ?_ ?_ item there ⟨Nat.zero_add _, acceptable⟩
    · rintro read v ahead t u ⟨count, acceptable⟩ passed
      obtain ⟨own, others⟩ := List.forall_mem_cons.1 acceptable
      obtain ⟨config, ran⟩ := run_of_isConfig passed own
      refine ⟨config :: read, ?_, ?_, others⟩
      · simp only [Reader.map, inside, ran]
        rfl
      · rw [← count, List.length_cons, List.length_cons]
        omega
    · rintro read ⟨count, -⟩
      have last : read.length = configs.length := count
      rw [last]
      exact FailsAt.map _ (FailsAt.inside _ refused)
  rw [Next] at bracket
  refine failed.passed fun r failed => ?_
  simp only [runList, bracket, if_true]
  rw [failed]
  rfl

/-- A map fails at its first value that is rejected. -/
theorem failsAt_runMap {members : List (String × Value)} {name : String} (brace : Next '\x7b' s t)
    (member : MemberAt (Writes depth) name place true t members)
    (acceptable : ∀ member ∈ members, IsConfig member.2) (refused : FailsAt path (runConfig place)) :
    FailsAt (.key name :: path) (runMap s) := by
  let Ahead (_ : List (String × Config)) (ahead : List (String × Value)) : Prop := ∀ member ∈ ahead, IsConfig member.2
  have failed : FailsAt (.key name :: path) (readMembers (.ofFault [.unclear]) (fun read =>
      readMember (.ofFault [.unclear]) (.ofFault []) fun name _ =>
        .ok ((inside (.key name) reader).map fun config => Members.put name config read)) true [] t) := by
    refine failsAt_readMembers Ahead ?_ ?_ member acceptable
    · rintro read other v ahead t u w x acceptable key colon passed
      obtain ⟨own, others⟩ := List.forall_mem_cons.1 acceptable
      obtain ⟨config, ran⟩ := run_of_isConfig passed own
      refine ⟨Members.put other config read, ?_, others⟩
      simp only [readMember, readKey, List.tail_cons, key, readColon_eq_ok_iff.2 colon, Reader.map, inside, ran]
      rfl
    · rintro read t u - key colon
      simp only [readMember, readKey, List.tail_cons, key, readColon_eq_ok_iff.2 colon]
      exact FailsAt.map _ (FailsAt.inside _ refused)
  rw [Next] at brace
  refine failed.passed fun r failed => ?_
  simp only [runMap, brace, if_true]
  rw [failed]
  rfl

end

/-! ## Documents -/

/-- At the front of the text is an object whose first wrong value is that of the field `key`. What follows is left
open. -/
inductive ObjectMisfit (key : Key) (s : List Char) : Prop
  | intro {depth : Nat} {t place : List Char} {before : List (String × Value)} (brace : Next '\x7b' s t)
      (member : MemberAt (Writes depth) key.name place true t before) (accepted : Accepted before)
      (further : key.name ∉ before.map Prod.fst) (wrong : key.MisfitsAt place)

/-- At the front of the text is an array of configurations in which the item at `index` is such an object. -/
inductive ListMisfit (key : Key) (index : Nat) (s : List Char) : Prop
  | intro {depth : Nat} {t place : List Char} {configs : List Value} (bracket : Next '[' s t)
      (item : ItemAt (Writes depth) place true t configs) (acceptable : ∀ config ∈ configs, IsConfig config)
      (count : configs.length = index) (misfit : ObjectMisfit key place)

/-- At the front of the text is an object of configurations in which the value of `name` is such an object. -/
inductive MapMisfit (key : Key) (name : String) (s : List Char) : Prop
  | intro {depth : Nat} {t place : List Char} {members : List (String × Value)} (brace : Next '\x7b' s t)
      (member : MemberAt (Writes depth) name place true t members)
      (acceptable : ∀ member ∈ members, IsConfig member.2) (misfit : ObjectMisfit key place)

section

variable {key : Key} {before after : List (String × Value)}

theorem objectMisfit_of_writes (accepted : Accepted before) (further : key.name ∉ before.map Prod.fst)
    (wrong : key.Misfits value) (h : Writes depth s (.object (before ++ (key.name, value) :: after)) rest) :
    ObjectMisfit key s := by
  obtain ⟨below, t, brace, pairs⟩ := h.object_inv
  obtain ⟨place, x, member, here⟩ := pairs.memberAt
  exact ⟨brace, member, accepted, further, misfitsAt_of_writes here wrong⟩

theorem listMisfit_of_writes {configs later : List Value} {misfit : Value}
    (acceptable : ∀ config ∈ configs, IsConfig config)
    (object : ∀ {depth place x}, Writes depth place misfit x → ObjectMisfit key place)
    (h : Writes depth s (.array (configs ++ misfit :: later)) rest) : ListMisfit key configs.length s := by
  obtain ⟨below, t, bracket, items⟩ := h.array_inv
  obtain ⟨place, x, item, here⟩ := items.itemAt
  exact ⟨bracket, item, acceptable, rfl, object here⟩

theorem mapMisfit_of_writes {members later : List (String × Value)} {name : String} {misfit : Value}
    (acceptable : ∀ member ∈ members, IsConfig member.2)
    (object : ∀ {depth place x}, Writes depth place misfit x → ObjectMisfit key place)
    (h : Writes depth s (.object (members ++ (name, misfit) :: later)) rest) : MapMisfit key name s := by
  obtain ⟨below, t, brace, pairs⟩ := h.object_inv
  obtain ⟨place, x, member, here⟩ := pairs.memberAt
  exact ⟨brace, member, acceptable, object here⟩

/-- What goes on with another character than a closing bracket can be an item. -/
theorem opens_of_next {c : Char} (start : Next c s rest) (notClose : c ≠ ']') : Opens s := by
  cases s with
  | nil => cases start
  | cons d s =>
    refine ⟨d, s, rfl, ?_⟩
    rintro rfl
    have stays : skipBlanks (']' :: s) = ']' :: s := by simp [skipBlanks, isBlank]
    exact notClose (List.cons.inj (start.symm.trans stays)).1

theorem ObjectMisfit.opens (h : ObjectMisfit key s) : Opens s := by
  obtain ⟨brace, -, -, -, -⟩ := h
  exact opens_of_next brace (by decide)

theorem ObjectMisfit.failsAt (h : ObjectMisfit key s) : FailsAt [.key key.name] (runConfig s) := by
  obtain ⟨brace, member, accepted, further, wrong⟩ := h
  exact failsAt_runConfig brace member accepted further wrong

theorem ListMisfit.failsAt {index : Nat} (h : ListMisfit key index s) :
    FailsAt [.index index, .key key.name] (runList s) := by
  obtain ⟨bracket, item, acceptable, rfl, misfit⟩ := h
  exact failsAt_runList bracket item misfit.opens acceptable misfit.failsAt

theorem MapMisfit.failsAt {name : String} (h : MapMisfit key name s) :
    FailsAt [.key name, .key key.name] (runMap s) := by
  obtain ⟨brace, member, acceptable, misfit⟩ := h
  exact failsAt_runMap brace member acceptable misfit.failsAt

end

/-- The result is a rejection, and this is the text of its path. -/
def RejectedAt {α : Type} (path : String) (result : Except Rejection α) : Prop :=
  ∃ r, result = .error r ∧ pathText r.path = path

theorem FailsAt.rejectedAt {α : Type} {path : List Step} {result : Except Rejection α} (h : FailsAt path result) :
    RejectedAt (pathText path) result := by
  obtain ⟨r, failed, rfl⟩ := h
  exact ⟨r, failed, rfl⟩

theorem FailsAt.parse {path : List Step} {text : String} (h : FailsAt path (runConfig text.toList)) :
    FailsAt path (parse text) :=
  h.passed fun _ failed => congrArg (Except.map Prod.fst) failed

/-- **The first wrong value is the one that is named.** The path is the field in a configuration, its index and the
field in a list of them, and its name and the field in a map, whatever follows the wrong value. Documents in which a
field has a wrong value after acceptable members, and after acceptable configurations, are of this form. -/
theorem parse_misfit (key : Key) :
    (∀ text : String, ObjectMisfit key text.toList → RejectedAt key.name (parse text)) ∧
    (∀ (text : String) index, ListMisfit key index text.toList →
      RejectedAt ("[" ++ toString index ++ "]." ++ key.name) (parseList text)) ∧
    (∀ (text : String) name, MapMisfit key name text.toList →
      RejectedAt (name ++ "." ++ key.name) (parseMap text)) ∧
    ∀ before value after, Accepted before → key.name ∉ before.map Prod.fst → key.Misfits value →
      let misfit : Value := .object (before ++ (key.name, value) :: after)
      (∀ depth s rest, Writes depth s misfit rest → ObjectMisfit key s) ∧
      (∀ depth s rest configs later, (∀ config ∈ configs, IsConfig config) →
        Writes depth s (.array (configs ++ misfit :: later)) rest → ListMisfit key configs.length s) ∧
      ∀ depth s rest members name later, (∀ member ∈ members, IsConfig member.2) →
        Writes depth s (.object (members ++ (name, misfit) :: later)) rest → MapMisfit key name s := by
  refine ⟨fun text h => ?_, fun text index h => ?_, fun text name h => ?_, ?_⟩
  · have place : pathText [.key key.name] = key.name := by simp [pathText, stepsText]
    exact place ▸ h.failsAt.parse.rejectedAt
  · have place : pathText [.index index, .key key.name] = "[" ++ toString index ++ "]." ++ key.name := by
      have point : "]." ++ key.name = "]" ++ ("." ++ key.name) := by rw [← String.append_assoc]; rfl
      simp [pathText, stepsText, String.append_assoc, point]
    exact place ▸ h.failsAt.rejectedAt
  · have place : pathText [.key name, .key key.name] = name ++ "." ++ key.name := by
      simp [pathText, stepsText, String.append_assoc]
    exact place ▸ h.failsAt.rejectedAt
  · intro before value after accepted further wrong misfit
    have object {depth : Nat} {place x : List Char} : Writes depth place misfit x → ObjectMisfit key place :=
      objectMisfit_of_writes accepted further wrong
    exact ⟨fun _ _ _ => object, fun _ _ _ _ _ acceptable => listMisfit_of_writes acceptable object,
      fun _ _ _ _ _ _ acceptable => mapMisfit_of_writes acceptable object⟩

/-- The second of two configurations has no modifier. -/
theorem parse_misfit_null :
    RejectedAt "[1].modifier" (parseList "[\x7b\x7d,\x7b\"accessor\":\"\",\"modifier\":null\x7d]") := by
  have accepted : Accepted [("accessor", .string "")] :=
    ⟨List.nodup_singleton _, List.forall_mem_singleton.2 ⟨.accessor, rfl, rfl⟩⟩
  have acceptable : ∀ config ∈ [Value.object []], IsConfig config :=
    List.forall_mem_singleton.2 ⟨List.nodup_nil, fun _ none => absurd none List.not_mem_nil⟩
  have accessor (t : List Char) : readText [] ('a' :: 'c' :: 'c' :: 'e' :: 's' :: 's' :: 'o' :: 'r' :: '"' :: t) =
      .ok ("accessor", t) := by
    simp [readText]
  have empty (t : List Char) : readText [] ('"' :: t) = .ok ("", t) := by simp [readText]
  have modifier (t : List Char) : readText [] ('m' :: 'o' :: 'd' :: 'i' :: 'f' :: 'i' :: 'e' :: 'r' :: '"' :: t) =
      .ok ("modifier", t) := by
    simp [readText]
  have chars : "[\x7b\x7d,\x7b\"accessor\":\"\",\"modifier\":null\x7d]".toList =
      ['[', '\x7b', '\x7d', ',', '\x7b', '"', 'a', 'c', 'c', 'e', 's', 's', 'o', 'r', '"', ':', '"', '"', ',', '"',
      'm', 'o', 'd', 'i', 'f', 'i', 'e', 'r', '"', ':', 'n', 'u', 'l', 'l', '\x7d', ']'] := by decide
  have written : Writes 3 "[\x7b\x7d,\x7b\"accessor\":\"\",\"modifier\":null\x7d]".toList (.array ([.object []] ++
      .object ([("accessor", .string "")] ++ ("modifier", .null) :: []) :: [])) [] := by
    rw [chars]
    refine .array rfl (.item (.first rfl) (.object rfl (.close rfl))
      (.item (u := [']']) (.comma rfl rfl) ?_ (.close rfl)))
    exact .object rfl (.pair (.first rfl) (accessor _) rfl (.plain (.string rfl (empty _)))
      (.pair (.comma rfl rfl) (modifier _) rfl (.plain (.null rfl)) (.close rfl)))
  have wrong : Key.modifier.Misfits .null := by
    intro string
    cases string
  obtain ⟨-, lists, -, documents⟩ := parse_misfit .modifier
  obtain ⟨-, list, -⟩ := documents [("accessor", .string "")] .null [] accepted (by decide) wrong
  exact lists _ 1 (list 3 _ [] [.object []] [] acceptable written)

end TypeSketch.Config
