import Mathlib.Data.List.Nodup
import TypeSketch.Config.Reader

/-!
# Fields of a configuration

* `Key.Setting`, `Config.get`, `Config.set` : the value of a field, and the configuration with another one;
* `Key.read?` : what a JSON value means for a field, if it is acceptable there;
* `Accepted`, `Describes` : the members that make a configuration, and the configuration they make;
* `Progress.takeAll?`, `exists_takeAll?_iff`, `get_takeAll?`, `takeAll?_perm` : members taken one after the
  other;
* `fill?`, `exists_fill?_iff`, `fill?_eq_takeAll?` : values for the first fields, and the members that they
  stand for;
* `ofValue?` : the configuration that a value stands for.
-/

namespace TypeSketch.Config

open Json

/-! ## Settings -/

/-- What a field can be set to. -/
@[reducible]
def Key.Setting : Key → Type
  | .numberPolicy => NumberPolicy
  | .temporalPolicy => TemporalPolicy
  | _ => String

/-- The value of a field. -/
def get (config : Config) : (key : Key) → key.Setting
  | .modifier => config.modifier
  | .accessor => config.accessor
  | .className => config.className
  | .interfaceName => config.interfaceName
  | .classIndent => config.classIndent
  | .interfaceIndent => config.interfaceIndent
  | .integerType => config.integerType
  | .floatType => config.floatType
  | .numberPolicy => config.numberPolicy
  | .temporalPolicy => config.temporalPolicy

/-- The configuration with another value of a field. -/
def set (config : Config) : (key : Key) → key.Setting → Config
  | .modifier, modifier => { config with modifier }
  | .accessor, accessor => { config with accessor }
  | .className, className => { config with className }
  | .interfaceName, interfaceName => { config with interfaceName }
  | .classIndent, classIndent => { config with classIndent }
  | .interfaceIndent, interfaceIndent => { config with interfaceIndent }
  | .integerType, integerType => { config with integerType }
  | .floatType, floatType => { config with floatType }
  | .numberPolicy, numberPolicy => { config with numberPolicy }
  | .temporalPolicy, temporalPolicy => { config with temporalPolicy }

@[simp]
theorem get_set (config : Config) (key : Key) (setting : key.Setting) :
    (config.set key setting).get key = setting := by
  cases key <;> rfl

theorem get_set_of_ne {key other : Key} (h : other ≠ key) (config : Config) (setting : key.Setting) :
    (config.set key setting).get other = config.get other := by
  cases key <;> cases other <;> first | rfl | exact absurd rfl h

/-- The fields are all there is to a configuration. -/
theorem ext_get {config other : Config} (h : ∀ key, config.get key = other.get key) : config = other := by
  cases config
  cases other
  rw [mk.injEq]
  exact ⟨h .modifier, h .accessor, h .className, h .interfaceName, h .classIndent, h .interfaceIndent,
    h .integerType, h .floatType, h .numberPolicy, h .temporalPolicy⟩

/-! ## Names -/

namespace Key

theorem mem_all (key : Key) : key ∈ all := by
  cases key <;> decide

theorem nodup_all : all.Nodup := by decide

theorem name_injective {key other : Key} (h : key.name = other.name) : key = other :=
  List.inj_on_of_nodup_map (by decide : (all.map name).Nodup) key.mem_all other.mem_all h

theorem ofName?_eq_some_iff {name : String} {key : Key} : ofName? name = some key ↔ key.name = name := by
  unfold ofName?
  constructor
  · intro h
    simpa using List.find?_some h
  · rintro rfl
    cases h : all.find? fun other => other.name = key.name with
    | none =>
      have apart := List.find?_eq_none.1 h key key.mem_all
      simp at apart
    | some other =>
      have same : other.name = key.name := by simpa using List.find?_some h
      rw [name_injective same]

end Key

/-! ## Acceptable values -/

/-- The text that a value is. -/
def text? : Value → Option String
  | .string text => some text
  | _ => none

/-- The variant that a value names: as a text, or as the only key of an object, with null. -/
def variant? {α : Type} (variants : List (String × α)) : Value → Option α
  | .string name => variants.lookup name
  | .object [(name, .null)] => variants.lookup name
  | _ => none

/-- What a value means for a field, if it is acceptable there. -/
def Key.read? : (key : Key) → Value → Option key.Setting
  | .modifier, value => text? value
  | .accessor, value => text? value
  | .className, value => text? value
  | .interfaceName, value => text? value
  | .classIndent, value => text? value
  | .interfaceIndent, value => text? value
  | .integerType, value => text? value
  | .floatType, value => text? value
  | .numberPolicy, value => variant? numberPolicies value
  | .temporalPolicy, value => variant? temporalPolicies value

example : Key.read? .temporalPolicy (.object [("strict", .null)]) = some .strict := rfl

example : Key.read? .temporalPolicy (.object [("strict", .null), ("strict", .null)]) = none := rfl

/-- The members make a configuration: no key is there twice, each is the name of a field, and the value is
acceptable for that field. -/
structure Accepted (pairs : List (String × Value)) : Prop where
  distinct : (pairs.map Prod.fst).Nodup
  fields : ∀ pair ∈ pairs, ∃ key : Key, key.name = pair.1 ∧ (key.read? pair.2).isSome

/-- The configuration has the value of each field that is among the members, and the default of every
other one. -/
def Describes (pairs : List (String × Value)) (config : Config) : Prop :=
  ∀ key : Key, some (config.get key) =
    match pairs.lookup key.name with
    | some value => key.read? value
    | none => some (Config.get {} key)

theorem Describes.unique {pairs : List (String × Value)} {config other : Config} (h : Describes pairs config)
    (h' : Describes pairs other) : config = other :=
  ext_get fun key => Option.some.inj ((h key).trans (h' key).symm)

/-! ## Members one after the other -/

namespace Progress

/-- The progress after one more member. -/
def take? (progress : Progress) (pair : String × Value) : Option Progress :=
  match Key.ofName? pair.1 with
  | none => none
  | some key =>
    if key ∈ progress.seen then none
    else (key.read? pair.2).map fun setting => ⟨key :: progress.seen, progress.config.set key setting⟩

/-- The progress after more members. -/
def takeAll? (progress : Progress) : List (String × Value) → Option Progress
  | [] => some progress
  | pair :: pairs => (progress.take? pair).bind fun next => next.takeAll? pairs

variable {progress next done : Progress} {pairs : List (String × Value)}

theorem take?_eq_some_iff {pair : String × Value} :
    progress.take? pair = some next ↔ ∃ (key : Key) (setting : key.Setting), key.name = pair.1 ∧
      key ∉ progress.seen ∧ key.read? pair.2 = some setting ∧
        next = ⟨key :: progress.seen, progress.config.set key setting⟩ := by
  unfold take?
  constructor
  · intro h
    split at h
    · cases h
    · next key named =>
      split at h
      · cases h
      · next new =>
        obtain ⟨setting, read, rfl⟩ := Option.map_eq_some_iff.1 h
        exact ⟨key, setting, Key.ofName?_eq_some_iff.1 named, new, read, rfl⟩
  · rintro ⟨key, setting, named, new, read, rfl⟩
    rw [Key.ofName?_eq_some_iff.2 named]
    simp only [if_neg new, read, Option.map_some]

theorem takeAll?_cons_eq_some_iff {pair : String × Value} :
    progress.takeAll? (pair :: pairs) = some done ↔
      ∃ next, progress.take? pair = some next ∧ next.takeAll? pairs = some done :=
  Option.bind_eq_some_iff

/-- **Members can be taken** if their keys are apart, from each other and from those taken before, and
their values are acceptable. -/
theorem exists_takeAll?_iff : (∃ done, progress.takeAll? pairs = some done) ↔
    (pairs.map Prod.fst).Nodup ∧
      ∀ pair ∈ pairs, ∃ key : Key, key.name = pair.1 ∧ key ∉ progress.seen ∧ (key.read? pair.2).isSome := by
  induction pairs generalizing progress with
  | nil => exact ⟨fun _ => ⟨List.nodup_nil, fun _ none => absurd none List.not_mem_nil⟩, fun _ => ⟨progress, rfl⟩⟩
  | cons pair pairs ih =>
    rw [List.map_cons, List.nodup_cons, List.forall_mem_cons]
    constructor
    · rintro ⟨done, h⟩
      obtain ⟨next, first, h⟩ := takeAll?_cons_eq_some_iff.1 h
      obtain ⟨key, setting, named, new, read, rfl⟩ := take?_eq_some_iff.1 first
      obtain ⟨distinct, fields⟩ := ih.1 ⟨done, h⟩
      refine ⟨⟨fun again => ?_, distinct⟩, ⟨key, named, new, by rw [read]; rfl⟩, fun later mem => ?_⟩
      · obtain ⟨later, mem, same⟩ := List.mem_map.1 again
        obtain ⟨other, otherNamed, apart, -⟩ := fields later mem
        exact apart (List.mem_cons.2 (.inl (Key.name_injective ((otherNamed.trans same).trans named.symm))))
      · obtain ⟨other, otherNamed, apart, read⟩ := fields later mem
        exact ⟨other, otherNamed, fun seen => apart (List.mem_cons_of_mem _ seen), read⟩
    · rintro ⟨⟨once, distinct⟩, ⟨key, named, new, read⟩, fields⟩
      obtain ⟨setting, read⟩ := Option.isSome_iff_exists.1 read
      have first := take?_eq_some_iff.2 ⟨key, setting, named, new, read, rfl⟩
      have others : ∀ later ∈ pairs, ∃ other : Key, other.name = later.1 ∧ other ∉ key :: progress.seen ∧
          (other.read? later.2).isSome := by
        intro later mem
        obtain ⟨other, otherNamed, apart, read⟩ := fields later mem
        refine ⟨other, otherNamed, fun seen => ?_, read⟩
        rcases List.mem_cons.1 seen with rfl | seen
        · exact once (List.mem_map.2 ⟨later, mem, otherNamed.symm.trans named⟩)
        · exact apart seen
      obtain ⟨done, h⟩ := (@ih ⟨key :: progress.seen, progress.config.set key setting⟩).2 ⟨distinct, others⟩
      exact ⟨done, takeAll?_cons_eq_some_iff.2 ⟨_, first, h⟩⟩

/-- A field has the value of the member with its name, and stays as it was if there is none. -/
theorem get_takeAll? (h : progress.takeAll? pairs = some done) (key : Key) :
    some (done.config.get key) =
      match pairs.lookup key.name with
      | some value => key.read? value
      | none => some (progress.config.get key) := by
  induction pairs generalizing progress with
  | nil =>
    obtain rfl := Option.some.inj h
    rfl
  | cons pair pairs ih =>
    obtain ⟨next, first, h⟩ := takeAll?_cons_eq_some_iff.1 h
    obtain ⟨own, setting, named, new, read, rfl⟩ := take?_eq_some_iff.1 first
    have later := ih h
    rw [List.lookup_cons]
    by_cases same : key = own
    · subst same
      -- The name does not come again, so that the field keeps what it has now.
      have gone : pairs.lookup key.name = none := by
        refine List.lookup_eq_none_iff.2 fun pair mem => bne_iff_ne.2 fun again => ?_
        obtain ⟨other, otherNamed, apart, -⟩ := (exists_takeAll?_iff.1 ⟨done, h⟩).2 pair mem
        exact apart (List.mem_cons.2 (.inl (Key.name_injective (otherNamed.trans again.symm))))
      rw [gone, get_set] at later
      rw [named, beq_self_eq_true]
      exact later.trans read.symm
    · have apart : (key.name == pair.1) = false :=
        beq_false_of_ne fun e => same (Key.name_injective (e.trans named.symm))
      rw [apart]
      rw [get_set_of_ne same] at later
      exact later

end Progress

variable {pairs : List (String × Value)} {done : Progress} {config : Config}

theorem accepted_iff : Accepted pairs ↔ ∃ done, Progress.takeAll? {} pairs = some done := by
  rw [Progress.exists_takeAll?_iff]
  constructor
  · rintro ⟨distinct, fields⟩
    refine ⟨distinct, fun pair mem => ?_⟩
    obtain ⟨key, named, read⟩ := fields pair mem
    exact ⟨key, named, List.not_mem_nil, read⟩
  · rintro ⟨distinct, fields⟩
    refine ⟨distinct, fun pair mem => ?_⟩
    obtain ⟨key, named, -, read⟩ := fields pair mem
    exact ⟨key, named, read⟩

theorem describes_takeAll? (h : Progress.takeAll? {} pairs = some done) : Describes pairs done.config :=
  Progress.get_takeAll? h

theorem lookup_perm {α : Type} {list other : List (String × α)} (perm : list.Perm other)
    (distinct : (list.map Prod.fst).Nodup) (name : String) : list.lookup name = other.lookup name := by
  induction perm with
  | nil => rfl
  | cons pair _ ih =>
    rw [List.map_cons, List.nodup_cons] at distinct
    rw [List.lookup_cons, List.lookup_cons, ih distinct.2]
  | swap first second rest =>
    obtain ⟨key, a⟩ := first
    obtain ⟨key', a'⟩ := second
    have apart : key' ≠ key := by
      rw [List.map_cons, List.map_cons, List.nodup_cons, List.mem_cons, not_or] at distinct
      exact distinct.1.1
    simp only [List.lookup_cons]
    by_cases same : name = key
    · rw [same, beq_self_eq_true, beq_false_of_ne apart.symm]
    · rw [beq_false_of_ne same]
  | trans perm _ ih ih' => exact (ih distinct).trans (ih' ((perm.map Prod.fst).nodup_iff.1 distinct))

theorem Accepted.perm {others : List (String × Value)} (h : Accepted pairs) (perm : pairs.Perm others) :
    Accepted others where
  distinct := (perm.map Prod.fst).nodup_iff.1 h.distinct
  fields pair mem := h.fields pair (perm.mem_iff.2 mem)

/-- The order of the members does not matter. -/
theorem takeAll?_perm {others : List (String × Value)} (perm : pairs.Perm others) :
    (Progress.takeAll? {} pairs).map Progress.config = (Progress.takeAll? {} others).map Progress.config := by
  by_cases accepted : Accepted pairs
  · obtain ⟨done, h⟩ := accepted_iff.1 accepted
    obtain ⟨done', h'⟩ := accepted_iff.1 (accepted.perm perm)
    have same : Describes pairs done'.config := fun key => by
      rw [lookup_perm perm accepted.distinct]
      exact describes_takeAll? h' key
    rw [h, h', Option.map_some, Option.map_some, (describes_takeAll? h).unique same]
  · have refused : Progress.takeAll? {} pairs = none :=
      Option.eq_none_iff_forall_ne_some.2 fun done h => accepted (accepted_iff.2 ⟨done, h⟩)
    have refused' : Progress.takeAll? {} others = none :=
      Option.eq_none_iff_forall_ne_some.2 fun done h => accepted ((accepted_iff.2 ⟨done, h⟩).perm perm.symm)
    rw [refused, refused']

/-! ## Values of the first fields -/

/-- The configuration with values for the first of some fields, if there are not too many of them. -/
def fill? : List Key → List Value → Config → Option Config
  | _, [], config => some config
  | [], _ :: _, _ => none
  | key :: keys, value :: values, config =>
    (key.read? value).bind fun setting => fill? keys values (config.set key setting)

/-- The members that some values for the first fields stand for. -/
def members (keys : List Key) (values : List Value) : List (String × Value) := (keys.map Key.name).zip values

/-- There can be values for the first fields if there are not more values than fields, and each is
acceptable for its field. -/
theorem exists_fill?_iff {keys : List Key} {values : List Value} {config : Config} :
    (∃ filled, fill? keys values config = some filled) ↔
      values.length ≤ keys.length ∧ ∀ field ∈ keys.zip values, (field.1.read? field.2).isSome := by
  induction values generalizing keys config with
  | nil => exact ⟨fun _ => ⟨Nat.zero_le _, by simp⟩, fun _ => ⟨config, by simp [fill?]⟩⟩
  | cons value values ih =>
    cases keys with
    | nil =>
      constructor
      · rintro ⟨filled, h⟩
        cases h
      · rintro ⟨short, -⟩
        cases short
    | cons key keys =>
      rw [List.zip_cons_cons, List.forall_mem_cons, List.length_cons, List.length_cons, Nat.succ_le_succ_iff]
      constructor
      · rintro ⟨filled, h⟩
        obtain ⟨setting, read, h⟩ := Option.bind_eq_some_iff.1 h
        obtain ⟨short, others⟩ := ih.1 ⟨filled, h⟩
        exact ⟨short, by rw [read]; rfl, others⟩
      · rintro ⟨short, read, others⟩
        obtain ⟨setting, read⟩ := Option.isSome_iff_exists.1 read
        obtain ⟨filled, h⟩ := (@ih keys (config.set key setting)).2 ⟨short, others⟩
        exact ⟨filled, Option.bind_eq_some_iff.2 ⟨setting, read, h⟩⟩

/-- **Values for the first fields** are taken as the members are that they stand for. -/
theorem fill?_eq_takeAll? {keys : List Key} {values : List Value} {progress : Progress}
    (short : values.length ≤ keys.length) (distinct : keys.Nodup) (new : ∀ key ∈ keys, key ∉ progress.seen) :
    fill? keys values progress.config = (progress.takeAll? (members keys values)).map Progress.config := by
  induction values generalizing keys progress with
  | nil => simp [fill?, members, Progress.takeAll?]
  | cons value values ih =>
    cases keys with
    | nil => cases short
    | cons key keys =>
      rw [List.nodup_cons] at distinct
      rw [List.forall_mem_cons] at new
      have first : progress.take? (key.name, value) = (key.read? value).map fun setting =>
          ⟨key :: progress.seen, progress.config.set key setting⟩ := by
        unfold Progress.take?
        rw [Key.ofName?_eq_some_iff.2 rfl]
        exact if_neg new.1
      rw [fill?, members, List.map_cons, List.zip_cons_cons, Progress.takeAll?, first]
      cases key.read? value with
      | none => rfl
      | some setting =>
        refine @ih keys ⟨key :: progress.seen, progress.config.set key setting⟩ (Nat.le_of_succ_le_succ short)
          distinct.2 fun other mem => ?_
        rw [List.mem_cons, not_or]
        exact ⟨fun same => distinct.1 (same ▸ mem), new.2 other mem⟩

/-! ## Configurations -/

/-- The configuration that a value stands for, if it stands for one. -/
def ofValue? : Value → Option Config
  | .object pairs => (Progress.takeAll? {} pairs).map Progress.config
  | .array values => fill? Key.all values {}
  | _ => none

end TypeSketch.Config
