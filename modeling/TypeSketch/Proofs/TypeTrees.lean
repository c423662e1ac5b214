import TypeSketch.Proofs.Influence

/-!
# Type trees

* `Ty.nested` : a type in lists, one in the other, and its two names;
* `Value.depth`, `Value.innermost` : the arrays on the way through first items, and what this way ends at;
* `Value.SameFirst` : values that differ off this way alone;
* `ofValue_nested` : the type of a value and its names, by what lies on this way;
* `Ty.IsInferred`, `Ty.anyZone` : the types that values have, and a type without the zones of its times;
* `inferred_types` : which types values have, and what the two names tell of them.
-/

namespace TypeSketch

open Json

/-! ## Nested lists -/

namespace Ty

/-- A type in lists, one in the other. -/
def nested : Nat → Ty → Ty
  | 0, ty => ty
  | depth + 1, ty => .list (nested depth ty)

theorem nested_list (depth : Nat) (ty : Ty) : nested depth (.list ty) = nested (depth + 1) ty := by
  induction depth with
  | zero => rfl
  | succ depth ih =>
    rw [nested, ih]
    rfl

/-- The lists around a type that is none itself can be told from it. -/
theorem nested_inj {depth depth' : Nat} {ty ty' : Ty} (single : ∀ item, ty ≠ .list item)
    (single' : ∀ item, ty' ≠ .list item) (same : nested depth ty = nested depth' ty') : depth = depth' ∧ ty = ty' := by
  induction depth generalizing depth' with
  | zero =>
    cases depth' with
    | zero => exact ⟨rfl, same⟩
    | succ depth' => exact absurd same (single _)
  | succ depth ih =>
    cases depth' with
    | zero => exact absurd same.symm (single' _)
    | succ depth' =>
      obtain ⟨rfl, rfl⟩ := ih (Ty.list.inj same)
      exact ⟨rfl, rfl⟩

theorem className_nested (config : Config) (depth : Nat) (ty : Ty) :
    (nested depth ty).className config =
      String.join (List.replicate depth "List<") ++ ty.className config ++ String.join (List.replicate depth ">") := by
  induction depth with
  | zero => simp [nested]
  | succ depth ih =>
    have opening : String.join (List.replicate (depth + 1) "List<") =
        "List<" ++ String.join (List.replicate depth "List<") := by
      rw [List.replicate_succ, String.join_cons]
    have closing : String.join (List.replicate (depth + 1) ">") = String.join (List.replicate depth ">") ++ ">" := by
      rw [List.replicate_succ', String.join_append]
      simp
    rw [nested, className, ih, opening, closing]
    simp only [String.append_assoc]

theorem structuralName_nested (depth : Nat) (ty : Ty) :
    (nested depth ty).structuralName = ty.structuralName ++ String.join (List.replicate depth "[]") := by
  induction depth with
  | zero => simp [nested]
  | succ depth ih =>
    rw [nested, structuralName, ih, List.replicate_succ', String.join_append, String.append_assoc]
    simp

end Ty

/-! ## First items -/

namespace Json.Value

/-- The number of arrays on the way through first items, with an empty one at its end. -/
def depth : Value → Nat
  | .array [] => 1
  | .array (first :: _) => depth first + 1
  | _ => 0

/-- What the way through first items ends at. An empty array has nothing in it. -/
def innermost : Value → Option Value
  | .array [] => none
  | .array (first :: _) => innermost first
  | value => some value

/-- The way through first items is the same in both values. All other items may differ, and so may what is in an
object. -/
inductive SameFirst : Value → Value → Prop
  | same (value : Value) : SameFirst value value
  | object (members members' : List (String × Value)) : SameFirst (.object members) (.object members')
  | array {first first' : Value} (h : SameFirst first first') (rest rest' : List Value) :
    SameFirst (.array (first :: rest)) (.array (first' :: rest'))

theorem kind_innermost {value base : Value} (h : value.innermost = some base) : base.kind ≠ .array := by
  induction value using Value.nested with
  | array items ih =>
    cases items with
    | nil => cases h
    | cons first rest => exact ih first List.mem_cons_self h
  | _ =>
    cases h
    simp [kind]

/-- A way that ends at nothing has an array at its end. -/
theorem depth_pos {value : Value} (h : value.innermost = none) : 1 ≤ value.depth := by
  cases value with
  | array items =>
    cases items with
    | nil => exact Nat.le_refl 1
    | cons first rest => exact Nat.le_add_left 1 _
  | _ => cases h

end Json.Value

/-- The type of what the way through first items ends at. -/
def Ty.ofInnermost (config : Config) : Option Value → Ty
  | some base => .ofValue config base
  | none => .unknown

theorem ofValue_eq_nested (config : Config) (value : Value) :
    Ty.ofValue config value = .nested value.depth (.ofInnermost config value.innermost) := by
  induction value using Value.nested with
  | array items ih =>
    cases items with
    | nil => rfl
    | cons first rest =>
      rw [Ty.ofValue, ih first List.mem_cons_self]
      rfl
  | _ => rfl

theorem Json.Value.SameFirst.depth_eq {value other : Value} (h : value.SameFirst other) : other.depth = value.depth := by
  induction h with
  | same value => rfl
  | object members members' => rfl
  | array h rest rest' ih => rw [Value.depth, Value.depth, ih]

theorem Json.Value.SameFirst.ofValue_eq (config : Config) {value other : Value} (h : value.SameFirst other) :
    Ty.ofValue config other = Ty.ofValue config value := by
  induction h with
  | same value => rfl
  | object members members' => rfl
  | array h rest rest' ih => rw [Ty.ofValue, Ty.ofValue, ih]

/-- **The type of a value** is that of what the way through first items ends at, in a list for every array on this way,
and so its names are. Items off the way change neither name. -/
theorem ofValue_nested (config : Config) (value : Value) :
    (∀ base, value.innermost = some base → base.kind ≠ .array) ∧
    Ty.ofValue config value = .nested value.depth (.ofInnermost config value.innermost) ∧
    (Ty.ofValue config value).className config =
      String.join (List.replicate value.depth "List<") ++ (Ty.ofInnermost config value.innermost).className config ++
        String.join (List.replicate value.depth ">") ∧
    (Ty.ofValue config value).structuralName =
      (Ty.ofInnermost config value.innermost).structuralName ++ String.join (List.replicate value.depth "[]") ∧
    ∀ other, value.SameFirst other →
      other.depth = value.depth ∧
      (Ty.ofValue config other).className config = (Ty.ofValue config value).className config ∧
      (Ty.ofValue config other).structuralName = (Ty.ofValue config value).structuralName := by
  have type := ofValue_eq_nested config value
  refine ⟨fun base h => Value.kind_innermost h, type, ?_, ?_, fun other h => ?_⟩
  · rw [type, Ty.className_nested]
  · rw [type, Ty.structuralName_nested]
  · rw [h.ofValue_eq config]
    exact ⟨h.depth_eq, rfl, rfl⟩

/-- Rows of different kinds of items. -/
def mixedRows : Value := .array [.array [.number (.integer 1 (by decide)), .null], .string "a"]

/-- A shorter first row, and other rows. -/
def otherRows : Value := .array [.array [.number (.integer 1 (by decide))], .array [], .object [("a", .null)]]

theorem ofValue_nested_rows :
    mixedRows.SameFirst otherRows ∧ mixedRows.innermost = some (.number (.integer 1 (by decide))) ∧
    (Ty.ofValue {} mixedRows).className {} = "List<List<" ++ "int" ++ ">>" ∧
    (Ty.ofValue {} mixedRows).structuralName = "number" ++ "[][]" ∧
    (Ty.ofValue {} otherRows).className {} = (Ty.ofValue {} mixedRows).className {} ∧
    (Ty.ofValue {} otherRows).structuralName = (Ty.ofValue {} mixedRows).structuralName := by
  have same : mixedRows.SameFirst otherRows := .array (.array (.same _) _ _) _ _
  obtain ⟨-, -, classes, structures, edited⟩ := ofValue_nested {} mixedRows
  obtain ⟨-, classes', structures'⟩ := edited otherRows same
  refine ⟨same, rfl, ?_, ?_, classes', structures'⟩
  · rw [classes]
    decide +kernel
  · rw [structures]
    decide +kernel

/-! ## Types of values -/

namespace Ty

/-- The types of values that are no arrays. -/
def bases : List Ty :=
  [.integer, .float, .bool, .string, .temporal .offset, .temporal .utc, .temporal .zoneless, .null, .object]

/-- A base in any number of lists, or an unknown type in one or more. -/
def IsInferred (ty : Ty) : Prop :=
  (∃ depth, ∃ base ∈ bases, ty = nested depth base) ∨ ∃ depth, 1 ≤ depth ∧ ty = nested depth .unknown

theorem ofValue_mem_bases (config : Config) {value : Value} (h : value.kind ≠ .array) :
    ofValue config value ∈ bases := by
  cases value with
  | null => simp [ofValue, bases]
  | bool b => simp [ofValue, bases]
  | number n => rcases ofNumber_eq config.numberPolicy n with h | h <;> simp [ofValue, h, bases]
  | string s =>
    rw [ofValue, ofString]
    cases Temporal.classifyUnder config.temporalPolicy s <;> simp [bases]
  | array items => exact absurd rfl h
  | object members => simp [ofValue, bases]

theorem exists_ofNumber (policy : NumberPolicy) {ty : Ty} (h : ty = .integer ∨ ty = .float) :
    ∃ n, ofNumber policy n = ty := by
  rcases h with rfl | rfl
  · exact ⟨.integer 0 (by decide), by cases policy <;> decide⟩
  · exact ⟨.double ⟨false, 2 ^ 52, -53, by decide⟩, by cases policy <;> decide +kernel⟩

/-- Every kind of time is that of a string, under both policies. -/
theorem exists_classifyUnder (policy : TemporalPolicy) (kind : Temporal) :
    ∃ s, Temporal.classifyUnder policy s = kind := by
  cases kind with
  | offset => exact ⟨"2024-02-29T23:59:59+01:00", by cases policy <;> decide +kernel⟩
  | utc => exact ⟨"2024-02-29T23:59:59Z", by cases policy <;> decide +kernel⟩
  | zoneless => exact ⟨"2024-02-29T23:59:59", by cases policy <;> decide +kernel⟩
  | plain => exact ⟨"", by cases policy <;> decide +kernel⟩

theorem exists_ofValue_temporal (config : Config) {kind : Temporal} (h : kind ≠ .plain) :
    ∃ value, ofValue config value = .temporal kind := by
  obtain ⟨s, verdict⟩ := exists_classifyUnder config.temporalPolicy kind
  refine ⟨.string s, ?_⟩
  rw [ofValue, ofString, verdict]
  cases kind with
  | plain => exact absurd rfl h
  | _ => rfl

theorem exists_ofValue_base (config : Config) {base : Ty} (h : base ∈ bases) : ∃ value, ofValue config value = base := by
  simp only [bases, List.mem_cons, List.not_mem_nil, or_false] at h
  rcases h with rfl | rfl | rfl | rfl | rfl | rfl | rfl | rfl | rfl
  · obtain ⟨n, hn⟩ := exists_ofNumber config.numberPolicy (.inl rfl)
    exact ⟨.number n, hn⟩
  · obtain ⟨n, hn⟩ := exists_ofNumber config.numberPolicy (.inr rfl)
    exact ⟨.number n, hn⟩
  · exact ⟨.bool true, rfl⟩
  · obtain ⟨s, verdict⟩ := exists_classifyUnder config.temporalPolicy .plain
    exact ⟨.string s, by rw [ofValue, ofString, verdict]⟩
  · exact exists_ofValue_temporal config (by decide)
  · exact exists_ofValue_temporal config (by decide)
  · exact exists_ofValue_temporal config (by decide)
  · exact ⟨.null, rfl⟩
  · exact ⟨.object [], rfl⟩

/-- A list around a value puts its type into a list. -/
theorem exists_ofValue_nested (config : Config) (depth : Nat) {ty : Ty} (h : ∃ value, ofValue config value = ty) :
    ∃ value, ofValue config value = nested depth ty := by
  induction depth with
  | zero => exact h
  | succ depth ih =>
    obtain ⟨value, type⟩ := ih
    exact ⟨.array [value], by rw [ofValue, type, nested]⟩

theorem exists_ofValue_iff (config : Config) {ty : Ty} : (∃ value, ofValue config value = ty) ↔ ty.IsInferred := by
  constructor
  · rintro ⟨value, rfl⟩
    have type := ofValue_eq_nested config value
    cases ends : value.innermost with
    | some base =>
      rw [ends] at type
      exact .inl ⟨value.depth, _, ofValue_mem_bases config (Value.kind_innermost ends), type⟩
    | none =>
      rw [ends] at type
      exact .inr ⟨value.depth, Value.depth_pos ends, type⟩
  · rintro (⟨depth, base, mem, rfl⟩ | ⟨depth, some, rfl⟩)
    · exact exists_ofValue_nested config depth (exists_ofValue_base config mem)
    · obtain ⟨less, rfl⟩ := Nat.exists_eq_add_of_le' some
      rw [← nested_list]
      exact exists_ofValue_nested config less ⟨.array [], rfl⟩

theorem ne_list_of_mem_bases {base : Ty} (h : base ∈ bases) (item : Ty) : base ≠ .list item := by
  rintro rfl
  simp [bases] at h

/-- A type that is no list is that of a value, in so many lists, exactly if it is a base, or unknown in one or more. -/
theorem isInferred_nested_iff {depth : Nat} {ty : Ty} (single : ∀ item, ty ≠ .list item) :
    (nested depth ty).IsInferred ↔ ty ∈ bases ∨ (1 ≤ depth ∧ ty = .unknown) := by
  constructor
  · rintro (⟨depth', base, mem, same⟩ | ⟨depth', some, same⟩)
    · obtain ⟨-, rfl⟩ := nested_inj single (ne_list_of_mem_bases mem) same
      exact .inl mem
    · obtain ⟨rfl, rfl⟩ := nested_inj single (by simp) same
      exact .inr ⟨some, rfl⟩
  · rintro (mem | ⟨some, rfl⟩)
    · exact .inl ⟨depth, ty, mem, rfl⟩
    · exact .inr ⟨depth, some, rfl⟩

theorem ofValue_ne_plain (config : Config) (value : Value) (depth : Nat) :
    ofValue config value ≠ nested depth (.temporal .plain) := by
  intro type
  have inferred := (exists_ofValue_iff config).1 ⟨value, type⟩
  rw [isInferred_nested_iff (by simp)] at inferred
  simp [bases] at inferred

theorem ofValue_ne_unknown (config : Config) (value : Value) : ofValue config value ≠ .unknown := by
  intro type
  have inferred : (nested 0 .unknown).IsInferred := (exists_ofValue_iff config).1 ⟨value, type⟩
  rw [isInferred_nested_iff (by simp)] at inferred
  simp [bases] at inferred

/-! ## What the names tell -/

/-- The type with the zones of its times left open, if they have one. -/
def anyZone : Ty → Ty
  | .temporal .utc => .temporal .offset
  | .list item => .list (anyZone item)
  | ty => ty

theorem className_anyZone (config : Config) (ty : Ty) : (anyZone ty).className config = ty.className config := by
  induction ty with
  | list item ih => rw [anyZone, className, className, ih]
  | temporal kind => cases kind <;> rfl
  | _ => rfl

theorem structuralName_anyZone (ty : Ty) : (anyZone ty).structuralName = ty.structuralName := by
  induction ty with
  | list item ih => rw [anyZone, structuralName, structuralName, ih]
  | temporal kind => cases kind <;> rfl
  | _ => rfl

/-- The structural name of a list ends in a bracket, and no other one does. -/
theorem exists_item_iff (ty : Ty) :
    (∃ item, ty = .list item) ↔ ty.structuralName.toList.getLast? = some ']' := by
  cases ty <;> simp [structuralName]

theorem className_list_inj {config : Config} {item item' : Ty}
    (h : (list item).className config = (list item').className config) : item.className config = item'.className config := by
  rwa [className, className, String.append_left_inj, String.append_right_inj] at h

theorem structuralName_list_inj {item item' : Ty} (h : (list item).structuralName = (list item').structuralName) :
    item.structuralName = item'.structuralName := by
  rwa [structuralName, structuralName, String.append_left_inj] at h

/-- Types that are no lists and have one class name and one structural name differ at most in the zone of a time. -/
theorem anyZone_eq_of_single {config : Config} (differ : config.integerType ≠ config.floatType) {ty ty' : Ty}
    (single : ∀ item, ty ≠ .list item) (single' : ∀ item, ty' ≠ .list item)
    (classes : ty.className config = ty'.className config) (structures : ty.structuralName = ty'.structuralName) :
    ty.anyZone = ty'.anyZone := by
  cases ty with
  | list item => exact absurd rfl (single item)
  | integer =>
    cases ty' with
    | integer => rfl
    | float => exact absurd classes differ
    | list item' => exact absurd rfl (single' item')
    | _ => simp [structuralName] at structures
  | float =>
    cases ty' with
    | integer => exact absurd classes.symm differ
    | float => rfl
    | list item' => exact absurd rfl (single' item')
    | _ => simp [structuralName] at structures
  | null =>
    cases ty' with
    | null => rfl
    | unknown => simp [className] at classes
    | list item' => exact absurd rfl (single' item')
    | _ => simp [structuralName] at structures
  | unknown =>
    cases ty' with
    | null => simp [className] at classes
    | unknown => rfl
    | list item' => exact absurd rfl (single' item')
    | _ => simp [structuralName] at structures
  | temporal kind =>
    cases ty' with
    | temporal kind' => cases kind <;> cases kind' <;> simp [className, anyZone] at classes ⊢
    | list item' => exact absurd rfl (single' item')
    | _ => simp [structuralName] at structures
  | bool =>
    cases ty' with
    | bool => rfl
    | list item' => exact absurd rfl (single' item')
    | _ => simp [structuralName] at structures
  | string =>
    cases ty' with
    | string => rfl
    | list item' => exact absurd rfl (single' item')
    | _ => simp [structuralName] at structures
  | object =>
    cases ty' with
    | object => rfl
    | list item' => exact absurd rfl (single' item')
    | _ => simp [structuralName] at structures

/-- Types of one class name and one structural name differ at most in the zones of their times. -/
theorem anyZone_eq_of_names {config : Config} (differ : config.integerType ≠ config.floatType) {ty ty' : Ty}
    (classes : ty.className config = ty'.className config) (structures : ty.structuralName = ty'.structuralName) :
    ty.anyZone = ty'.anyZone := by
  induction ty generalizing ty' with
  | list item ih =>
    -- The structural name tells a list from other types, and with it how many parts of the class name are of lists.
    obtain ⟨item', rfl⟩ := (exists_item_iff ty').2 (structures ▸ (exists_item_iff _).1 ⟨item, rfl⟩)
    rw [anyZone, anyZone, ih (className_list_inj classes) (structuralName_list_inj structures)]
  | _ =>
    apply anyZone_eq_of_single differ (by simp) _ classes structures
    rintro item' rfl
    have ends := (exists_item_iff _).1 ⟨item', rfl⟩
    rw [← structures, ← exists_item_iff] at ends
    simp at ends

theorem names_eq_iff {config : Config} (differ : config.integerType ≠ config.floatType) {ty ty' : Ty} :
    (ty.className config = ty'.className config ∧ ty.structuralName = ty'.structuralName) ↔
      ty.anyZone = ty'.anyZone := by
  constructor
  · rintro ⟨classes, structures⟩
    exact anyZone_eq_of_names differ classes structures
  · intro same
    rw [← className_anyZone config ty, ← structuralName_anyZone ty, same, className_anyZone, structuralName_anyZone]
    exact ⟨rfl, rfl⟩

end Ty

/-- **The types that values have** are the bases in any number of lists, and the unknown type in one list or more; a
string that is no time has the type of strings, and an unknown type is in a list. Where the names of integers and
floats differ, whatever they are, the class name and the structural name of a type tell it from all other types that
differ from it in more than the zones of times. -/
theorem inferred_types (config : Config) :
    (∀ ty : Ty, (∃ value, Ty.ofValue config value = ty) ↔ ty.IsInferred) ∧
    (∀ value depth, Ty.ofValue config value ≠ .nested depth (.temporal .plain)) ∧
    (∀ value, Ty.ofValue config value ≠ .unknown) ∧
    (config.integerType ≠ config.floatType → ∀ ty ty' : Ty,
      (ty.className config = ty'.className config ∧ ty.structuralName = ty'.structuralName) ↔
        ty.anyZone = ty'.anyZone) := by
  refine ⟨fun ty => Ty.exists_ofValue_iff config, Ty.ofValue_ne_plain config, Ty.ofValue_ne_unknown config, ?_⟩
  intro differ ty ty'
  exact Ty.names_eq_iff differ

/-- A configuration in which an integer has the class name of a list. -/
def listNamed : Config := { integerType := "List<object>", floatType := ">" }

/-- The structural name tells the integer from the list, and nothing tells the two times with a zone apart. -/
theorem inferred_types_listNamed :
    listNamed.integerType ≠ listNamed.floatType ∧
    Ty.integer.className listNamed = (Ty.list .unknown).className listNamed ∧
    Ty.integer.structuralName ≠ (Ty.list .unknown).structuralName ∧
    (Ty.temporal .offset).className listNamed = (Ty.temporal .utc).className listNamed ∧
    (Ty.temporal .offset).structuralName = (Ty.temporal .utc).structuralName := by
  have differ : listNamed.integerType ≠ listNamed.floatType := by decide
  have classes : Ty.integer.className listNamed = (Ty.list .unknown).className listNamed := by decide
  obtain ⟨-, -, -, names⟩ := inferred_types listNamed
  obtain ⟨zones, zones'⟩ := (names differ (.temporal .offset) (.temporal .utc)).2 rfl
  refine ⟨differ, classes, fun structures => ?_, zones, zones'⟩
  have same := (names differ .integer (.list .unknown)).1 ⟨classes, structures⟩
  cases same

end TypeSketch
