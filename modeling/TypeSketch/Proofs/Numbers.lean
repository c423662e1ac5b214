import TypeSketch.Json.Value

/-!
# The numbers of a value

* `Value.nested` : induction over a value and the values in its containers;
* `Value.mapNumbers` : a value with its numbers replaced, at every depth;
* `Value.EveryNumber` : all numbers of a value, at every depth, have a property;
* `mapNumbers_eq_self_iff` : a value stays as it is exactly if each of its numbers does.
-/

namespace TypeSketch.Json.Value

variable {f : Number → Number} {p q : Number → Prop}

/-! ## Induction -/

/-- A property of values holds of all of them if a container has it as soon as the values in it do. -/
theorem nested {motive : Value → Prop} (null : motive .null) (bool : ∀ b, motive (.bool b))
    (number : ∀ n, motive (.number n)) (string : ∀ s, motive (.string s))
    (array : ∀ items : List Value, (∀ item ∈ items, motive item) → motive (.array items))
    (object : ∀ members : List (String × Value), (∀ member ∈ members, motive member.2) → motive (.object members))
    (value : Value) : motive value :=
  @Value.rec motive (fun items => ∀ item ∈ items, motive item)
    (fun members => ∀ member ∈ members, motive member.2) (fun member => motive member.2)
    null bool number string array object
    (fun _ none => absurd none List.not_mem_nil) (fun _ _ head tail => List.forall_mem_cons.2 ⟨head, tail⟩)
    (fun _ none => absurd none List.not_mem_nil) (fun _ _ head tail => List.forall_mem_cons.2 ⟨head, tail⟩)
    (fun _ _ own => own) value

/-! ## Replacing numbers -/

mutual

/-- The value with its numbers replaced, at every depth. -/
def mapNumbers (f : Number → Number) : Value → Value
  | .null => .null
  | .bool b => .bool b
  | .number n => .number (f n)
  | .string s => .string s
  | .array items => .array (mapItems f items)
  | .object members => .object (mapMembers f members)

/-- The items with their numbers replaced. -/
def mapItems (f : Number → Number) : List Value → List Value
  | [] => []
  | item :: items => mapNumbers f item :: mapItems f items

/-- The members with the numbers of their values replaced. -/
def mapMembers (f : Number → Number) : List (String × Value) → List (String × Value)
  | [] => []
  | (key, value) :: members => (key, mapNumbers f value) :: mapMembers f members

end

theorem mapItems_eq_map (f : Number → Number) (items : List Value) :
    mapItems f items = items.map (mapNumbers f) := by
  induction items with
  | nil => rfl
  | cons item items ih => rw [mapItems, ih, List.map_cons]

theorem mapMembers_eq_map (f : Number → Number) (members : List (String × Value)) :
    mapMembers f members = members.map fun member => (member.1, mapNumbers f member.2) := by
  induction members with
  | nil => rfl
  | cons member members ih => rw [mapMembers, ih, List.map_cons]

theorem keys_mapMembers (f : Number → Number) (members : List (String × Value)) :
    (mapMembers f members).map Prod.fst = members.map Prod.fst := by
  rw [mapMembers_eq_map, List.map_map]
  rfl

theorem kind_mapNumbers (f : Number → Number) (value : Value) : (value.mapNumbers f).kind = value.kind := by
  cases value <;> rfl

/-! ## All numbers -/

/-- All numbers of a value, at every depth, have a property. -/
inductive EveryNumber (p : Number → Prop) : Value → Prop
  | null : EveryNumber p .null
  | bool (b : Bool) : EveryNumber p (.bool b)
  | number {n : Number} (h : p n) : EveryNumber p (.number n)
  | string (s : String) : EveryNumber p (.string s)
  | array {items : List Value} (h : ∀ item ∈ items, EveryNumber p item) : EveryNumber p (.array items)
  | object {members : List (String × Value)} (h : ∀ member ∈ members, EveryNumber p member.2) :
    EveryNumber p (.object members)

theorem EveryNumber.imp {value : Value} (h : value.EveryNumber p) (imp : ∀ n, p n → q n) :
    value.EveryNumber q := by
  induction h with
  | null => exact .null
  | bool b => exact .bool b
  | number h => exact .number (imp _ h)
  | string s => exact .string s
  | array _ ih => exact .array ih
  | object _ ih => exact .object ih

theorem map_eq_self_iff {α : Type} {g : α → α} {list : List α} : list.map g = list ↔ ∀ a ∈ list, g a = a := by
  have same : list.map g = list.map id ↔ ∀ a ∈ list, g a = a := List.map_eq_map_iff
  rwa [List.map_id] at same

theorem mapNumbers_eq_self_iff {value : Value} :
    value.mapNumbers f = value ↔ value.EveryNumber fun n => f n = n := by
  induction value using nested with
  | null => exact ⟨fun _ => .null, fun _ => rfl⟩
  | bool b => exact ⟨fun _ => .bool b, fun _ => rfl⟩
  | number n =>
    rw [mapNumbers, Value.number.injEq]
    exact ⟨fun h => .number h, fun h => by cases h; assumption⟩
  | string s => exact ⟨fun _ => .string s, fun _ => rfl⟩
  | array items ih =>
    rw [mapNumbers, Value.array.injEq, mapItems_eq_map, map_eq_self_iff]
    constructor
    · exact fun h => .array fun item mem => (ih item mem).1 (h item mem)
    · intro h item mem
      cases h with | array h => exact (ih item mem).2 (h item mem)
  | object members ih =>
    have same : (members.map fun member => (member.1, mapNumbers f member.2)) = members ↔
        ∀ member ∈ members, mapNumbers f member.2 = member.2 := by
      rw [map_eq_self_iff]
      simp only [Prod.ext_iff, true_and]
    rw [mapNumbers, Value.object.injEq, mapMembers_eq_map, same]
    constructor
    · exact fun h => .object fun member mem => (ih member mem).1 (h member mem)
    · intro h member mem
      cases h with | object h => exact (ih member mem).2 (h member mem)

theorem everyNumber_of_forall (h : ∀ n, p n) (value : Value) : value.EveryNumber p := by
  induction value using nested with
  | null => exact .null
  | bool b => exact .bool b
  | number n => exact .number (h n)
  | string s => exact .string s
  | array items ih => exact .array ih
  | object members ih => exact .object ih

theorem mapNumbers_id (value : Value) : value.mapNumbers id = value :=
  mapNumbers_eq_self_iff.2 (everyNumber_of_forall (fun _ => rfl) value)

end TypeSketch.Json.Value
