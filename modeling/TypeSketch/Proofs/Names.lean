import Mathlib.Data.List.Nodup
import TypeSketch.Proofs.Declaration

/-!
# Names in property case

* `Run.isApart` : whether two runs of code points have none in common, as their ends or their parities tell;
* `upper_of_isUpper`, `upper_first` : an upper-case character is its own upper-case mapping, and so is the first
  character of every mapping;
* `propertyCase_eq_capitalize` : cutting a name into segments changes no more than its first character;
* `Merges`, `propertyCase_eq_iff` : the names that are the same in property case;
* `render_names` : the names in the two declarations of an object.
-/

namespace TypeSketch

/-! ## Upper case -/

namespace Text

/-- Whether the code points of a run are all even or all odd. -/
def Run.keepsParity (run : Run) : Bool := run.step = 2 || run.first = run.last

/-- Whether one of the runs ends before the other begins, or one is of even code points and the other of odd ones. -/
def Run.isApart (run other : Run) : Bool :=
  run.last.blt other.first || other.last.blt run.first ||
    (run.keepsParity && other.keepsParity && run.first % 2 ≠ other.first % 2)

theorem Run.mod_two_of_contains {run : Run} (h : run.keepsParity = true) {code : Nat}
    (mem : run.contains code = true) : code % 2 = run.first % 2 := by
  simp only [contains, Bool.and_eq_true, decide_eq_true_eq] at mem
  simp only [keepsParity, Bool.or_eq_true, decide_eq_true_eq] at h
  obtain ⟨⟨low, high⟩, steps⟩ := mem
  rcases h with two | single
  · rw [two] at steps
    omega
  · omega

theorem Run.not_contains_of_isApart {run other : Run} (h : run.isApart other = true) {code : Nat}
    (mem : run.contains code = true) : other.contains code = false := by
  simp only [isApart, Bool.or_eq_true, Bool.and_eq_true, Nat.blt_eq, decide_eq_true_eq] at h
  rw [Bool.eq_false_iff]
  intro mem'
  rcases h with ends | ⟨⟨parity, parity'⟩, differ⟩
  · simp only [contains, Bool.and_eq_true, decide_eq_true_eq] at mem mem'
    omega
  · exact differ ((mod_two_of_contains parity mem).symm.trans (mod_two_of_contains parity' mem'))

/-! ### Characters without a mapping -/

/-- A character has several characters or one other character in upper case, or else itself. -/
theorem upper_cases (c : Char) :
    (∃ codes, (c.toNat, codes) ∈ spelledOut ∧ upper c = codes.map Char.ofNat) ∨
    (∃ entry ∈ shiftRuns, entry.1.contains c.toNat = true ∧ upper c = [Char.ofNat (c.toNat + entry.2).toNat]) ∨
    upper c = [c] := by
  unfold upper
  split
  · next codes found =>
    obtain ⟨before, after, whole, -⟩ := List.lookup_eq_some_iff.1 found
    refine .inl ⟨codes, ?_, rfl⟩
    rw [whole]
    exact List.mem_append_right before List.mem_cons_self
  · split
    · next entry found =>
      have holds := List.find?_some found
      exact .inr (.inl ⟨entry, List.mem_of_find?_eq_some found, holds, rfl⟩)
    · exact .inr (.inr rfl)

/-- Whether a code point is in neither table of mappings. -/
def isUnmapped (code : Nat) : Bool :=
  (spelledOut.all fun entry => entry.1 != code) && shiftRuns.all fun entry => !entry.1.contains code

/-- Whether a run has no code point in common with the tables of mappings. -/
def Run.isUnmapped (run : Run) : Bool :=
  shiftRuns.all (fun entry => run.isApart entry.1) && spelledOut.all fun entry => run.isApart ⟨entry.1, entry.1, 1⟩

theorem Run.isUnmapped_of_contains {run : Run} (h : run.isUnmapped = true) {code : Nat}
    (mem : run.contains code = true) : Text.isUnmapped code = true := by
  simp only [isUnmapped, Bool.and_eq_true, List.all_eq_true] at h
  simp only [Text.isUnmapped, Bool.and_eq_true, List.all_eq_true, bne_iff_ne, Bool.not_eq_true']
  constructor
  · intro entry mem' same
    have outside := not_contains_of_isApart (h.2 entry mem') mem
    simp [contains, same] at outside
  · intro entry mem'
    exact not_contains_of_isApart (h.1 entry mem') mem

theorem upper_of_isUnmapped {c : Char} (h : isUnmapped c.toNat = true) : upper c = [c] := by
  simp only [isUnmapped, Bool.and_eq_true, List.all_eq_true, bne_iff_ne, Bool.not_eq_true'] at h
  obtain ⟨notSpelled, notShifted⟩ := h
  rcases upper_cases c with ⟨codes, mem, -⟩ | ⟨entry, mem, holds, -⟩ | same
  · exact absurd rfl (notSpelled _ mem)
  · rw [notShifted entry mem] at holds
    cases holds
  · exact same

theorem upperRuns_isUnmapped : upperRuns.all Run.isUnmapped = true := by decide +kernel

/-- An upper-case character is its own upper-case mapping. -/
theorem upper_of_isUpper {c : Char} (h : isUpper c = true) : upper c = [c] := by
  obtain ⟨run, mem, holds⟩ := List.any_eq_true.1 h
  have unmapped := List.all_eq_true.1 upperRuns_isUnmapped run mem
  exact upper_of_isUnmapped (Run.isUnmapped_of_contains unmapped holds)

/-! ### Results of mappings -/

theorem upper_ne_nil (c : Char) : upper c ≠ [] := by
  have spelled : ∀ entry ∈ spelledOut, entry.2 ≠ [] := by decide
  rcases upper_cases c with ⟨codes, mem, h⟩ | ⟨entry, -, -, h⟩ | h
  · rw [h]
    simpa using spelled _ mem
  · rw [h]
    exact List.cons_ne_nil _ _
  · rw [h]
    exact List.cons_ne_nil _ _

/-- The run at a distance. -/
def Run.shift (run : Run) (distance : Int) : Run :=
  ⟨(run.first + distance).toNat, (run.last + distance).toNat, run.step⟩

theorem Run.contains_shift {run : Run} {distance : Int} (low : 0 ≤ run.first + distance) {code : Nat}
    (mem : run.contains code = true) : (run.shift distance).contains (code + distance).toNat = true := by
  simp only [contains, Bool.and_eq_true, decide_eq_true_eq] at mem ⊢
  obtain ⟨⟨above, below⟩, steps⟩ := mem
  have same : (code + distance).toNat - (run.shift distance).first = code - run.first := by
    simp only [shift]
    omega
  rw [same]
  simp only [shift]
  omega

theorem spelledOut_isUnmapped : (spelledOut.all fun entry => entry.2.head?.all isUnmapped) = true := by
  decide +kernel

theorem shiftRuns_isUnmapped :
    (shiftRuns.all fun entry => (0 ≤ entry.1.first + entry.2 : Bool) && (entry.1.shift entry.2).isUnmapped) = true := by
  decide +kernel

theorem isUnmapped_shift {entry : Run × Int} (mem : entry ∈ shiftRuns) {code : Nat}
    (holds : entry.1.contains code = true) : isUnmapped (code + entry.2).toNat = true := by
  have shifted := List.all_eq_true.1 shiftRuns_isUnmapped entry mem
  rw [Bool.and_eq_true, decide_eq_true_eq] at shifted
  obtain ⟨low, unmapped⟩ := shifted
  exact Run.isUnmapped_of_contains unmapped (Run.contains_shift low holds)

/-- A number that is no code point of a character stands for the first one. -/
theorem toNat_ofNat (code : Nat) : (Char.ofNat code).toNat = if code.isValidChar then code else 0 := by
  by_cases valid : code.isValidChar
  · rw [Char.ofNat, dif_pos valid, if_pos valid]
    rfl
  · rw [Char.ofNat, dif_neg valid, if_neg valid]
    rfl

theorem upper_ofNat {code : Nat} (h : isUnmapped code = true) : upper (Char.ofNat code) = [Char.ofNat code] := by
  have zero : isUnmapped 0 = true := by decide +kernel
  apply upper_of_isUnmapped
  rw [toNat_ofNat]
  split
  · exact h
  · exact zero

/-- The first character of an upper-case mapping is its own upper-case mapping. -/
theorem upper_first {c first : Char} {more : List Char} (h : upper c = first :: more) : upper first = [first] := by
  rcases upper_cases c with ⟨codes, mem, spelled⟩ | ⟨entry, mem, holds, shifted⟩ | same
  · rw [h] at spelled
    have unmapped := List.all_eq_true.1 spelledOut_isUnmapped _ mem
    cases codes with
    | nil => cases spelled
    | cons code codes =>
      obtain ⟨rfl, -⟩ := List.cons.inj spelled
      exact upper_ofNat unmapped
  · rw [h] at shifted
    obtain ⟨rfl, -⟩ := List.cons.inj shifted
    exact upper_ofNat (isUnmapped_shift mem holds)
  · rw [h] at same
    obtain ⟨rfl, rfl⟩ := List.cons.inj same
    exact h

end Text

namespace Name

open Text

/-! ## Segments -/

/-- Behind the first character of a segment, cutting and capitalizing changes nothing. -/
theorem flatMap_cut (c : Char) (segment rest : List Char) :
    (cut (segment ++ [c]) rest).flatMap capitalize = upper c ++ (segment.reverse ++ rest) := by
  induction rest generalizing c segment with
  | nil => simp [cut, capitalize]
  | cons d rest ih =>
    rw [cut]
    split
    · next capital =>
      rw [List.flatMap_cons, ← List.nil_append [d], ih, upper_of_isUpper capital]
      simp [capitalize]
    · rw [← List.cons_append, ih]
      simp

/-- Of all characters in a name, capitalizing its segments changes the first one alone. -/
theorem propertyCase_eq_capitalize (name : List Char) : propertyCase name = capitalize name := by
  cases name with
  | nil => rfl
  | cons c rest => exact flatMap_cut c [] rest

/-! ## Names that are the same -/

/-- Two names end alike. Before that, the one has a single character, and the other one what this becomes in upper
case, or has the first character of it in another case. -/
inductive Merges : List Char → List Char → Prop
  | intro {c d : Char} {more : List Char} (capital : upper d = upper c ++ more) (rest : List Char) :
    Merges (c :: (more ++ rest)) (d :: rest)

theorem merges_cons_iff {c d : Char} {s t : List Char} :
    Merges (c :: s) (d :: t) ↔ ∃ more, upper d = upper c ++ more ∧ s = more ++ t := by
  constructor
  · intro h
    cases h with | intro capital rest => exact ⟨_, capital, rfl⟩
  · rintro ⟨more, capital, rfl⟩
    exact .intro capital t

theorem capitalize_ne_nil {name : List Char} (some : name ≠ []) : capitalize name ≠ [] := by
  cases name with
  | nil => exact absurd rfl some
  | cons c rest => exact List.append_ne_nil_of_left_ne_nil (upper_ne_nil c) rest

/-- Different names are the same in property case exactly if one of them merges into the other. -/
theorem propertyCase_eq_iff {name other : List Char} (differ : name ≠ other) :
    propertyCase name = propertyCase other ↔ Merges name other ∨ Merges other name := by
  rw [propertyCase_eq_capitalize, propertyCase_eq_capitalize]
  cases name with
  | nil =>
    refine iff_of_false (capitalize_ne_nil differ.symm).symm ?_
    rintro (h | h) <;> cases h
  | cons c s =>
    cases other with
    | nil =>
      refine iff_of_false (capitalize_ne_nil differ) ?_
      rintro (h | h) <;> cases h
    | cons d t =>
      rw [merges_cons_iff, merges_cons_iff]
      exact List.append_eq_append_iff

theorem toPropertyCase_eq_iff {name other : String} (differ : name ≠ other) :
    toPropertyCase name = toPropertyCase other ↔
      Merges name.toList other.toList ∨ Merges other.toList name.toList := by
  rw [← propertyCase_eq_iff fun same => differ (String.toList_injective same), toPropertyCase, toPropertyCase,
    String.ofList_inj]

end Name

/-! ## Declarations -/

open Json

/-- The line of a property in a class, by its name there and its value. -/
def propertyLine (config : Config) (name : String) (value : Value) : String :=
  config.classIndent ++ config.modifier ++ " " ++ (Ty.ofValue config value).className config ++ " " ++ name ++ " " ++
    config.accessor ++ "\n"

/-- **The names in the declarations of an object**: an interface has its keys, and a class has them in property
case. Two different keys become one name exactly if one of them merges into the other, and no name comes twice
exactly if there are no such keys. -/
theorem render_names (config : Config) {members : List (String × Value)} (distinct : (members.map Prod.fst).Nodup) :
    render config (.object members) =
      .ok ⟨"public class " ++ config.className ++ " \x7b\n" ++ String.join (members.map fun member =>
          propertyLine config (Name.toPropertyCase member.1) member.2) ++ "\x7d",
        interfaceText config members⟩ ∧
    (∀ a ∈ members.map Prod.fst, ∀ b ∈ members.map Prod.fst, a ≠ b →
      (Name.toPropertyCase a = Name.toPropertyCase b ↔
        Name.Merges a.toList b.toList ∨ Name.Merges b.toList a.toList)) ∧
    ((members.map fun member => Name.toPropertyCase member.1).Nodup ↔
      ∀ a ∈ members.map Prod.fst, ∀ b ∈ members.map Prod.fst, a ≠ b → ¬ Name.Merges a.toList b.toList) := by
  refine ⟨render_object config members, fun a _ b _ differ => Name.toPropertyCase_eq_iff differ, ?_⟩
  have names : (members.map fun member => Name.toPropertyCase member.1) =
      (members.map Prod.fst).map Name.toPropertyCase := by rw [List.map_map]; rfl
  rw [names, List.nodup_map_iff_inj_on distinct]
  constructor
  · intro injective a ha b hb differ merges
    exact differ (injective a ha b hb ((Name.toPropertyCase_eq_iff differ).2 (.inl merges)))
  · intro apart a ha b hb same
    by_contra differ
    rcases (Name.toPropertyCase_eq_iff differ).1 same with merges | merges
    · exact apart a ha b hb differ merges
    · exact apart b hb a ha (Ne.symm differ) merges

/-- A sharp s becomes two letters in upper case, which another key has already. -/
theorem render_names_sharp :
    (["ß", "sS", "id"] : List String).Nodup ∧
    Name.toPropertyCase "ß" = Name.toPropertyCase "sS" ∧
    Name.toPropertyCase "ß" ≠ Name.toPropertyCase "id" ∧
    ¬ (["ß", "sS", "id"].map Name.toPropertyCase).Nodup := by
  have distinct : (["ß", "sS", "id"] : List String).Nodup := by decide
  let members : List (String × Value) := [("ß", .null), ("sS", .null), ("id", .null)]
  have keys : (members.map Prod.fst).Nodup := distinct
  obtain ⟨-, same, once⟩ := render_names {} keys
  have upper : Text.upper 'ß' = Text.upper 's' ++ ['S'] := by decide +kernel
  have merges : Name.Merges "sS".toList "ß".toList := .intro upper []
  have apart : Name.toPropertyCase "ß" ≠ Name.toPropertyCase "id" := by decide +kernel
  refine ⟨distinct, (same "ß" (by decide) "sS" (by decide) (by decide)).2 (.inr merges), apart, fun nodup => ?_⟩
  exact once.1 nodup "sS" (by decide) "ß" (by decide) (by decide) merges

/-- **The names in a class can coincide**: an object has two keys that differ in the case of their first letter. -/
theorem propertyNames_coincide :
    (["a", "A"] : List String).Nodup ∧
    render {} (.object [("a", .bool true), ("A", .bool true)]) =
      .ok ⟨"public class ClassName \x7b\n    public bool A \x7b get; set; \x7d\n" ++
          "    public bool A \x7b get; set; \x7d\n\x7d",
        "interface interfaceName \x7b\n  a: boolean;\n  A: boolean;\n\x7d"⟩ ∧
    ¬ ∀ members : List (String × Value), (members.map Prod.fst).Nodup →
      (members.map fun member => Name.toPropertyCase member.1).Nodup := by
  refine ⟨by decide, by decide +kernel, fun distinct => ?_⟩
  have same : Name.toPropertyCase "a" = Name.toPropertyCase "A" := by decide +kernel
  have names := distinct [("a", .bool true), ("A", .bool true)] (by decide)
  rw [List.map_cons, List.map_singleton, same] at names
  exact absurd (List.mem_singleton_self _) (List.nodup_cons.1 names).1

end TypeSketch
