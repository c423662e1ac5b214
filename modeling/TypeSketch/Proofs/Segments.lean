import TypeSketch.Proofs.Names

/-!
# Segments of names

* `IsSmall`, `IsCapital` : a text without an upper-case character, and one with no other than its first;
* `exists_pieces` : every text is made of one that is small and others that are capital;
* `segments_pieces` : and cutting gives just these;
* `IsSegmentation` : some texts are the pieces of a name, cut before every upper-case character but its first;
* `splitSegments_unique`, `toPropertyCase_first` : the segments of a name, and what they become in property case.
-/

namespace TypeSketch.Name

open Text

/-! ## Pieces -/

/-- No character is in upper case. -/
def IsSmall (s : List Char) : Prop := ∀ c ∈ s, isUpper c = false

/-- The first character is in upper case and no other one. -/
def IsCapital (piece : List Char) : Prop := ∃ c rest, piece = c :: rest ∧ isUpper c = true ∧ IsSmall rest

/-- Every text is a small one followed by capital ones. -/
theorem exists_pieces (s : List Char) :
    ∃ (before : List Char) (pieces : List (List Char)),
      IsSmall before ∧ (∀ piece ∈ pieces, IsCapital piece) ∧ s = before ++ pieces.flatten := by
  induction s with
  | nil => exact ⟨[], [], List.forall_mem_nil _, List.forall_mem_nil _, rfl⟩
  | cons c s ih =>
    obtain ⟨before, pieces, small, capital, rfl⟩ := ih
    cases upper : isUpper c with
    | true =>
      refine ⟨[], (c :: before) :: pieces, List.forall_mem_nil _, ?_, rfl⟩
      exact List.forall_mem_cons.2 ⟨⟨c, before, rfl, upper, small⟩, capital⟩
    | false => exact ⟨c :: before, pieces, List.forall_mem_cons.2 ⟨upper, small⟩, capital, rfl⟩

/-! ## Cutting -/

/-- No cut is made in a small text: it is added to the segment. -/
theorem cut_small (segment rest : List Char) {before : List Char} (small : IsSmall before) :
    cut segment (before ++ rest) = cut (before.reverse ++ segment) rest := by
  induction before generalizing segment with
  | nil => rfl
  | cons c before ih =>
    obtain ⟨first, others⟩ := List.forall_mem_cons.1 small
    rw [List.cons_append, cut, first, if_neg Bool.false_ne_true, ih _ others]
    simp

/-- A cut is made before every capital text. -/
theorem cut_flatten (segment : List Char) {pieces : List (List Char)} (capital : ∀ piece ∈ pieces, IsCapital piece) :
    cut segment pieces.flatten = segment.reverse :: pieces := by
  induction pieces generalizing segment with
  | nil => rfl
  | cons piece pieces ih =>
    obtain ⟨⟨c, rest, rfl, upper, small⟩, others⟩ := List.forall_mem_cons.1 capital
    rw [List.flatten_cons, List.cons_append, cut, if_pos upper, cut_small _ _ small, ih _ others]
    simp

theorem segments_pieces (c : Char) {before : List Char} (small : IsSmall before) {pieces : List (List Char)}
    (capital : ∀ piece ∈ pieces, IsCapital piece) :
    segments (c :: (before ++ pieces.flatten)) = (c :: before) :: pieces := by
  rw [segments, cut_small _ _ small, cut_flatten _ capital]
  simp

theorem splitSegments_pieces {name : String} {c : Char} {before : List Char} {pieces : List (List Char)}
    (chars : name.toList = c :: (before ++ pieces.flatten)) (small : IsSmall before)
    (capital : ∀ piece ∈ pieces, IsCapital piece) :
    splitSegments name = String.ofList (c :: before) :: pieces.map String.ofList := by
  rw [splitSegments, chars, segments_pieces c small capital, List.map_cons]

theorem length_cut (segment s : List Char) : (cut segment s).length = 1 + s.countP isUpper := by
  induction s generalizing segment with
  | nil => rfl
  | cons c s ih =>
    rw [cut, List.countP_cons]
    split
    · rw [List.length_cons, ih]
      omega
    · rw [ih]
      omega

/-! ## Segmentations -/

/-- Some texts are the pieces of a name: none is empty, each after the first begins with an upper-case character, and
no other character but the first of a piece is in upper case. -/
structure IsSegmentation (name : String) (pieces : List String) : Prop where
  join : String.join pieces = name
  nonempty : ∀ piece ∈ pieces, piece ≠ ""
  upper : ∀ piece ∈ pieces.tail, ∃ c rest, piece.toList = c :: rest ∧ isUpper c = true
  small : ∀ piece ∈ pieces, IsSmall piece.toList.tail

theorem IsSegmentation.capital {name first : String} {pieces : List String} (h : IsSegmentation name (first :: pieces)) :
    ∀ piece ∈ pieces.map String.toList, IsCapital piece := by
  rw [List.forall_mem_map]
  intro piece mem
  obtain ⟨c, rest, whole, upper⟩ := h.upper piece mem
  have small := h.small piece (List.mem_cons_of_mem first mem)
  rw [whole, List.tail_cons] at small
  exact ⟨c, rest, whole, upper, small⟩

theorem IsSegmentation.eq_splitSegments {name : String} {pieces : List String} (h : IsSegmentation name pieces) :
    pieces = splitSegments name := by
  cases pieces with
  | nil =>
    rw [← h.join]
    rfl
  | cons first pieces =>
    obtain ⟨c, before, whole⟩ := List.exists_cons_of_ne_nil fun none =>
      h.nonempty first List.mem_cons_self (String.toList_eq_nil_iff.1 none)
    have small := h.small first List.mem_cons_self
    rw [whole, List.tail_cons] at small
    have chars : name.toList = c :: (before ++ (pieces.map String.toList).flatten) := by
      rw [← h.join, String.join_cons, String.toList_append, whole, String.toList_join, List.flatMap_def]
      rfl
    rw [splitSegments_pieces chars small h.capital, ← whole, String.ofList_toList, List.map_map,
      String.ofList_comp_toList, List.map_id]

theorem isSegmentation_splitSegments (name : String) : IsSegmentation name (splitSegments name) := by
  cases chars : name.toList with
  | nil =>
    rw [String.toList_eq_nil_iff.1 chars]
    show IsSegmentation "" []
    constructor <;> simp
  | cons c rest =>
    obtain ⟨before, pieces, small, capital, rfl⟩ := exists_pieces rest
    rw [splitSegments_pieces chars small capital]
    constructor
    · apply String.toList_injective
      rw [chars, String.join_cons, String.toList_append, String.toList_join, List.flatMap_map]
      simp
    · rw [List.forall_mem_cons, List.forall_mem_map]
      simp only [ne_eq, String.ofList_eq_empty_iff]
      refine ⟨List.cons_ne_nil c before, fun piece mem => ?_⟩
      obtain ⟨d, rest, rfl, -, -⟩ := capital piece mem
      exact List.cons_ne_nil d rest
    · rw [List.tail_cons, List.forall_mem_map]
      intro piece mem
      obtain ⟨d, rest, rfl, upper, -⟩ := capital piece mem
      exact ⟨d, rest, String.toList_ofList, upper⟩
    · rw [List.forall_mem_cons, List.forall_mem_map]
      simp only [String.toList_ofList]
      refine ⟨small, fun piece mem => ?_⟩
      obtain ⟨d, rest, rfl, -, small⟩ := capital piece mem
      exact small

/-- **The segments of a name** are its one segmentation. The empty name has none, and another name has one more than
upper-case characters after its first character. -/
theorem splitSegments_unique (name : String) :
    (∀ pieces : List String, IsSegmentation name pieces ↔ pieces = splitSegments name) ∧
    splitSegments "" = [] ∧
    (name ≠ "" → (splitSegments name).length = 1 + name.toList.tail.countP isUpper) := by
  refine ⟨fun pieces => ⟨IsSegmentation.eq_splitSegments, ?_⟩, rfl, ?_⟩
  · rintro rfl
    exact isSegmentation_splitSegments name
  · intro some
    obtain ⟨c, rest, chars⟩ := List.exists_cons_of_ne_nil fun none => some (String.toList_eq_nil_iff.1 none)
    rw [splitSegments, chars, List.length_map, segments, length_cut, List.tail_cons]

/-- A name that begins with an upper-case character and ends in two, some of them not in ASCII. -/
theorem splitSegments_unique_umlauts :
    "ÄußerungÜberID" ≠ "" ∧ IsSegmentation "ÄußerungÜberID" ["Äußerung", "Über", "I", "D"] ∧
    (splitSegments "ÄußerungÜberID").length = 1 + 3 := by
  have some : "ÄußerungÜberID" ≠ "" := by decide
  obtain ⟨unique, -, length⟩ := splitSegments_unique "ÄußerungÜberID"
  have count : "ÄußerungÜberID".toList.tail.countP isUpper = 3 := by decide +kernel
  have split : ["Äußerung", "Über", "I", "D"] = splitSegments "ÄußerungÜberID" := by decide +kernel
  rw [count] at length
  exact ⟨some, (unique _).2 split, length some⟩

/-! ## Property case -/

theorem toPropertyCase_cons (c : Char) (rest : List Char) :
    toPropertyCase (String.ofList (c :: rest)) = String.ofList (upper c ++ rest) := by
  rw [toPropertyCase, String.toList_ofList, propertyCase_eq_capitalize, capitalize]

/-- A segment that begins with an upper-case character is capitalized already. -/
theorem capitalize_of_isUpper {c : Char} (upper : isUpper c = true) (rest : List Char) :
    capitalize (c :: rest) = c :: rest := by
  rw [capitalize, upper_of_isUpper upper, List.singleton_append]

theorem toPropertyCase_idem (name : String) : toPropertyCase (toPropertyCase name) = toPropertyCase name := by
  cases chars : name.toList with
  | nil =>
    rw [String.toList_eq_nil_iff.1 chars]
    rfl
  | cons c rest =>
    obtain ⟨first, more, mapped⟩ := List.exists_cons_of_ne_nil (upper_ne_nil c)
    have once : toPropertyCase name = String.ofList (first :: (more ++ rest)) := by
      rw [← String.ofList_toList (s := name), chars, toPropertyCase_cons, mapped, List.cons_append]
    rw [once, toPropertyCase_cons, upper_first mapped, List.singleton_append]

/-- **A name in property case** has its first character in upper case and is otherwise as it was, all segments but the
first being capitalized already. A second time nothing changes, and a name stays as it is exactly if its first character
is its own upper-case mapping. -/
theorem toPropertyCase_first :
    toPropertyCase "" = "" ∧
    (∀ (c : Char) (rest : List Char),
      toPropertyCase (String.ofList (c :: rest)) = String.ofList (upper c ++ rest) ∧
      (toPropertyCase (String.ofList (c :: rest)) = String.ofList (c :: rest) ↔ upper c = [c])) ∧
    ∀ name : String,
      (∀ piece ∈ (splitSegments name).tail, capitalize piece.toList = piece.toList) ∧
      toPropertyCase (toPropertyCase name) = toPropertyCase name := by
  refine ⟨rfl, fun c rest => ⟨toPropertyCase_cons c rest, ?_⟩, fun name => ⟨?_, toPropertyCase_idem name⟩⟩
  · rw [toPropertyCase_cons, String.ofList_inj, ← List.singleton_append (x := c), List.append_left_inj]
  · intro piece mem
    obtain ⟨c, rest, chars, upper⟩ := (isSegmentation_splitSegments name).upper piece mem
    rw [chars, capitalize_of_isUpper upper]

/-- The mapping of an n after an apostrophe begins with a character that is not in upper case. -/
theorem toPropertyCase_first_apostrophe :
    "Id" ∈ (splitSegments "ŉaId").tail ∧ capitalize "Id".toList = "Id".toList ∧
    toPropertyCase "ŉaId" = "ʼNaId" ∧ toPropertyCase "ʼNaId" = "ʼNaId" ∧ isUpper 'ʼ' = false := by
  have mem : "Id" ∈ (splitSegments "ŉaId").tail := by decide +kernel
  obtain ⟨-, first, every⟩ := toPropertyCase_first
  have mapped : upper 'ŉ' = ['ʼ', 'N'] := by decide +kernel
  have once : toPropertyCase "ŉaId" = "ʼNaId" := by
    have h := (first 'ŉ' ['a', 'I', 'd']).1
    rw [mapped] at h
    exact h
  have again := (every "ŉaId").2
  rw [once] at again
  exact ⟨mem, (every "ŉaId").1 "Id" mem, once, again, by decide +kernel⟩

end TypeSketch.Name
