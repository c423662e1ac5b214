import Mathlib.Data.List.Basic
import TypeSketch.Json.Pointer
import TypeSketch.Proofs.Numerals

/-!
# Writing pointers

* `Pointer.Step`, `Pointer.write` : a step from a value to a part of it, and the pointer of some steps;
* `unescape_escape` : a key is read as it was before it was escaped;
* `Pointer.steps?_write` : the steps of a pointer are read as they spell themselves;
* `Pointer.WellFormed`, `WellFormed.exists_encode` : the texts that are the pointers of some steps.
-/

namespace TypeSketch.Json

/-! ## Steps -/

/-- A step from a value to a part of it. -/
inductive Pointer.Step where
  | key (k : String)
  | index (n : Nat)
deriving DecidableEq, Repr

namespace Pointer

/-- A character of a key as it is written in a pointer. -/
def escape (c : Char) : List Char :=
  if c = '~' then ['~', '0'] else if c = '/' then ['~', '1'] else [c]

namespace Step

/-- A step as it is written in a pointer, after its slash. -/
def token : Step → List Char
  | .key k => k.toList.flatMap escape
  | .index n => Nat.toDigits 10 n

/-- The text that is read for a step. A key and an index may have the same. -/
def spelling : Step → String
  | .key k => k
  | .index n => toString n

end Step

/-- The pointer of a path. -/
def write (path : List Step) : String := String.ofList (path.flatMap fun step => '/' :: step.token)

/-! ## Escapes -/

variable {digit c d : Char} {s rest : List Char}

theorem unescapeOne_of_ne (other : d ≠ '~') (rest : List Char) :
    unescapeOne digit c (d :: rest) = d :: unescapeOne digit c rest := by
  rw [unescapeOne]
  · exact fun tilde _ => other tilde
  · exact fun _ _ tilde _ => other tilde

theorem unescapeOne_tilde (rest : List Char) :
    unescapeOne digit c ('~' :: digit :: rest) = c :: unescapeOne digit c rest := by
  rw [unescapeOne, if_pos rfl]

theorem unescapeOne_other (other : d ≠ digit) (plain : d ≠ '~') (rest : List Char) :
    unescapeOne digit c ('~' :: d :: rest) = '~' :: d :: unescapeOne digit c rest := by
  rw [unescapeOne, if_neg other, unescapeOne_of_ne plain]

/-- Slashes are read first, and the tildes that escape tildes are still there afterwards. -/
theorem unescapeOne_slash (s : List Char) :
    unescapeOne '1' '/' (s.flatMap escape) = s.flatMap fun c => if c = '~' then ['~', '0'] else [c] := by
  induction s with
  | nil => rfl
  | cons c s ih =>
    rw [List.flatMap_cons, List.flatMap_cons, ← ih, escape]
    by_cases tilde : c = '~'
    · rw [if_pos tilde, if_pos tilde]
      exact unescapeOne_other (by decide) (by decide) _
    · rw [if_neg tilde, if_neg tilde]
      by_cases slash : c = '/'
      · rw [if_pos slash, slash]
        exact unescapeOne_tilde _
      · rw [if_neg slash]
        exact unescapeOne_of_ne tilde _

theorem unescapeOne_zero (s : List Char) :
    unescapeOne '0' '~' (s.flatMap fun c => if c = '~' then ['~', '0'] else [c]) = s := by
  induction s with
  | nil => rfl
  | cons c s ih =>
    rw [List.flatMap_cons]
    by_cases tilde : c = '~'
    · rw [if_pos tilde, tilde]
      exact (unescapeOne_tilde _).trans (congrArg _ ih)
    · rw [if_neg tilde]
      exact (unescapeOne_of_ne tilde _).trans (congrArg _ ih)

/-- A key is read as it was before it was escaped. -/
theorem unescape_escape (key : String) : unescape (key.toList.flatMap escape) = key := by
  rw [unescape, unescapeOne_slash, unescapeOne_zero, String.ofList_toList]

theorem slash_notMem_escape (s : List Char) : '/' ∉ s.flatMap escape := by
  intro mem
  obtain ⟨c, -, mem⟩ := List.mem_flatMap.1 mem
  rw [escape] at mem
  split at mem
  · exact absurd mem (by decide)
  · split at mem
    · exact absurd mem (by decide)
    · next slash => exact slash (List.mem_singleton.1 mem).symm

/-- There is nothing to escape in digits. -/
theorem flatMap_escape_digits {digits : List Char} (all : AllDigits digits) : digits.flatMap escape = digits := by
  have plain : ∀ c ∈ digits, escape c = [c] := by
    intro c mem
    have digit := all c mem
    rw [escape, if_neg (by rintro rfl; cases digit), if_neg (by rintro rfl; cases digit)]
  rw [List.flatMap_congr plain, List.flatMap_singleton']

theorem Step.token_eq (step : Step) : step.token = step.spelling.toList.flatMap escape := by
  cases step with
  | key k => rfl
  | index n =>
    rw [Step.token, Step.spelling, Nat.toString_eq_ofList_toDigits, String.toList_ofList,
      flatMap_escape_digits (allDigits_toDigits n)]

/-! ## Steps of a pointer -/

theorem piecesFrom_of_notMem {separator : Char} (none : separator ∉ s) (piece : List Char) :
    Text.piecesFrom separator piece s = [piece.reverse ++ s] := by
  induction s generalizing piece with
  | nil => rw [Text.piecesFrom, List.append_nil]
  | cons c s ih =>
    rw [List.mem_cons, not_or] at none
    rw [Text.piecesFrom, if_neg (Ne.symm none.1), ih none.2, List.reverse_cons, List.append_assoc,
      List.singleton_append]

theorem piecesFrom_append {separator : Char} (none : separator ∉ s) (piece rest : List Char) :
    Text.piecesFrom separator piece (s ++ separator :: rest) =
      (piece.reverse ++ s) :: Text.pieces separator rest := by
  induction s generalizing piece with
  | nil => rw [List.nil_append, Text.piecesFrom, if_pos rfl, List.append_nil, Text.pieces]
  | cons c s ih =>
    rw [List.mem_cons, not_or] at none
    rw [List.cons_append, Text.piecesFrom, if_neg (Ne.symm none.1), ih none.2, List.reverse_cons, List.append_assoc,
      List.singleton_append]

/-- Some texts as the steps of a pointer. -/
def encode (spellings : List String) : List Char := spellings.flatMap fun s => '/' :: s.toList.flatMap escape

theorem pieces_encode (first : String) (spellings : List String) :
    Text.pieces '/' (first.toList.flatMap escape ++ encode spellings) =
      (first :: spellings).map fun s => s.toList.flatMap escape := by
  induction spellings generalizing first with
  | nil =>
    rw [encode, List.flatMap_nil, List.append_nil]
    exact piecesFrom_of_notMem (slash_notMem_escape _) []
  | cons next spellings ih =>
    have split := piecesFrom_append (slash_notMem_escape first.toList) []
      (next.toList.flatMap escape ++ encode spellings)
    rw [ih] at split
    exact split

theorem steps?_encode (spellings : List String) : steps? (String.ofList (encode spellings)) = some spellings := by
  cases spellings with
  | nil => rfl
  | cons first rest =>
    rw [steps?, String.toList_ofList, encode, List.flatMap_cons, List.cons_append]
    dsimp only
    rw [if_pos rfl]
    refine (congrArg (fun pieces => some (pieces.map unescape)) (pieces_encode first rest)).trans ?_
    rw [List.map_map]
    exact congrArg some ((List.map_congr_left fun s _ => unescape_escape s).trans (List.map_id _))

theorem write_eq (path : List Step) : write path = String.ofList (encode (path.map Step.spelling)) := by
  rw [write, encode, List.flatMap_map]
  simp only [Step.token_eq]

/-- The steps of the pointer of a path are read as the path spells them. -/
theorem steps?_write (path : List Step) : steps? (write path) = some (path.map Step.spelling) := by
  rw [write_eq, steps?_encode]

/-! ## Well-formed pointers -/

/-- A pointer to a part of a value: it starts with a slash, and in it a tilde is always followed by a
zero or a one. -/
structure WellFormed (pointer : String) : Prop where
  slash : ∃ rest, pointer.toList = '/' :: rest
  tildes : ∀ before after, pointer.toList = before ++ '~' :: after →
    ∃ digit rest, after = digit :: rest ∧ (digit = '0' ∨ digit = '1')

/-- A text in which tildes escape is a text with its escapes, up to the end or a slash. -/
theorem exists_spellings {s : List Char}
    (tildes : ∀ before after, s = before ++ '~' :: after →
      ∃ digit rest, after = digit :: rest ∧ (digit = '0' ∨ digit = '1')) :
    ∃ (key : List Char) (spellings : List String), s = key.flatMap escape ++ encode spellings := by
  -- By induction on the length, since an escape is two characters.
  induction n : s.length using Nat.strongRecOn generalizing s with
  | ind n ih =>
    subst n
    cases s with
    | nil => exact ⟨[], [], rfl⟩
    | cons c rest =>
      have later (t u : List Char) (split : c :: rest = u ++ t) (shorter : t.length < (c :: rest).length) :
          ∃ (key : List Char) (spellings : List String), t = key.flatMap escape ++ encode spellings := by
        refine ih t.length shorter (fun before after e => ?_) rfl
        refine tildes (u ++ before) after ?_
        rw [split, e, List.append_assoc]
      by_cases tilde : c = '~'
      · subst tilde
        obtain ⟨digit, rest, rfl, digits⟩ := tildes [] rest rfl
        obtain ⟨key, spellings, rfl⟩ := later rest ['~', digit] rfl (by simp only [List.length_cons]; omega)
        rcases digits with rfl | rfl
        · exact ⟨'~' :: key, spellings, rfl⟩
        · exact ⟨'/' :: key, spellings, rfl⟩
      · obtain ⟨key, spellings, rfl⟩ := later rest [c] rfl (by simp)
        by_cases slash : c = '/'
        · subst slash
          refine ⟨[], String.ofList key :: spellings, ?_⟩
          rw [List.flatMap_nil, List.nil_append, encode, encode, List.flatMap_cons, String.toList_ofList]
          rfl
        · refine ⟨c :: key, spellings, ?_⟩
          rw [List.flatMap_cons, escape, if_neg tilde, if_neg slash]
          rfl

/-- A well-formed pointer is written as its steps are. -/
theorem WellFormed.exists_encode {pointer : String} (h : WellFormed pointer) :
    ∃ spellings, pointer = String.ofList (encode spellings) := by
  obtain ⟨key, spellings, split⟩ := exists_spellings h.tildes
  obtain ⟨rest, slash⟩ := h.slash
  cases key with
  | nil => exact ⟨spellings, by rw [← String.ofList_toList (s := pointer), split]; rfl⟩
  | cons c key =>
    -- A character of a step never starts with a slash.
    rw [split] at slash
    exfalso
    have mem : '/' ∈ (c :: key).flatMap escape := by
      obtain ⟨d, more, e⟩ : ∃ d more, escape c = d :: more := by
        unfold escape
        split
        · exact ⟨_, _, rfl⟩
        · split <;> exact ⟨_, _, rfl⟩
      rw [List.flatMap_cons, e] at slash ⊢
      rw [(List.cons.inj slash).1]
      exact List.mem_cons_self
    exact slash_notMem_escape _ mem

end Pointer

end TypeSketch.Json
