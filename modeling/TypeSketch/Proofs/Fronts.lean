import Mathlib.Data.List.TakeWhile
import TypeSketch.Proofs.Trailing
import TypeSketch.Proofs.Written

/-!
# What is read whatever follows

A string tells by itself where it ends, and so do a bracket and a word. What is read of them stays the same
when something else follows. Only a number does not: another digit would make it another number.

* `Stays` : a step from the front of a text to its rest that is the same step before any other rest;
* `Stays.trans` : two such steps, one after the other;
* `stays_next`, `stays_readText` : a character after blanks, and the text of a string;
* `stays_items`, `stays_pairs` : the items and the pairs of a container whose values are such steps.
-/

namespace TypeSketch.Json

variable {α : Type} {Step After : List Char → List Char → Prop} {s t rest : List Char}

/-! ## Steps -/

/-- A step from a text to its rest that takes the front of the text, and takes it before any other rest. -/
def Stays (Step : List Char → List Char → Prop) (s rest : List Char) : Prop :=
  ∃ front, front ≠ [] ∧ s = front ++ rest ∧ ∀ other, Step (front ++ other) other

theorem Stays.step (h : Stays Step s rest) : Step s rest := by
  obtain ⟨front, -, rfl, stays⟩ := h
  exact stays rest

theorem Stays.mono (h : Stays Step s rest) (imp : ∀ s rest, Step s rest → After s rest) : Stays After s rest := by
  obtain ⟨front, some, split, stays⟩ := h
  exact ⟨front, some, split, fun other => imp _ _ (stays other)⟩

theorem Stays.trans (h : Stays Step s t) (h' : Stays After t rest) :
    Stays (fun s rest => ∃ t, Step s t ∧ After t rest) s rest := by
  obtain ⟨front, some, rfl, stays⟩ := h
  obtain ⟨front', -, rfl, stays'⟩ := h'
  refine ⟨front ++ front', List.append_ne_nil_of_left_ne_nil some _, (List.append_assoc ..).symm, fun other => ?_⟩
  rw [List.append_assoc]
  exact ⟨front' ++ other, stays _, stays' other⟩

/-- A step that takes some characters. -/
theorem stays_cons (c : Char) (front : List Char) (stays : ∀ other, Step (c :: (front ++ other)) other) :
    Stays Step (c :: (front ++ rest)) rest :=
  ⟨c :: front, List.cons_ne_nil _ _, rfl, stays⟩

/-! ## Blanks -/

/-- The blanks before a character are skipped whatever follows it. -/
theorem exists_blanks {c : Char} (h : skipBlanks s = c :: t) :
    ∃ blanks, s = blanks ++ c :: t ∧ ∀ other, skipBlanks (blanks ++ c :: other) = c :: other := by
  have shown : isBlank c = false := by
    have head := List.head?_dropWhile_not isBlank s
    rw [← skipBlanks, h] at head
    simpa using head
  refine ⟨s.takeWhile isBlank, ?_, fun other => ?_⟩
  · rw [← h, skipBlanks, List.takeWhile_append_dropWhile]
  · have blanks : ∀ b ∈ s.takeWhile isBlank, isBlank b = true := fun b mem => List.mem_takeWhile_imp mem
    rw [skipBlanks, List.dropWhile_append_of_pos blanks, List.dropWhile_cons_of_neg (by rw [shown]; decide)]

theorem stays_next {c : Char} (h : Next c s rest) : Stays (Next c) s rest := by
  obtain ⟨blanks, rfl, skip⟩ := exists_blanks h
  refine ⟨blanks ++ [c], by simp, by simp, fun other => ?_⟩
  rw [List.append_assoc]
  exact skip other

/-- A word after blanks. -/
theorem stays_word {c : Char} {word : List Char} (h : skipBlanks s = c :: (word ++ rest)) :
    Stays (fun s rest => skipBlanks s = c :: (word ++ rest)) s rest := by
  obtain ⟨blanks, rfl, skip⟩ := exists_blanks h
  refine ⟨blanks ++ c :: word, by simp, by simp, fun other => ?_⟩
  rw [List.append_assoc]
  exact skip (word ++ other)

/-- The place of the next item or member, if something stands there. -/
theorem exists_follows {first : Bool} {c : Char} (h : Follows first s (c :: t)) :
    ∃ before, s = before ++ c :: t ∧ ∀ other, Follows first (before ++ c :: other) (c :: other) := by
  cases h with
  | first h =>
    obtain ⟨blanks, rfl, skip⟩ := exists_blanks h
    exact ⟨blanks, rfl, fun other => .first (skip other)⟩
  | comma h ht =>
    obtain ⟨front, -, rfl, comma⟩ := stays_next h
    obtain ⟨blanks, rfl, skip⟩ := exists_blanks ht
    refine ⟨front ++ blanks, (List.append_assoc ..).symm, fun other => ?_⟩
    rw [List.append_assoc]
    exact .comma (comma _) (skip other)

/-- The opening quote of the next key. -/
theorem stays_follows {first : Bool} {c : Char} (h : Follows first s (c :: rest)) :
    Stays (fun s rest => Follows first s (c :: rest)) s rest := by
  obtain ⟨before, rfl, follows⟩ := exists_follows h
  refine ⟨before ++ [c], by simp, by simp, fun other => ?_⟩
  rw [List.append_assoc]
  exact follows other

/-! ## Strings -/

theorem stays_readUnit {unit : Nat} (h : readUnit s = .ok (unit, rest)) :
    Stays (fun s rest => readUnit s = .ok (unit, rest)) s rest := by
  have result := congrArg Except.toOption h
  match s with
  | [] | [_] | [_, _] | [_, _, _] =>
    rw [readUnit_short (by simp)] at result
    cases result
  | x :: y :: z :: w :: after =>
    rw [readUnit_four] at result
    obtain ⟨unit', digits, e⟩ := Option.map_eq_some_iff.1 result
    obtain ⟨rfl, rfl⟩ := Prod.mk.inj e
    refine stays_cons x [y, z, w] fun other => ?_
    have longer := readUnit_four x y z w other
    rw [digits] at longer
    cases read : readUnit (x :: y :: z :: w :: other) with
    | error fault => rw [read] at longer; cases longer
    | ok taken => rw [read] at longer; exact read.trans (congrArg Except.ok (Option.some.inj longer))

theorem stays_readLowUnit {high : Nat} {c : Char} (h : readLowUnit high s = .ok (c, rest)) :
    Stays (fun s rest => readLowUnit high s = .ok (c, rest)) s rest := by
  unfold readLowUnit at h
  split at h
  · cases h
  · split at h
    · cases h
    · next after =>
      split at h
      · cases h
      · next low after' unit =>
        split at h
        · next isLow =>
          obtain ⟨rfl, rfl⟩ := Prod.mk.inj (Except.ok.inj h)
          obtain ⟨front, -, rfl, stays⟩ := stays_readUnit unit
          refine stays_cons '\\' ('u' :: front) fun other => ?_
          simp only [readLowUnit, List.cons_append, stays other, isLow, if_true]
        · cases h
    · cases h
  · cases h

theorem stays_readEscape {c : Char} (h : readEscape s = .ok (c, rest)) :
    Stays (fun s rest => readEscape s = .ok (c, rest)) s rest := by
  unfold readEscape at h
  split at h
  · cases h
  · next after =>
    split at h
    · cases h
    · next unit after' read =>
      -- Whether the unit is half of a pair decides what else is read.
      have long := stays_readUnit read
      split at h
      · cases h
      · next notLow =>
        split at h
        · next isHigh =>
          obtain ⟨front, -, rfl, stays⟩ := long.trans (stays_readLowUnit h)
          refine stays_cons 'u' front fun other => ?_
          obtain ⟨t, read, low⟩ := stays other
          simp only [readEscape, read, notLow, isHigh, if_true]
          exact low
        · next notHigh =>
          obtain ⟨rfl, rfl⟩ := Prod.mk.inj (Except.ok.inj h)
          obtain ⟨front, -, rfl, stays⟩ := long
          refine stays_cons 'u' front fun other => ?_
          simp only [readEscape, stays other, notLow, notHigh]
          rfl
  · next d after notUnit =>
    split at h
    · next e short =>
      obtain ⟨rfl, rfl⟩ := Prod.mk.inj (Except.ok.inj h)
      refine stays_cons d [] fun other => ?_
      unfold readEscape
      split
      · next none => cases none
      · next unit => exact absurd (List.cons.inj unit).1 (by simpa using notUnit)
      · next same =>
        obtain ⟨rfl, rfl⟩ := List.cons.inj same
        rw [short]
        rfl
    · cases h

theorem stays_readText {read : List Char} {text : String} (h : readText read s = .ok (text, rest)) :
    Stays (fun s rest => readText read s = .ok (text, rest)) s rest := by
  fun_induction readText read s with
  | case1 => cases h
  | case2 read after =>
    obtain ⟨rfl, rfl⟩ := Prod.mk.inj (Except.ok.inj h)
    refine stays_cons '"' [] fun other => ?_
    rw [readText, if_pos rfl]
    rfl
  | case3 => cases h
  | case4 read after e after' taken _ ih =>
    obtain ⟨front, -, rfl, stays⟩ := (stays_readEscape taken).trans (ih h)
    refine stays_cons '\\' front fun other => ?_
    obtain ⟨t, escape, text⟩ := stays other
    rw [readText_escape escape]
    exact text
  | case5 => cases h
  | case6 read c after notQuote notEscape notControl ih =>
    obtain ⟨front, -, rfl, stays⟩ := ih h
    refine stays_cons c front fun other => ?_
    rw [readText, if_neg notQuote, if_neg notEscape, if_neg notControl]
    exact stays other

/-! ## Containers -/

variable {Item : List Char → α → List Char → Prop} {first : Bool}

/-- Items are read whatever follows the closing bracket, if every item is read whatever follows it. -/
theorem stays_items {items : List α}
    (h : Items (fun s a rest => Stays (fun s rest => Item s a rest) s rest) first s items rest) :
    Stays (fun s rest => Items Item first s items rest) s rest := by
  induction h with
  | close h => exact (stays_next h).mono fun s rest ends => .close ends
  | @item first s t u rest a items before here _ ih =>
    obtain ⟨front, some, rfl, taken⟩ := here
    obtain ⟨c, front, rfl⟩ := List.exists_cons_of_ne_nil some
    obtain ⟨gap, rfl, follows⟩ := exists_follows before
    have one : Stays (fun s u => ∃ t, Follows first s t ∧ Item t a u) (gap ++ c :: (front ++ u)) u := by
      refine ⟨gap ++ c :: front, by simp, by simp, fun other => ?_⟩
      rw [List.append_assoc]
      exact ⟨_, follows (front ++ other), taken other⟩
    refine (one.trans ih).mono fun s rest step => ?_
    obtain ⟨u, ⟨t, follows, item⟩, others⟩ := step
    exact .item follows item others

/-- Pairs are read whatever follows the closing brace, if every value is read whatever follows it. -/
theorem stays_pairs {pairs : List (String × α)}
    (h : Pairs (fun s a rest => Stays (fun s rest => Item s a rest) s rest) first s pairs rest) :
    Stays (fun s rest => Pairs Item first s pairs rest) s rest := by
  induction h with
  | close h => exact (stays_next h).mono fun s rest ends => .close ends
  | pair before name colon here _ ih =>
    have steps := (stays_follows before).trans ((stays_readText name).trans ((stays_next colon).trans (here.trans ih)))
    refine steps.mono fun s rest step => ?_
    obtain ⟨t, follows, u, key, w, mark, x, value, others⟩ := step
    exact .pair follows key mark value others

/-! ## Values -/

variable {depth : Nat}

theorem writes_of_plain {v : Value} (h : ValueAt none s v rest) : Writes depth s v rest := by
  cases depth with
  | zero => exact h
  | succ depth => exact .plain h

theorem stays_null (h : skipBlanks s = 'n' :: (['u', 'l', 'l'] ++ rest)) :
    Stays (fun s rest => Writes depth s .null rest) s rest :=
  (stays_word h).mono fun _ _ word => writes_of_plain (.null word)

theorem stays_string {text : String} (quote : Next '"' s t) (read : readText [] t = .ok (text, rest)) :
    Stays (fun s rest => Writes depth s (.string text) rest) s rest := by
  refine ((stays_next quote).trans (stays_readText read)).mono fun s rest step => ?_
  obtain ⟨t, quote, read⟩ := step
  exact writes_of_plain (.string quote read)

theorem stays_array {items : List Value} (bracket : Next '[' s t)
    (h : Items (fun s v rest => Stays (fun s rest => Writes depth s v rest) s rest) true t items rest) :
    Stays (fun s rest => Writes (depth + 1) s (.array items) rest) s rest := by
  refine ((stays_next bracket).trans (stays_items h)).mono fun s rest step => ?_
  obtain ⟨t, bracket, items⟩ := step
  exact .array bracket items

theorem stays_object {pairs : List (String × Value)} (brace : Next '\x7b' s t)
    (h : Pairs (fun s v rest => Stays (fun s rest => Writes depth s v rest) s rest) true t pairs rest) :
    Stays (fun s rest => Writes (depth + 1) s (.object pairs) rest) s rest := by
  refine ((stays_next brace).trans (stays_pairs h)).mono fun s rest step => ?_
  obtain ⟨t, brace, pairs⟩ := step
  exact .object brace pairs

end TypeSketch.Json
