import Mathlib.Data.List.Forall2
import TypeSketch.Text.Line
import TypeSketch.Text.White

/-!
# Texts on lines

* `EndsLine` : the two ends of a line;
* `OnLines` : a text that has some texts on its lines, and blank lines anywhere between them;
* `Returned` : a text as its line holds it, which may lack a carriage return at its end;
* `shown_lines` : the lines of such a text that are not blank are those texts, with their numbers.
-/

namespace TypeSketch.Text

/-- What can stand at the end of a line. -/
def EndsLine (ending : List Char) : Prop := ending = ['\n'] ∨ ending = ['\r', '\n']

/-- A text has some texts on its lines, the first line having the number `n`. The lines between them are
blank, and the last line may have no end. -/
inductive OnLines : Nat → List (Nat × String) → List Char → Prop
  | lastBlank {n : Nat} {blank : List Char} (line : '\n' ∉ blank) (white : isWhiteOnly blank = true) :
    OnLines n [] blank
  | lastText {n : Nat} {text : String} (line : '\n' ∉ text.toList) (shown : isWhiteOnly text.toList = false) :
    OnLines n [(n, text)] text.toList
  | blank {n : Nat} {blank ending s : List Char} {texts : List (Nat × String)} (line : '\n' ∉ blank)
      (white : isWhiteOnly blank = true) (ends : EndsLine ending) (rest : OnLines (n + 1) texts s) :
    OnLines n texts (blank ++ ending ++ s)
  | text {n : Nat} {text : String} {ending s : List Char} {texts : List (Nat × String)} (line : '\n' ∉ text.toList)
      (shown : isWhiteOnly text.toList = false) (ends : EndsLine ending) (rest : OnLines (n + 1) texts s) :
    OnLines n ((n, text) :: texts) (text.toList ++ ending ++ s)

/-- A line holds a text, perhaps without the carriage return at its end. -/
def Returned (line text : List Char) : Prop := text = line ∨ text = line ++ ['\r']

/-! ## Lines -/

theorem linesFrom_append {line : List Char} (whole : '\n' ∉ line) (read s : List Char) :
    linesFrom read (line ++ '\n' :: s) = withoutReturn (read.reverse ++ line) :: linesFrom [] s := by
  induction line generalizing read with
  | nil => simp [linesFrom]
  | cons c line ih =>
    rw [List.mem_cons, not_or] at whole
    rw [List.cons_append, linesFrom, if_neg (Ne.symm whole.1), ih whole.2]
    simp

theorem linesFrom_last {line : List Char} (whole : '\n' ∉ line) (read : List Char) :
    linesFrom read line = if read.reverse ++ line = [] then [] else [read.reverse ++ line] := by
  induction line generalizing read with
  | nil => simp [linesFrom]
  | cons c line ih =>
    rw [List.mem_cons, not_or] at whole
    rw [linesFrom, if_neg (Ne.symm whole.1), ih whole.2]
    simp

theorem returned_withoutReturn (line : List Char) : Returned (withoutReturn line) line := by
  unfold Returned withoutReturn
  split
  · next last =>
    obtain ⟨before, rfl⟩ := List.getLast?_eq_some_iff.1 last
    right
    rw [List.dropLast_concat]
  · exact .inl rfl

/-- The first line holds what stands before its end. -/
theorem lines_append {line ending s : List Char} (whole : '\n' ∉ line) (ends : EndsLine ending) :
    ∃ first, Returned first line ∧ lines (line ++ ending ++ s) = first :: lines s := by
  rcases ends with rfl | rfl
  · refine ⟨withoutReturn line, returned_withoutReturn line, ?_⟩
    rw [List.append_assoc]
    exact linesFrom_append whole [] s
  · refine ⟨line, .inl rfl, ?_⟩
    have whole' : '\n' ∉ line ++ ['\r'] := by simpa using whole
    have split : line ++ ['\r', '\n'] ++ s = (line ++ ['\r']) ++ '\n' :: s := by simp
    rw [lines, split, linesFrom_append whole' [] s]
    simp [withoutReturn, lines]

/-- A line is blank just if what it holds is. -/
theorem Returned.isWhiteOnly_eq {line text : List Char} (h : Returned line text) :
    isWhiteOnly line = isWhiteOnly text := by
  have white : isWhite '\r' = true := by decide
  rcases h with rfl | rfl <;> simp [isWhiteOnly, white]

/-- **The lines that are not blank** are the texts, with their numbers. -/
theorem shown_lines {n : Nat} {texts : List (Nat × String)} {s : List Char} (h : OnLines n texts s) :
    List.Forall₂ (fun line text => line.1 = text.1 ∧ Returned line.2 text.2.toList)
      ((numberedFrom n (lines s)).filter fun line => !isWhiteOnly line.2) texts := by
  induction h with
  | @lastBlank n blank line white =>
    rw [lines, linesFrom_last line]
    split <;> simp_all [numberedFrom]
  | @lastText n text line shown =>
    have some : ([] : List Char).reverse ++ text.toList ≠ [] := by
      intro none
      rw [List.reverse_nil, List.nil_append] at none
      rw [none] at shown
      cases shown
    rw [lines, linesFrom_last line, if_neg some]
    simp [numberedFrom, shown, Returned]
  | blank line white ends _ ih =>
    obtain ⟨first, held, split⟩ := lines_append line ends
    rw [split, numberedFrom, List.filter_cons_of_neg (by rw [held.isWhiteOnly_eq, white]; decide)]
    exact ih
  | text line shown ends _ ih =>
    obtain ⟨first, held, split⟩ := lines_append line ends
    rw [split, numberedFrom, List.filter_cons_of_pos (by rw [held.isWhiteOnly_eq, shown]; rfl)]
    exact .cons ⟨rfl, held⟩ ih

end TypeSketch.Text
