import TypeSketch.Proofs.Numerals

/-!
# Literals

* `Literal` : the parts of a number literal after its sign, with its text and its decimal;
* `readNumber_literal` : a literal with a point or an exponent is read by scaling its decimal;
* `text_unique` : a literal is told from its text, whatever ends it;
* `Number.literal`, `write_eq` : the text of a number is its sign and a literal;
* `layoutLiteral_decimal` : the digits of a double are written so that they stand for the same decimal.
-/

namespace TypeSketch.Json

/-- The parts of a number literal after its sign: the digits before the point, those after it, of which
there are none without a point, and the exponent after its letter. -/
structure Literal where
  whole : List Char
  fraction : List Char
  scale : Option Int

namespace Literal

/-- The text of an exponent. -/
def scaleText : Option Int → List Char
  | none => []
  | some k => 'e' :: ((if k < 0 then ['-'] else ['+']) ++ Nat.toDigits 10 k.natAbs)

/-- The text from the point on. -/
def tailText (l : Literal) : List Char :=
  (if l.fraction = [] then [] else '.' :: l.fraction) ++ scaleText l.scale

/-- The text of a literal. -/
def text (l : Literal) : List Char := l.whole ++ l.tailText

/-- The decimal that a literal stands for: its digits without the point, at the power of ten of the last
one. -/
def decimal (l : Literal) : Decimal :=
  ⟨Nat.ofDigitChars 10 (l.whole ++ l.fraction) 0, l.scale.getD 0 - l.fraction.length⟩

/-- The digits are digits, and there is no zero too many in front. -/
structure WellFormed (l : Literal) : Prop where
  whole : WholePart l.whole
  fraction : AllDigits l.fraction

/-- A literal with a point or an exponent. -/
def IsReal (l : Literal) : Prop := l.fraction ≠ [] ∨ l.scale ≠ none

variable {l l' : Literal} {rest rest' : List Char}

/-! ## What follows the digits -/

theorem startsOther_scaleText (scale : Option Int) (ends : EndsNumber rest) :
    StartsOther (scaleText scale ++ rest) := by
  cases scale with
  | none => exact ends.startsOther
  | some k => exact startsOther_cons rfl _

theorem startsOther_tailText (l : Literal) (ends : EndsNumber rest) : StartsOther (l.tailText ++ rest) := by
  unfold tailText
  split
  · exact startsOther_scaleText l.scale ends
  · exact startsOther_cons rfl _

/-! ## Reading -/

variable {negative : Bool} {significand : Nat} {exponent : Int}

theorem readExponent_sign (k : Int) (small : k.natAbs < Nat.pow 2 31) (ends : EndsNumber rest) :
    readExponent negative significand exponent
        (((if k < 0 then ['-'] else ['+']) ++ Nat.toDigits 10 k.natAbs) ++ rest) =
      scaled negative significand (exponent + k) rest := by
  have value : Nat.ofDigitChars 10 (Nat.toDigits 10 k.natAbs) 0 = k.natAbs := Nat.ofDigitChars_ten_toDigits
  have gathered : gatherExponent 0 (Nat.toDigits 10 k.natAbs) = .ok k.natAbs := by
    rw [gatherExponent_eq (by rwa [value]), value]
  rw [List.append_assoc, readExponent_eq (by split <;> simp) Nat.toDigits_ne_nil (allDigits_toDigits _) ends.startsOther,
    gathered]
  dsimp only
  by_cases below : k < 0
  · have magnitude : exponent - (k.natAbs : Int) = exponent + k := by omega
    rw [if_pos below, if_pos rfl, magnitude]
  · have magnitude : exponent + (k.natAbs : Int) = exponent + k := by omega
    rw [if_neg below, if_neg (by decide), magnitude]

theorem readScale_scaleText (scale : Option Int) (small : (scale.getD 0).natAbs < Nat.pow 2 31)
    (ends : EndsNumber rest) :
    readScale negative significand exponent (scaleText scale ++ rest) =
      scaled negative significand (exponent + scale.getD 0) rest := by
  cases scale with
  | none => rw [scaleText, List.nil_append, readScale_end ends, Option.getD_none, Int.add_zero]
  | some k =>
    rw [scaleText, List.cons_append, readScale]
    exact readExponent_sign k small ends

/-- A literal with a point or an exponent is read by scaling its decimal. -/
theorem readNumber_literal (form : l.WellFormed) (real : l.IsReal) (fits : l.decimal.digits < Nat.pow 2 64)
    (small : (l.scale.getD 0).natAbs < Nat.pow 2 31) (ends : EndsNumber rest) :
    readNumber negative (l.text ++ rest) = scaled negative l.decimal.digits l.decimal.exponent rest := by
  rw [text, tailText, List.append_assoc, List.append_assoc]
  unfold decimal at fits ⊢
  by_cases point : l.fraction = []
  · obtain ⟨k, scale⟩ := Option.ne_none_iff_exists'.1 (real.resolve_left fun other => other point)
    rw [if_pos point, List.nil_append]
    rw [point, List.append_nil] at fits ⊢
    have read : readScale negative (Nat.ofDigitChars 10 l.whole 0) 0 (scaleText l.scale ++ rest) =
        scaled negative (Nat.ofDigitChars 10 l.whole 0) (0 + l.scale.getD 0) rest :=
      readScale_scaleText l.scale small ends
    rw [scale] at read ⊢
    rw [scaleText, List.cons_append] at read ⊢
    rw [readNumber_mark form.whole fits, read, List.length_nil]
    rw [Int.zero_add, Int.natCast_zero, Int.sub_zero]
  · rw [if_neg point, List.cons_append]
    rw [readNumber_point form.whole point form.fraction fits (startsOther_scaleText l.scale ends),
      readScale_scaleText l.scale small ends, Int.add_comm, Int.sub_eq_add_neg]

/-! ## Telling a literal from its text -/

theorem digits_unique {digits digits' : List Char} (h : AllDigits digits) (h' : AllDigits digits')
    (hr : StartsOther rest) (hr' : StartsOther rest') (e : digits ++ rest = digits' ++ rest') :
    digits = digits' ∧ rest = rest' := by
  have taken := congrArg (List.takeWhile Char.isDigit) e
  have left := congrArg (List.dropWhile Char.isDigit) e
  rw [takeWhile_digits h hr, takeWhile_digits h' hr'] at taken
  rw [dropWhile_digits h hr, dropWhile_digits h' hr'] at left
  exact ⟨taken, left⟩

theorem toDigits_unique {n n' : Nat} (hr : StartsOther rest) (hr' : StartsOther rest')
    (e : Nat.toDigits 10 n ++ rest = Nat.toDigits 10 n' ++ rest') : n = n' ∧ rest = rest' := by
  obtain ⟨digits, left⟩ := digits_unique (allDigits_toDigits n) (allDigits_toDigits n') hr hr' e
  have value := congrArg (Nat.ofDigitChars 10 · 0) digits
  rw [Nat.ofDigitChars_ten_toDigits, Nat.ofDigitChars_ten_toDigits] at value
  exact ⟨value, left⟩

theorem scaleText_unique {scale scale' : Option Int} (ends : EndsNumber rest) (ends' : EndsNumber rest')
    (e : scaleText scale ++ rest = scaleText scale' ++ rest') : scale = scale' ∧ rest = rest' := by
  cases scale with
  | none =>
    cases scale' with
    | none => exact ⟨rfl, e⟩
    | some k => exact absurd rfl (ends _ _ e).2.2.1
  | some k =>
    cases scale' with
    | none => exact absurd rfl (ends' _ _ e.symm).2.2.1
    | some k' =>
      rw [scaleText, scaleText, List.cons_append, List.cons_append, List.append_assoc, List.append_assoc,
        List.cons.injEq] at e
      have signs : (k < 0 ↔ k' < 0) ∧ Nat.toDigits 10 k.natAbs ++ rest = Nat.toDigits 10 k'.natAbs ++ rest' := by
        by_cases below : k < 0 <;> by_cases below' : k' < 0 <;>
          simp only [below, below', if_true, if_false, List.cons_append, List.nil_append, List.cons.injEq,
            true_and] at e
        · exact ⟨⟨fun _ => below', fun _ => below⟩, e⟩
        · exact absurd e.1 (by decide)
        · exact absurd e.1 (by decide)
        · exact ⟨⟨fun h => absurd h below, fun h => absurd h below'⟩, e⟩
      obtain ⟨magnitude, left⟩ := toDigits_unique ends.startsOther ends'.startsOther signs.2
      have value : k = k' := by
        have := signs.1
        omega
      exact ⟨congrArg some value, left⟩

theorem text_unique (form : l.WellFormed) (form' : l'.WellFormed) (ends : EndsNumber rest)
    (ends' : EndsNumber rest') (e : l.text ++ rest = l'.text ++ rest') : l = l' ∧ rest = rest' := by
  obtain ⟨whole, fraction, scale⟩ := l
  obtain ⟨whole', fraction', scale'⟩ := l'
  rw [text, text, List.append_assoc, List.append_assoc] at e
  obtain ⟨rfl, tails⟩ := digits_unique form.whole.all form'.whole.all (startsOther_tailText _ ends)
    (startsOther_tailText _ ends') e
  have noPoint {scale : Option Int} {rest t : List Char} (ends : EndsNumber rest)
      (e : scaleText scale ++ rest = '.' :: t) : False := by
    cases scale with
    | none => exact (ends _ _ e).2.1 rfl
    | some k => cases e
  rw [tailText, tailText] at tails
  dsimp only at tails
  by_cases point : fraction = [] <;> by_cases point' : fraction' = []
  · obtain rfl := point
    obtain rfl := point'
    rw [if_pos rfl] at tails
    obtain ⟨rfl, left⟩ := scaleText_unique ends ends' tails
    exact ⟨rfl, left⟩
  · rw [if_pos point, if_neg point', List.nil_append] at tails
    exact (noPoint ends tails).elim
  · rw [if_neg point, if_pos point', List.nil_append] at tails
    exact (noPoint ends' tails.symm).elim
  · rw [if_neg point, if_neg point'] at tails
    simp only [List.cons_append, List.append_assoc, List.cons.injEq, true_and] at tails
    obtain ⟨rfl, scales⟩ := digits_unique form.fraction form'.fraction (startsOther_scaleText _ ends)
      (startsOther_scaleText _ ends') tails
    obtain ⟨rfl, left⟩ := scaleText_unique ends ends' scales
    exact ⟨rfl, left⟩

end Literal

/-! ## Literals of numbers -/

/-- The literal of some digits with the first of them at `10 ^ lead`. -/
def layoutLiteral (digits : List Char) (lead : Int) : Literal :=
  if -5 ≤ lead ∧ lead ≤ 15 then
    if lead < 0 then ⟨['0'], List.replicate (lead.natAbs - 1) '0' ++ digits, none⟩
    else
      ⟨digits.take (lead.toNat + 1) ++ List.replicate (lead.toNat + 1 - digits.length) '0',
        if (digits.drop (lead.toNat + 1)).isEmpty then ['0'] else digits.drop (lead.toNat + 1), none⟩
  else ⟨digits.take 1, digits.drop 1, some lead⟩

section

variable {digits : List Char}

theorem write_doubleLayout (ne : digits ≠ []) (lead : Int) :
    doubleLayout.write digits lead = (layoutLiteral digits lead).text := by
  have range : (doubleLayout.least ≤ lead ∧ lead ≤ doubleLayout.greatest) ↔ (-5 ≤ lead ∧ lead ≤ 15) := Iff.rfl
  unfold Layout.write layoutLiteral
  by_cases inside : -5 ≤ lead ∧ lead ≤ 15
  · rw [if_pos (range.2 inside), if_pos inside]
    by_cases small : lead < 0
    · have point : List.replicate (lead.natAbs - 1) '0' ++ digits ≠ [] := List.append_ne_nil_of_right_ne_nil _ ne
      rw [if_pos small, if_pos small, Literal.text, Literal.tailText]
      dsimp only
      rw [if_neg point, Literal.scaleText, List.append_nil]
      rfl
    · rw [if_neg small, if_neg small, Literal.text, Literal.tailText]
      dsimp only
      by_cases whole : (digits.drop (lead.toNat + 1)).isEmpty = true
      · rw [if_pos whole, if_neg (List.cons_ne_nil _ _), Literal.scaleText, List.append_nil]
      · have point : digits.drop (lead.toNat + 1) ≠ [] := fun e => whole (by rw [e]; rfl)
        rw [if_neg whole, if_neg point, Literal.scaleText, List.append_nil]
  · rw [if_neg (mt range.1 inside), if_neg inside]
    have sign : (if lead < 0 then ['-'] else if doubleLayout.plusSign then ['+'] else []) =
        if lead < 0 then ['-'] else ['+'] := rfl
    rw [sign, Literal.text, Literal.tailText, Literal.scaleText]
    match digits, ne with
    | [_], _ => rfl
    | first :: second :: more, _ =>
      have point : (first :: second :: more).drop 1 ≠ [] := List.cons_ne_nil _ _
      rw [if_neg point]
      rfl

theorem layoutLiteral_wellFormed {c : Char} {t : List Char} (hc : c ≠ '0') (all : AllDigits (c :: t)) (lead : Int) :
    (layoutLiteral (c :: t) lead).WellFormed := by
  have zero : ('0' : Char).isDigit = true := rfl
  have zeros (n : Nat) : AllDigits (List.replicate n '0') := fun d h => by rw [List.eq_of_mem_replicate h]; rfl
  have appended {a b : List Char} (ha : AllDigits a) (hb : AllDigits b) : AllDigits (a ++ b) := by
    intro d h
    exact (List.mem_append.1 h).elim (ha d) (hb d)
  have some (n : Nat) : AllDigits ((c :: t).drop n) := fun d h => all d (List.mem_of_mem_drop h)
  have first (n : Nat) : AllDigits (c :: t.take n) :=
    fun d h => all d (List.mem_of_mem_take (i := n + 1) (l := c :: t) h)
  unfold layoutLiteral
  split
  · split
    · exact ⟨wholePart_zero, appended (zeros _) all⟩
    · refine ⟨wholePart_of_head hc (appended (first _) (zeros _)), ?_⟩
      dsimp only
      split
      · exact zeros 1
      · exact some _
  · exact ⟨wholePart_of_head hc (first 0), some 1⟩

theorem layoutLiteral_isReal (ne : digits ≠ []) (lead : Int) : (layoutLiteral digits lead).IsReal := by
  unfold layoutLiteral
  split
  · split
    · exact .inl (List.append_ne_nil_of_right_ne_nil _ ne)
    · refine .inl ?_
      dsimp only
      split
      · exact List.cons_ne_nil _ _
      · next point => exact fun e => point (by rw [e]; rfl)
  · exact .inr (Option.some_ne_none lead)

theorem ofDigitChars_zeros (k init : Nat) : Nat.ofDigitChars 10 (List.replicate k '0') init = Nat.pow 10 k * init :=
  Nat.ofDigitChars_replicate_zero

/-- Zeros after the point only move the digits. -/
theorem decimal_zeros_before (k : Nat) (digits : List Char) :
    Literal.decimal ⟨['0'], List.replicate k '0' ++ digits, none⟩ =
      ⟨Nat.ofDigitChars 10 digits 0, -(k + digits.length : Nat)⟩ := by
  have significand : Nat.ofDigitChars 10 (['0'] ++ (List.replicate k '0' ++ digits)) 0 = Nat.ofDigitChars 10 digits 0 := by
    rw [← List.append_assoc, Nat.ofDigitChars_append, ← List.replicate_one, List.replicate_append_replicate,
      ofDigitChars_zeros, Nat.mul_zero]
  rw [Literal.decimal]
  dsimp only
  rw [significand, List.length_append, List.length_replicate, Option.getD_none, Int.zero_sub]

/-- Zeros before the point and the one after it count among the digits. -/
theorem decimal_zeros_after (k : Nat) (digits : List Char) :
    Literal.decimal ⟨digits ++ List.replicate k '0', ['0'], none⟩ =
      ⟨Nat.ofDigitChars 10 digits 0 * Nat.pow 10 (k + 1), -1⟩ := by
  have significand : Nat.ofDigitChars 10 (digits ++ List.replicate k '0' ++ ['0']) 0 =
      Nat.ofDigitChars 10 digits 0 * Nat.pow 10 (k + 1) := by
    rw [List.append_assoc, ← List.replicate_one, List.replicate_append_replicate, Nat.ofDigitChars_append,
      ofDigitChars_zeros, Nat.mul_comm]
  rw [Literal.decimal]
  dsimp only
  rw [significand]
  rfl

/-- A point among the digits only moves them. -/
theorem decimal_split (k : Nat) (digits : List Char) (scale : Option Int) :
    Literal.decimal ⟨digits.take k, digits.drop k, scale⟩ =
      ⟨Nat.ofDigitChars 10 digits 0, scale.getD 0 - (digits.length - k : Nat)⟩ := by
  rw [Literal.decimal]
  dsimp only
  rw [List.take_append_drop, List.length_drop]

/-- The literal of a decimal's digits stands for the same decimal, or, where zeros are written before the
point, for one with the zeros among its digits. -/
theorem layoutLiteral_decimal (n : Nat) (e : Int) :
    (layoutLiteral (Nat.toDigits 10 n) (e + (Nat.toDigits 10 n).length - 1)).decimal =
      if 0 ≤ e ∧ e + (Nat.toDigits 10 n).length - 1 ≤ 15 then ⟨n * Nat.pow 10 (e.toNat + 1), -1⟩ else ⟨n, e⟩ := by
  have value : Nat.ofDigitChars 10 (Nat.toDigits 10 n) 0 = n := Nat.ofDigitChars_ten_toDigits
  have length_pos : 0 < (Nat.toDigits 10 n).length := Nat.length_toDigits_pos
  generalize Nat.toDigits 10 n = digits at *
  generalize hlead : e + (digits.length : Int) - 1 = lead
  unfold layoutLiteral
  by_cases inside : -5 ≤ lead ∧ lead ≤ 15
  · rw [if_pos inside]
    by_cases small : lead < 0
    · have exponent : -((lead.natAbs - 1 + digits.length : Nat) : Int) = e := by omega
      rw [if_pos small, if_neg (by omega), decimal_zeros_before, value, exponent]
    rw [if_neg small]
    by_cases nonneg : 0 ≤ e
    · have short : digits.length ≤ lead.toNat + 1 := by omega
      have pad : lead.toNat + 1 - digits.length = e.toNat := by omega
      rw [List.take_of_length_le short, List.drop_of_length_le short, pad, List.isEmpty_nil, if_pos rfl,
        decimal_zeros_after, value, if_pos ⟨nonneg, inside.2⟩]
    · have pad : lead.toNat + 1 - digits.length = 0 := by omega
      have more : (digits.drop (lead.toNat + 1)).isEmpty = false := by
        rw [List.isEmpty_eq_false_iff, ← List.length_pos_iff, List.length_drop]
        omega
      have exponent : (none : Option Int).getD 0 - (digits.length - (lead.toNat + 1) : Nat) = e := by
        rw [Option.getD_none]
        omega
      rw [more, if_neg (by decide), pad, List.replicate_zero, List.append_nil, decimal_split, value, exponent,
        if_neg fun h => nonneg h.1]
  · have exponent : (some lead).getD 0 - (digits.length - 1 : Nat) = e := by
      rw [Option.getD_some]
      omega
    rw [if_neg inside, if_neg (by omega), decimal_split, value, exponent]

end

/-- Whether a number has a minus sign. -/
def Number.negative : Number → Bool
  | .integer n _ => decide (n < 0)
  | .double x => x.negative

/-- The literal of a number after its sign. -/
def Number.literal : Number → Literal
  | .integer n _ => ⟨Nat.toDigits 10 n.natAbs, [], none⟩
  | .double x =>
    if x.mantissa = 0 then ⟨['0'], ['0'], none⟩
    else
      let digits := Nat.toDigits 10 x.shortest.digits
      layoutLiteral digits (x.shortest.exponent + digits.length - 1)

/-- **The text of a number** is its sign and its literal. -/
theorem Number.write_eq (n : Number) : n.write = (if n.negative then ['-'] else []) ++ n.literal.text := by
  cases n with
  | integer n fits =>
    rw [Number.write, Number.negative, Number.literal, Literal.text, Literal.tailText, if_pos rfl, Literal.scaleText,
      List.append_nil, List.append_nil, writeInt_eq]
  | double x =>
    rw [Number.write, Number.negative, Number.literal, Double.write]
    by_cases zero : x.mantissa = 0
    · rw [if_pos zero, if_pos zero]
      rfl
    · rw [if_neg zero, if_neg zero, ← write_doubleLayout Nat.toDigits_ne_nil]

end TypeSketch.Json
