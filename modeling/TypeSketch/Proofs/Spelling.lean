import Mathlib.Algebra.Field.Rat
import TypeSketch.Json.Parser
import TypeSketch.Proofs.Numerals

/-!
# Numbers as they are written

A number in a text has a sign, digits before and after a point and an exponent. Its exact value does not depend on
what a reader makes of it.

* `Power`, `Numeral` : the parts of a number, well formed exactly as the grammar of documents has them;
* `Numeral.text`, `Numeral.value` : the text and the exact value of a number;
* `Numeral.IsPlain` : a number without fraction and exponent;
* `readExponent_small`, `readExponent_large` : exponents up to 31 bits and beyond;
* `Numeral.readNumber_plain`, `Numeral.readNumber_body` : what a number is read as, by the digits that are gathered
  of it and those that are left out;
* `Numeral.readNumber_of_parse`, `Numeral.parse_of_readNumber` : the document that is a number alone.
-/

namespace TypeSketch.Json

/-! ## Numerals -/

/-- An exponent as it is written: its letter, its sign if it has one, and its digits. -/
structure Power where
  letter : Char
  sign : List Char
  digits : List Char

namespace Power

/-- The letter is either case of the same one, and there is a digit. -/
structure WellFormed (p : Power) : Prop where
  letter : p.letter = 'e' ∨ p.letter = 'E'
  sign : p.sign = [] ∨ p.sign = ['+'] ∨ p.sign = ['-']
  ne_nil : p.digits ≠ []
  all : AllDigits p.digits

/-- The size of an exponent. -/
def size (p : Power) : ℕ := Nat.ofDigitChars 10 p.digits 0

/-- The value of an exponent. -/
def value (p : Power) : ℤ := if p.sign = ['-'] then -p.size else p.size

/-- The text of an exponent. -/
def text (p : Power) : List Char := p.letter :: (p.sign ++ p.digits)

end Power

/-- A number as it is written: its sign, the digits before the point, those after it, of which there are none without a
point, and its exponent if it has one. -/
structure Numeral where
  negative : Bool
  whole : List Char
  fraction : List Char
  power : Option Power

namespace Numeral

/-- The digits are digits, there is no zero too many in front, and the exponent is one. -/
structure WellFormed (l : Numeral) : Prop where
  whole : WholePart l.whole
  fraction : AllDigits l.fraction
  power : ∀ p ∈ l.power, p.WellFormed

/-- A number with neither a point nor an exponent. -/
def IsPlain (l : Numeral) : Prop := l.fraction = [] ∧ l.power = none

/-- The text of the exponent, if there is one. -/
def powerText (l : Numeral) : List Char := (l.power.map Power.text).getD []

/-- The text after the sign. -/
def body (l : Numeral) : List Char := l.whole ++ ((if l.fraction = [] then [] else '.' :: l.fraction) ++ l.powerText)

/-- The text of a number. -/
def text (l : Numeral) : List Char := (if l.negative then ['-'] else []) ++ l.body

/-- The digits of a number without its point. -/
def digits (l : Numeral) : ℕ := Nat.ofDigitChars 10 (l.whole ++ l.fraction) 0

/-- The value of the exponent, if there is one. -/
def shift (l : Numeral) : ℤ := (l.power.map Power.value).getD 0

/-- The power of ten of the last digit. -/
def scale (l : Numeral) : ℤ := l.shift - l.fraction.length

/-- The exact value of a number without its sign. -/
def size (l : Numeral) : ℚ := l.digits * 10 ^ l.scale

/-- The exact value of a number as it is written. -/
def value (l : Numeral) : ℚ := if l.negative then -l.size else l.size

end Numeral

/-! ## Exponents -/

variable {negative : Bool} {significand : ℕ} {exponent : ℤ} {n : Number} {rest : List Char}

/-- An exponent that fits 31 bits is read as it is written. -/
theorem readExponent_small {p : Power} (form : p.WellFormed) (small : p.size < Nat.pow 2 31) :
    readExponent negative significand exponent (p.sign ++ p.digits) =
      scaled negative significand (exponent + p.value) [] := by
  rw [← List.append_nil p.digits, readExponent_eq form.sign form.ne_nil form.all startsOther_nil,
    gatherExponent_eq small, Power.value]
  dsimp only
  split
  · rw [Int.sub_eq_add_neg]
    rfl
  · rfl

/-- One that does not fit leaves nothing of a number that is scaled down, and is a fault if it is scaled up. -/
theorem readExponent_large {p : Power} (form : p.WellFormed) (large : Nat.pow 2 31 ≤ p.size)
    (h : readExponent negative significand exponent (p.sign ++ p.digits) = .ok (n, rest)) :
    n = .double (.zero negative) ∧ (significand = 0 ∨ p.value ≤ -2 ^ 31) := by
  obtain ⟨more, exceeds⟩ := gatherExponent_large (by decide) large
  rw [← List.append_nil p.digits, readExponent_eq form.sign form.ne_nil form.all startsOther_nil, exceeds] at h
  dsimp only at h
  split at h
  · cases h
  · next lost =>
    cases h
    refine ⟨rfl, ?_⟩
    rw [Nat.pow_eq] at large
    unfold Power.value
    by_cases nothing : significand = 0
    · exact .inl nothing
    · right
      rw [if_pos (by tauto)]
      omega

namespace Numeral

variable {l : Numeral}

theorem startsOther_powerText (form : l.WellFormed) : StartsOther l.powerText := by
  unfold powerText
  cases h : l.power with
  | none => exact startsOther_nil
  | some p =>
    refine startsOther_cons ?_ _
    rcases (form.power p h).letter with e | e <;> (rw [e]; decide)

theorem readScale_powerText (form : l.WellFormed)
    (h : readScale negative significand exponent l.powerText = .ok (n, rest)) :
    scaled negative significand (exponent + l.shift) [] = .ok (n, rest) ∨
      n = .double (.zero negative) ∧ (significand = 0 ∨ l.shift ≤ -2 ^ 31) := by
  unfold powerText at h
  unfold shift
  cases e : l.power with
  | none =>
    rw [e] at h
    left
    rw [← h]
    exact congrArg (scaled negative significand · []) (Int.add_zero exponent)
  | some p =>
    have ok := form.power p e
    rw [e] at h
    have read : readExponent negative significand exponent (p.sign ++ p.digits) = .ok (n, rest) := by
      rw [← h]
      rcases ok.letter with letter | letter <;>
        rw [Option.map_some, Option.getD_some, Power.text, letter, readScale]
    by_cases small : p.size < Nat.pow 2 31
    · rw [readExponent_small ok small] at read
      exact .inl read
    · exact .inr (readExponent_large ok (Nat.not_lt.1 small) read)

/-- A plain number is the integer of its digits, or it is scaled if not all of them fit. -/
theorem readNumber_plain (form : l.WellFormed) (plain : l.IsPlain) {used left : List Char}
    (gathers : Gathers 0 l.whole used left) :
    readNumber negative l.body =
      if left = [] then wholeNumber negative (Nat.ofDigitChars 10 used 0) []
      else scaled negative (Nat.ofDigitChars 10 used 0) left.length [] := by
  have body : l.body = l.whole ++ [] := by
    rw [body, powerText, plain.1, plain.2]
    rfl
  rw [body, readNumber_eq_pastWhole form.whole startsOther_nil, gathers.whole]
  simp only [pastWhole, List.length_eq_zero_iff]

/-- Of another number the digits before the point are gathered, then those after it, then its exponent is read. -/
theorem readNumber_body (form : l.WellFormed) (other : ¬ l.IsPlain) {used left used' left' : List Char}
    (gathers : Gathers 0 l.whole used left)
    (gathers' : Gathers (Nat.ofDigitChars 10 used 0) l.fraction used' left') :
    readNumber negative l.body =
      readScale negative (Nat.ofDigitChars 10 (used ++ used') 0) (left.length - used'.length) l.powerText := by
  have ends := startsOther_powerText form
  rw [Nat.ofDigitChars_append]
  by_cases point : l.fraction = []
  · obtain ⟨p, e⟩ := Option.ne_none_iff_exists'.1 fun none => other ⟨point, none⟩
    have body : l.body = l.whole ++ l.powerText := by rw [body, if_pos point, List.nil_append]
    have empty : used' = [] := (List.append_eq_nil_iff.1 (gathers'.split.symm.trans point)).1
    have text : l.powerText = p.text := by rw [powerText, e]; rfl
    rw [body, readNumber_eq_pastWhole form.whole ends, gathers.whole, empty, text]
    rcases (form.power p e).letter with letter | letter <;>
      (rw [Power.text, letter, pastWhole, List.length_nil, Int.natCast_zero, Int.sub_zero]; rfl)
  · have body : l.body = l.whole ++ '.' :: (l.fraction ++ l.powerText) := by
      rw [body, if_neg point, List.cons_append]
    obtain ⟨c, t, e⟩ := List.exists_cons_of_ne_nil point
    have taken := takeWhile_digits form.fraction ends
    have kept := dropWhile_digits form.fraction ends
    rw [body, readNumber_eq_pastWhole form.whole (startsOther_cons rfl _), gathers.whole, pastWhole, readFraction,
      taken, kept, e]
    dsimp only
    rw [← e, gathers'.fraction]

/-! ## Documents -/

theorem runValue_minus (nested : Option (Reader Fault Value)) (t : List Char) :
    runValue nested ('-' :: t) = (readNumber true t).map fun (n, rest) => (.number n, rest) := rfl

theorem runValue_digit (nested : Option (Reader Fault Value)) {c : Char} (digit : c.isDigit = true) (t : List Char) :
    runValue nested (c :: t) = (readNumber false (c :: t)).map fun (n, rest) => (.number n, rest) := by
  have other : isBlank c = false ∧ c ≠ 'n' ∧ c ≠ 't' ∧ c ≠ 'f' ∧ c ≠ '-' := by
    refine ⟨?_, ?_, ?_, ?_, ?_⟩
    · rw [← Bool.not_eq_true]
      intro blank
      simp only [isBlank, Bool.or_eq_true, decide_eq_true_eq] at blank
      rcases blank with ((rfl | rfl) | rfl) | rfl <;> cases digit
    all_goals
      rintro rfl
      cases digit
  simp [runValue, skipBlanks, other, digit]

theorem run_text (form : l.WellFormed) :
    (readValue maxDepth).run l.text = (readNumber l.negative l.body).map fun (n, rest) => (.number n, rest) := by
  obtain ⟨c, t, e⟩ := List.exists_cons_of_ne_nil form.whole.ne_nil
  have digit : c.isDigit = true := form.whole.all c (by rw [e]; exact List.mem_cons_self)
  rw [text, body, e]
  cases l.negative with
  | false => exact runValue_digit (some (readValue 126)) digit _
  | true => exact runValue_minus (some (readValue 126)) _

/-- The document of a number is the number that is read. -/
theorem readNumber_of_parse (form : l.WellFormed) {value : Value} (h : parse (String.ofList l.text) = .ok value) :
    ∃ n rest, value = .number n ∧ readNumber l.negative l.body = .ok (n, rest) := by
  rw [parse, String.toList_ofList, parseChars, run_text form] at h
  cases read : readNumber l.negative l.body with
  | error fault =>
    rw [read] at h
    cases h
  | ok taken =>
    obtain ⟨n, rest⟩ := taken
    rw [read] at h
    refine ⟨n, rest, ?_, rfl⟩
    dsimp only [Except.map] at h
    split at h
    · cases h
      rfl
    · cases h

theorem parse_of_readNumber (form : l.WellFormed) (h : readNumber l.negative l.body = .ok (n, [])) :
    parse (String.ofList l.text) = .ok (.number n) := by
  rw [parse, String.toList_ofList, parseChars, run_text form, h]
  rfl

end Numeral

end TypeSketch.Json
