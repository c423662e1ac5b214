import TypeSketch.Json.Numeral
import TypeSketch.Json.Printer

/-!
# Reading the digits of numbers

* `AllDigits`, `StartsOther`, `EndsNumber` : digits, and what may follow them;
* `Gathers` : digits are gathered up to the first that no longer fits;
* `gatherWhole_eq`, `gatherFraction_eq`, `gatherExponent_eq` : digits that fit are gathered to the number
  that they stand for;
* `WholePart` : the digits before a point, without a zero too many;
* `readNumber_eq_pastWhole`, `readExponent_eq` : the readers on any digits, those that are left out included;
* `readNumber_integer`, `readNumber_point`, `readNumber_mark` : what a number is read as, by what
  follows these digits.
-/

namespace TypeSketch.Json

/-! ## Digits and what follows them -/

/-- A text of digits alone. -/
def AllDigits (digits : List Char) : Prop := ∀ c ∈ digits, c.isDigit = true

theorem allDigits_nil : AllDigits [] := fun _ h => absurd h List.not_mem_nil

theorem allDigits_cons_iff {c : Char} {digits : List Char} :
    AllDigits (c :: digits) ↔ c.isDigit = true ∧ AllDigits digits :=
  List.forall_mem_cons

/-- A text that does not start with a digit. -/
def StartsOther (rest : List Char) : Prop := ∀ c t, rest = c :: t → c.isDigit = false

/-- A text that does not go on with what may belong to a number. -/
def EndsNumber (rest : List Char) : Prop :=
  ∀ c t, rest = c :: t → c.isDigit = false ∧ c ≠ '.' ∧ c ≠ 'e' ∧ c ≠ 'E'

theorem EndsNumber.startsOther {rest : List Char} (h : EndsNumber rest) : StartsOther rest :=
  fun c t e => (h c t e).1

theorem endsNumber_nil : EndsNumber [] := fun c t e => by cases e

theorem startsOther_nil : StartsOther [] := endsNumber_nil.startsOther

theorem endsNumber_cons {c : Char} (h : c.isDigit = false ∧ c ≠ '.' ∧ c ≠ 'e' ∧ c ≠ 'E') (t : List Char) :
    EndsNumber (c :: t) := by
  intro d u e
  cases e
  exact h

theorem startsOther_cons {c : Char} (h : c.isDigit = false) (t : List Char) : StartsOther (c :: t) := by
  intro d u e
  cases e
  exact h

theorem takeWhile_startsOther {rest : List Char} (h : StartsOther rest) : rest.takeWhile Char.isDigit = [] := by
  cases rest with
  | nil => rfl
  | cons c t => rw [List.takeWhile_cons, h c t rfl]; rfl

theorem dropWhile_startsOther {rest : List Char} (h : StartsOther rest) : rest.dropWhile Char.isDigit = rest := by
  cases rest with
  | nil => rfl
  | cons c t => rw [List.dropWhile_cons, h c t rfl]; rfl

variable {digits rest : List Char}

theorem takeWhile_digits (h : AllDigits digits) (hr : StartsOther rest) :
    (digits ++ rest).takeWhile Char.isDigit = digits := by
  rw [List.takeWhile_append_of_pos h, takeWhile_startsOther hr, List.append_nil]

theorem dropWhile_digits (h : AllDigits digits) (hr : StartsOther rest) :
    (digits ++ rest).dropWhile Char.isDigit = rest := by
  rw [List.dropWhile_append_of_pos h, dropWhile_startsOther hr]

/-! ## Gathering -/

theorem le_ofDigitChars (digits : List Char) (high : Nat) : high ≤ Nat.ofDigitChars 10 digits high := by
  rw [Nat.ofDigitChars_eq_ofDigitChars_zero]
  have : 1 * high ≤ 10 ^ digits.length * high := Nat.mul_le_mul_right high (Nat.pos_of_neZero _)
  omega

/-- The digits up to some place stand for no more than all of them. -/
theorem ofDigitChars_append_le (used left : List Char) :
    Nat.ofDigitChars 10 used 0 ≤ Nat.ofDigitChars 10 (used ++ left) 0 := by
  rw [Nat.ofDigitChars_append]
  exact le_ofDigitChars left _

theorem ofDigitChars_split (a b : List Char) :
    Nat.ofDigitChars 10 (a ++ b) 0 = Nat.ofDigitChars 10 a 0 * Nat.pow 10 b.length + Nat.ofDigitChars 10 b 0 := by
  rw [Nat.pow_eq, Nat.ofDigitChars_append, Nat.ofDigitChars_eq_ofDigitChars_zero, Nat.mul_comm]

theorem ofDigitChars_next (c : Char) (high : Nat) :
    Nat.ofDigitChars 10 digits (high * 10 + digitValue c) = Nat.ofDigitChars 10 (c :: digits) high := by
  rw [Nat.ofDigitChars_cons, digitValue, Nat.mul_comm]

theorem digitValue_le {c : Char} (h : c.isDigit = true) : digitValue c ≤ 9 := by
  simp only [Char.isDigit, Bool.and_eq_true, decide_eq_true_eq] at h
  have high : c.toNat ≤ 57 := h.2
  rw [digitValue, show '0'.toNat = 48 from rfl]
  omega

/-- So many digits stand for less than the power of ten with one more digit. -/
theorem ofDigitChars_lt (h : AllDigits digits) (high : Nat) :
    Nat.ofDigitChars 10 digits high < (high + 1) * Nat.pow 10 digits.length := by
  induction digits generalizing high with
  | nil => rw [Nat.ofDigitChars_nil]; exact Nat.lt_of_lt_of_eq high.lt_succ_self (Nat.mul_one _).symm
  | cons c digits ih =>
    obtain ⟨digit, all⟩ := allDigits_cons_iff.1 h
    have small := digitValue_le digit
    calc Nat.ofDigitChars 10 (c :: digits) high = Nat.ofDigitChars 10 digits (high * 10 + digitValue c) := by
          rw [ofDigitChars_next]
      _ < (high * 10 + digitValue c + 1) * Nat.pow 10 digits.length := ih all _
      _ ≤ (high + 1) * 10 * Nat.pow 10 digits.length := Nat.mul_le_mul_right _ (by omega)
      _ = (high + 1) * Nat.pow 10 (digits.length + 1) := by rw [Nat.mul_assoc, Nat.pow_eq, ← Nat.pow_succ', Nat.pow_eq]

/-- One more digit fits if all of them do. -/
theorem next_lt_of_ofDigitChars_lt {c : Char} {high bound : Nat}
    (h : Nat.ofDigitChars 10 (c :: digits) high < bound) : high * 10 + digitValue c < bound := by
  rw [Nat.ofDigitChars_cons] at h
  have := le_ofDigitChars digits (10 * high + (c.toNat - '0'.toNat))
  rw [digitValue]
  omega

/-- Digits are split where they no longer fit 64 bits, `high` being the value of the digits before them. -/
structure Gathers (high : Nat) (digits used left : List Char) : Prop where
  split : digits = used ++ left
  fits : Nat.ofDigitChars 10 used high < Nat.pow 2 64
  full : ∀ c t, left = c :: t → Nat.pow 2 64 ≤ Nat.ofDigitChars 10 used high * 10 + digitValue c

theorem exists_gathers (digits : List Char) {high : Nat} (fits : high < Nat.pow 2 64) :
    ∃ used left, Gathers high digits used left := by
  induction digits generalizing high with
  | nil => exact ⟨[], [], rfl, fits, fun _ _ e => by cases e⟩
  | cons c digits ih =>
    by_cases next : high * 10 + digitValue c < Nat.pow 2 64
    · obtain ⟨used, left, rfl, fits, full⟩ := ih next
      rw [ofDigitChars_next] at fits full
      exact ⟨c :: used, left, rfl, fits, full⟩
    · refine ⟨[], c :: digits, rfl, fits, ?_⟩
      rintro d t e
      cases e
      exact Nat.not_lt.1 next

theorem gathers_all {high : Nat} (h : Nat.ofDigitChars 10 digits high < Nat.pow 2 64) : Gathers high digits digits [] :=
  ⟨(List.append_nil digits).symm, h, fun _ _ e => by cases e⟩

theorem Gathers.whole {high : Nat} {used left : List Char} (h : Gathers high digits used left) :
    gatherWhole high digits = (Nat.ofDigitChars 10 used high, left.length) := by
  obtain ⟨rfl, fits, full⟩ := h
  induction used generalizing high with
  | nil =>
    cases left with
    | nil => rfl
    | cons c t => exact if_neg (Nat.not_lt.2 (full c t rfl))
  | cons c used ih =>
    have next := next_lt_of_ofDigitChars_lt fits
    rw [← ofDigitChars_next] at fits full ⊢
    rw [List.cons_append, gatherWhole, if_pos next, ih fits full]

theorem Gathers.fraction {high : Nat} {used left : List Char} (h : Gathers high digits used left) :
    gatherFraction high digits = (Nat.ofDigitChars 10 used high, used.length) := by
  obtain ⟨rfl, fits, full⟩ := h
  induction used generalizing high with
  | nil =>
    cases left with
    | nil => rfl
    | cons c t => exact if_neg (Nat.not_lt.2 (full c t rfl))
  | cons c used ih =>
    have next := next_lt_of_ofDigitChars_lt fits
    rw [← ofDigitChars_next] at fits full ⊢
    rw [List.cons_append, gatherFraction, if_pos next, ih fits full]
    rfl

theorem gatherWhole_eq {significand : Nat} (h : Nat.ofDigitChars 10 digits significand < Nat.pow 2 64) :
    gatherWhole significand digits = (Nat.ofDigitChars 10 digits significand, 0) :=
  (gathers_all h).whole

theorem gatherFraction_eq {significand : Nat} (h : Nat.ofDigitChars 10 digits significand < Nat.pow 2 64) :
    gatherFraction significand digits = (Nat.ofDigitChars 10 digits significand, digits.length) :=
  (gathers_all h).fraction

theorem gatherExponent_eq {exponent : Nat} (h : Nat.ofDigitChars 10 digits exponent < Nat.pow 2 31) :
    gatherExponent exponent digits = .ok (Nat.ofDigitChars 10 digits exponent) := by
  induction digits generalizing exponent with
  | nil => rfl
  | cons c digits ih =>
    have next := next_lt_of_ofDigitChars_lt h
    rw [← ofDigitChars_next] at h ⊢
    rw [gatherExponent, if_pos next, ih h]

theorem gatherExponent_large {high : Nat} (fits : high < Nat.pow 2 31)
    (large : Nat.pow 2 31 ≤ Nat.ofDigitChars 10 digits high) : ∃ more, gatherExponent high digits = .error more := by
  induction digits generalizing high with
  | nil => exact absurd fits (Nat.not_lt.2 large)
  | cons c digits ih =>
    rw [gatherExponent]
    split
    · next next =>
      rw [← ofDigitChars_next] at large
      exact ih next large
    · exact ⟨digits, rfl⟩

/-! ## Whole digits -/

/-- The digits before a point: there is one, and none comes after a zero in front. -/
structure WholePart (digits : List Char) : Prop where
  ne_nil : digits ≠ []
  all : AllDigits digits
  zero : ∀ t, digits = '0' :: t → t = []

/-- What a number is read as after its whole digits. -/
def afterWhole (negative : Bool) (significand : Nat) (rest : List Char) : Except Fault (Number × List Char) :=
  match rest with
  | '.' :: t => readFraction negative significand 0 t
  | 'e' :: _ => readScale negative significand 0 rest
  | 'E' :: _ => readScale negative significand 0 rest
  | rest => wholeNumber negative significand rest

/-- What a number is read as after its whole digits, of which some are left out. -/
def pastWhole (negative : Bool) (significand dropped : Nat) (rest : List Char) : Except Fault (Number × List Char) :=
  match rest with
  | '.' :: t => readFraction negative significand dropped t
  | 'e' :: _ => readScale negative significand dropped rest
  | 'E' :: _ => readScale negative significand dropped rest
  | rest => if dropped = 0 then wholeNumber negative significand rest else scaled negative significand dropped rest

theorem readNumber_eq_pastWhole {negative : Bool} (h : WholePart digits) (hr : StartsOther rest) :
    readNumber negative (digits ++ rest) =
      pastWhole negative (gatherWhole 0 digits).1 (gatherWhole 0 digits).2 rest := by
  obtain ⟨c, t, rfl⟩ := List.exists_cons_of_ne_nil h.ne_nil
  have digit : c.isDigit = true := h.all c List.mem_cons_self
  -- A zero in front stands alone, so no digit comes after it.
  have noZero : ¬ (c = '0' ∧ (t ++ rest).head?.any Char.isDigit = true) := by
    rintro ⟨rfl, more⟩
    obtain rfl := h.zero t rfl
    cases rest with
    | nil => cases more
    | cons d u =>
      have other := hr d u rfl
      simp [other] at more
  have taken := takeWhile_digits h.all hr
  have left := dropWhile_digits h.all hr
  rw [List.cons_append] at taken left ⊢
  rw [readNumber, digit, if_neg (by decide), if_neg noZero, taken, left]
  unfold pastWhole
  grind

theorem readNumber_eq_afterWhole {negative : Bool} (h : WholePart digits)
    (fits : Nat.ofDigitChars 10 digits 0 < Nat.pow 2 64) (hr : StartsOther rest) :
    readNumber negative (digits ++ rest) = afterWhole negative (Nat.ofDigitChars 10 digits 0) rest := by
  rw [readNumber_eq_pastWhole h hr, gatherWhole_eq fits]
  rfl

section

variable {negative : Bool}

theorem readNumber_integer (h : WholePart digits) (fits : Nat.ofDigitChars 10 digits 0 < Nat.pow 2 64)
    (hr : EndsNumber rest) :
    readNumber negative (digits ++ rest) = wholeNumber negative (Nat.ofDigitChars 10 digits 0) rest := by
  rw [readNumber_eq_afterWhole h fits hr.startsOther]
  unfold afterWhole
  split
  · exact absurd rfl (hr _ _ rfl).2.1
  · exact absurd rfl (hr _ _ rfl).2.2.1
  · exact absurd rfl (hr _ _ rfl).2.2.2
  · rfl

theorem readScale_end {significand : Nat} {exponent : Int} (hr : EndsNumber rest) :
    readScale negative significand exponent rest = scaled negative significand exponent rest := by
  unfold readScale
  split
  · exact absurd rfl (hr _ _ rfl).2.2.1
  · exact absurd rfl (hr _ _ rfl).2.2.2
  · rfl

/-- An exponent is read as its sign and its digits. -/
theorem readExponent_eq {significand : Nat} {exponent : Int} {sign : List Char}
    (signed : sign = [] ∨ sign = ['+'] ∨ sign = ['-']) (ne : digits ≠ []) (h : AllDigits digits)
    (hr : StartsOther rest) :
    readExponent negative significand exponent (sign ++ (digits ++ rest)) =
      match gatherExponent 0 digits with
      | .ok written =>
        scaled negative significand (if sign = ['-'] then exponent - written else exponent + written) rest
      | .error more =>
        if significand ≠ 0 ∧ sign ≠ ['-'] then .error (.here .numberOutOfRange (more ++ rest))
        else .ok (.double (.zero negative), rest) := by
  obtain ⟨c, t, rfl⟩ := List.exists_cons_of_ne_nil ne
  have digit : c.isDigit = true := h c List.mem_cons_self
  have other : c ≠ '+' ∧ c ≠ '-' := by constructor <;> (rintro rfl; cases digit)
  have taken := takeWhile_digits h hr
  have left := dropWhile_digits h hr
  rw [List.cons_append] at taken left ⊢
  have minus : (sign ++ c :: (t ++ rest)).head? = some '-' ↔ sign = ['-'] := by
    rcases signed with rfl | rfl | rfl <;> simp [other]
  have unsigned : (if (sign ++ c :: (t ++ rest)).head? = some '+' ∨ (sign ++ c :: (t ++ rest)).head? = some '-' then
      (sign ++ c :: (t ++ rest)).tail else sign ++ c :: (t ++ rest)) = c :: (t ++ rest) := by
    rcases signed with rfl | rfl | rfl <;> simp [other]
  rw [readExponent]
  simp only [unsigned, digit, Bool.not_true, Bool.false_eq_true, if_false, taken, left]
  cases gatherExponent 0 (c :: t) with
  | ok written => simp only [minus]
  | error more => simp only [minus]

theorem readFraction_digits {significand : Nat} {exponent : Int} (ne : digits ≠ []) (h : AllDigits digits)
    (fits : Nat.ofDigitChars 10 digits significand < Nat.pow 2 64) (hr : StartsOther rest) :
    readFraction negative significand exponent (digits ++ rest) =
      readScale negative (Nat.ofDigitChars 10 digits significand) (exponent - digits.length) rest := by
  obtain ⟨c, t, rfl⟩ := List.exists_cons_of_ne_nil ne
  rw [readFraction, takeWhile_digits h hr, dropWhile_digits h hr]
  dsimp only
  rw [gatherFraction_eq fits]

theorem readNumber_point {fraction : List Char} (h : WholePart digits) (ne : fraction ≠ [])
    (hf : AllDigits fraction) (fits : Nat.ofDigitChars 10 (digits ++ fraction) 0 < Nat.pow 2 64)
    (hr : StartsOther rest) :
    readNumber negative (digits ++ '.' :: (fraction ++ rest)) =
      readScale negative (Nat.ofDigitChars 10 (digits ++ fraction) 0) (-fraction.length) rest := by
  rw [Nat.ofDigitChars_append] at fits ⊢
  have whole := Nat.lt_of_le_of_lt (le_ofDigitChars fraction _) fits
  rw [readNumber_eq_afterWhole h whole (startsOther_cons rfl _), afterWhole, readFraction_digits ne hf fits hr,
    Int.zero_sub]

theorem readNumber_mark (h : WholePart digits) (fits : Nat.ofDigitChars 10 digits 0 < Nat.pow 2 64) :
    readNumber negative (digits ++ 'e' :: rest) =
      readScale negative (Nat.ofDigitChars 10 digits 0) 0 ('e' :: rest) := by
  rw [readNumber_eq_afterWhole h fits (startsOther_cons rfl _), afterWhole]

end

/-! ## Texts of natural numbers -/

theorem allDigits_toDigits (n : Nat) : AllDigits (Nat.toDigits 10 n) :=
  fun _ h => Nat.isDigit_of_mem_toDigits (by decide) (by decide) h

/-- The digits of a positive number start with another one than zero. -/
theorem toDigits_pos {n : Nat} (h : 0 < n) : ∃ c t, Nat.toDigits 10 n = c :: t ∧ c ≠ '0' := by
  induction n using Nat.strongRecOn with
  | ind n ih =>
    by_cases small : n < 10
    · refine ⟨n.digitChar, [], Nat.toDigits_of_lt_base small, fun zero => ?_⟩
      rw [Nat.digitChar_eq_zero] at zero
      omega
    · obtain ⟨c, t, e, hc⟩ := ih (n / 10) (by omega) (by omega)
      refine ⟨c, t ++ [(n % 10).digitChar], ?_, hc⟩
      rw [Nat.toDigits_of_base_le (by decide) (by omega), e, List.cons_append]

theorem writeInt_eq (n : Int) :
    writeInt n = (if decide (n < 0) then ['-'] else []) ++ Nat.toDigits 10 n.natAbs := by
  unfold writeInt
  by_cases negative : n < 0
  · rw [if_pos negative, decide_eq_true negative]
    rfl
  · rw [if_neg negative, decide_eq_false negative]
    rfl

theorem wholePart_of_head {c : Char} (hc : c ≠ '0') (h : AllDigits (c :: digits)) : WholePart (c :: digits) :=
  ⟨List.cons_ne_nil c digits, h, fun _ e => absurd (List.cons.inj e).1 hc⟩

theorem wholePart_zero : WholePart ['0'] := by
  refine ⟨List.cons_ne_nil _ _, ?_, fun t e => (List.cons.inj e).2.symm⟩
  intro c h
  rw [List.mem_singleton.1 h]
  rfl

theorem wholePart_toDigits (n : Nat) : WholePart (Nat.toDigits 10 n) := by
  rcases Nat.eq_zero_or_pos n with rfl | h
  · rw [Nat.toDigits_zero]
    exact wholePart_zero
  · obtain ⟨c, t, e, hc⟩ := toDigits_pos h
    have all := allDigits_toDigits n
    rw [e] at all ⊢
    exact wholePart_of_head hc all

end TypeSketch.Json
