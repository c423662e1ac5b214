import TypeSketch.Proofs.Literal
import TypeSketch.Proofs.Pretty
import TypeSketch.Proofs.Scaling
import TypeSketch.Proofs.Shortest

/-!
# Reading the text of a number

* `covers_decimal` : the decimal that is written for a double is rounded to it;
* `exists_scaled` : the text of a double is always read as a double, even at the edge of the doubles;
* `Number.reread`, `readsAs_reread` : the number that the text of a number is read as;
* `reread_eq_self` : that is the number itself for integers, and for doubles whose digits make a small
  integer at a small power of ten;
* `write_unique` : a number is told from its text, whatever ends it.
-/

namespace TypeSketch.Json

open Double

/-! ## Decimals of doubles -/

/-- The decimal that is written for a double. -/
def writtenDecimal (x : Double) : Decimal := (Number.double x).literal.decimal

theorem literal_double {x : Double} (hm : 0 < x.mantissa) :
    (Number.double x).literal = layoutLiteral (Nat.toDigits 10 x.shortest.digits)
      (x.shortest.exponent + (Nat.toDigits 10 x.shortest.digits).length - 1) := by
  rw [Number.literal, if_neg hm.ne']

theorem literal_zero {x : Double} (hm : x.mantissa = 0) : (Number.double x).literal = ⟨['0'], ['0'], none⟩ := by
  rw [Number.literal, if_pos hm]

theorem literal_wellFormed (n : Number) : n.literal.WellFormed := by
  have nothing : AllDigits [] := fun c h => absurd h List.not_mem_nil
  cases n with
  | integer n fits => exact ⟨wholePart_toDigits _, nothing⟩
  | double x =>
    rcases Nat.eq_zero_or_pos x.mantissa with zero | positive
    · rw [literal_zero zero]
      exact ⟨wholePart_zero, wholePart_zero.all⟩
    · rw [literal_double positive]
      have all := allDigits_toDigits x.shortest.digits
      obtain ⟨c, t, e, hc⟩ := toDigits_pos (shortest_spec positive).2.1
      rw [e] at all ⊢
      exact layoutLiteral_wellFormed hc all _

theorem literal_isReal (x : Double) : (Number.double x).literal.IsReal := by
  rcases Nat.eq_zero_or_pos x.mantissa with zero | positive
  · rw [literal_zero zero]
    exact .inl (List.cons_ne_nil _ _)
  · rw [literal_double positive]
    exact layoutLiteral_isReal Nat.toDigits_ne_nil _

theorem writtenDecimal_zero {x : Double} (hm : x.mantissa = 0) : writtenDecimal x = ⟨0, -1⟩ := by
  rw [writtenDecimal, literal_zero hm]
  rfl

theorem writtenDecimal_pos {x : Double} (hm : 0 < x.mantissa) :
    writtenDecimal x =
      if 0 ≤ x.shortest.exponent ∧
          x.shortest.exponent + (Nat.toDigits 10 x.shortest.digits).length - 1 ≤ 15
      then ⟨x.shortest.digits * Nat.pow 10 (x.shortest.exponent.toNat + 1), -1⟩
      else x.shortest := by
  rw [writtenDecimal, literal_double hm, layoutLiteral_decimal]

/-- **What is written for a double** is rounded to it. -/
theorem covers_decimal (x : Double) : x.Covers (writtenDecimal x).value := by
  rcases Nat.eq_zero_or_pos x.mantissa with zero | positive
  · have nothing : (writtenDecimal x).value = x.magnitude := by
      rw [writtenDecimal_zero zero, magnitude, zero, Decimal.value, Nat.cast_zero, zero_mul, zero_mul]
    rw [nothing]
    exact covers_magnitude x
  · have same : (writtenDecimal x).value = x.shortest.value := by
      rw [writtenDecimal_pos positive]
      split_ifs with whole
      · obtain ⟨k, hk⟩ := Int.eq_ofNat_of_zero_le whole.1
        rw [Decimal.value, Decimal.value, hk, Int.toNat_natCast, zpow_natCast, Nat.pow_eq]
        push_cast
        rw [pow_succ, zpow_neg_one]
        ring
      · rfl
    rw [same]
    exact (shortest_spec positive).1

theorem writtenDecimal_digits_lt (x : Double) : (writtenDecimal x).digits < 2 ^ 64 := by
  rcases Nat.eq_zero_or_pos x.mantissa with zero | positive
  · rw [writtenDecimal_zero zero]
    decide
  · obtain ⟨-, -, few, -⟩ := shortest_spec positive
    rw [writtenDecimal_pos positive]
    split_ifs with whole
    · have length_pos : 0 < (Nat.toDigits 10 x.shortest.digits).length := Nat.length_toDigits_pos
      have bound := (Nat.length_toDigits_le_iff (n := x.shortest.digits) (b := 10) (by decide) length_pos).1 le_rfl
      generalize (Nat.toDigits 10 x.shortest.digits).length = length at *
      rw [Nat.pow_eq]
      calc x.shortest.digits * 10 ^ (x.shortest.exponent.toNat + 1)
          < 10 ^ length * 10 ^ (x.shortest.exponent.toNat + 1) := by gcongr
        _ = 10 ^ (length + (x.shortest.exponent.toNat + 1)) := (Nat.pow_add 10 _ _).symm
        _ ≤ 10 ^ 17 := Nat.pow_le_pow_right (by decide) (by omega)
        _ < 2 ^ 64 := by decide
    · exact few.trans (by decide)

theorem natAbs_scale_le (digits : List Char) (lead : Int) :
    ((layoutLiteral digits lead).scale.getD 0).natAbs ≤ lead.natAbs := by
  unfold layoutLiteral
  split_ifs <;> simp

theorem literal_scale_lt (x : Double) : ((Number.double x).literal.scale.getD 0).natAbs < Nat.pow 2 31 := by
  rcases Nat.eq_zero_or_pos x.mantissa with zero | positive
  · rw [literal_zero zero]
    decide
  · obtain ⟨-, -, few, -, low, high⟩ := shortest_spec positive
    have short := (Nat.length_toDigits_le_iff (n := x.shortest.digits) (b := 10) (k := 17) (by decide) (by decide)).2 few
    rw [literal_double positive]
    refine (natAbs_scale_le _ _).trans_lt ?_
    have : Nat.pow 2 31 = 2147483648 := rfl
    omega

/-! ## Reading -/

/-- The text of a double is read by scaling the decimal that it shows. -/
theorem readNumber_double (x : Double) {rest : List Char} (ends : EndsNumber rest) :
    readNumber x.negative ((Number.double x).literal.text ++ rest) =
      scaled x.negative (writtenDecimal x).digits (writtenDecimal x).exponent rest := by
  refine Literal.readNumber_literal (literal_wellFormed _) (literal_isReal x) ?_ (literal_scale_lt x) ends
  rw [Nat.pow_eq]
  exact writtenDecimal_digits_lt x

/-- What a double covers is not beyond the edge unless the double is one of the three largest. -/
theorem le_edge_of_covers {x : Double} {q : ℚ} (h : x.Covers q) (hx : x.place ≤ 970 ∨ x.mantissa + 4 ≤ 2 ^ 53) :
    q ≤ edge := by
  have upper := h.rounds.upper
  have unit_pos : (0 : ℚ) < 2 ^ x.place := by positivity
  have bound := x.mantissa_lt
  rw [div_le_iff₀ unit_pos] at upper
  refine upper.trans ?_
  rcases hx with low | short
  · have place : (2 : ℚ) ^ (x.place + 1) ≤ 2 ^ (971 : ℤ) := zpow_le_zpow_right₀ (by norm_num) (by omega)
    rw [zpow_add_one₀ (by norm_num)] at place
    have last_pos : (0 : ℚ) < 2 ^ (971 : ℤ) := by positivity
    have half : ((x.mantissa : ℚ) + 1 / 2) * 2 ^ x.place ≤ 2 ^ 53 * 2 ^ x.place :=
      mul_le_mul_of_nonneg_right (by linarith) unit_pos.le
    rw [edge]
    generalize (2 : ℚ) ^ (971 : ℤ) = last at *
    linarith
  · have place : (2 : ℚ) ^ x.place ≤ 2 ^ (971 : ℤ) := zpow_le_zpow_right₀ (by norm_num) x.canonical.2.2.1
    have short' : (x.mantissa : ℚ) + 4 ≤ 2 ^ 53 := by exact_mod_cast short
    exact mul_le_mul (by linarith) place unit_pos.le (by norm_num)

/-- The three largest doubles. -/
def largest (k : Fin 3) : Double := ⟨false, 9007199254740991 - k, 971, by revert k; decide⟩

theorem scaled_largest (k : Fin 3) :
    ∃ y, ofScaled? (writtenDecimal (largest k)).digits (writtenDecimal (largest k)).exponent = some y ∧
      y.negative = false := by
  have computed : ∀ k, (ofScaled? (writtenDecimal (largest k)).digits (writtenDecimal (largest k)).exponent).any
      (fun y => !y.negative) = true := by decide +kernel
  obtain ⟨y, found, sign⟩ := Option.any_eq_true _ _ |>.1 (computed k)
  rw [Bool.not_eq_true'] at sign
  exact ⟨y, found, sign⟩

theorem exists_scaled (x : Double) :
    ∃ y, ofScaled? (writtenDecimal x).digits (writtenDecimal x).exponent = some y ∧ y.negative = false := by
  obtain ⟨negative, mantissa, place, canonical⟩ := x
  by_cases inner : place ≤ 970 ∨ mantissa + 4 ≤ 2 ^ 53
  · exact exists_ofScaled (writtenDecimal_digits_lt _) (le_edge_of_covers (covers_decimal _) inner)
  · -- Each bound allows for two roundings, which is too much so near the edge: these three are computed.
    obtain ⟨bits, -, high, -⟩ := id canonical
    rw [Nat.pow_eq] at bits
    obtain rfl : place = 971 := by omega
    obtain ⟨k, rfl⟩ : ∃ k : Fin 3, mantissa = 9007199254740991 - k :=
      ⟨⟨9007199254740991 - mantissa, by omega⟩, by dsimp only; omega⟩
    exact scaled_largest k

/-! ## The number that is read -/

/-- A literal that is read as a number makes a value where it stands. -/
theorem readsAs_of_readNumber {n n' : Number}
    (h : ∀ rest, EndsNumber rest → readNumber n.negative (n.literal.text ++ rest) = .ok (n', rest)) :
    n.ReadsAs n' := by
  intro nested rest ends
  rw [Number.write_eq, List.append_assoc]
  exact valueAt_of_readNumber (h rest ends) nested

theorem readsAs_of_scaled {x y : Double}
    (h : ofScaled? (writtenDecimal x).digits (writtenDecimal x).exponent = some y) :
    (Number.double x).ReadsAs (.double (if x.negative then y.neg else y)) := by
  refine readsAs_of_readNumber fun rest ends => ?_
  rw [Number.negative, readNumber_double x ends, scaled, h]

/-- The text of a number is always read as a number. -/
theorem exists_readsAs (n : Number) : ∃ n', n.ReadsAs n' := by
  cases n with
  | integer n fits => exact ⟨_, readsAs_integer fits⟩
  | double x =>
    obtain ⟨y, found, -⟩ := exists_scaled x
    exact ⟨_, readsAs_of_scaled found⟩

theorem Number.ReadsAs.parse {n n' : Number} (h : n.ReadsAs n') : parse (String.ofList n.write) = .ok (.number n') := by
  refine parse_eq_ok_iff.2 ⟨[], ?_, rfl⟩
  have here := h (some (Spells (maxDepth - 1))) [] endsNumber_nil
  rw [List.append_nil] at here
  rwa [String.toList_ofList]

/-- The number that the text of a number is read as. -/
def Number.reread (n : Number) : Number :=
  match Json.parse (String.ofList n.write) with
  | .ok (.number n') => n'
  | _ => n

theorem Number.ReadsAs.reread_eq {n n' : Number} (h : n.ReadsAs n') : n.reread = n' := by
  rw [Number.reread, h.parse]

theorem readsAs_reread (n : Number) : n.ReadsAs n.reread := by
  obtain ⟨n', h⟩ := exists_readsAs n
  rwa [h.reread_eq]

theorem reread_integer {n : Int} (fits : Fits64 n) : (Number.integer n fits).reread = .integer n fits :=
  (readsAs_integer fits).reread_eq

/-- The digits of a number make an integer that a double holds, at a power of ten that a double holds. -/
def Number.FewDigits (n : Number) : Prop :=
  n.literal.decimal.digits ≤ 2 ^ 53 ∧ n.literal.decimal.exponent.natAbs ≤ 22

theorem reread_of_fewDigits {x : Double} (few : (Number.double x).FewDigits) :
    (Number.double x).reread = .double x := by
  have found := ofScaled_of_covers few.1 few.2 (covers_decimal x)
  rw [(readsAs_of_scaled found).reread_eq]
  cases sign : x.negative with
  | true =>
    obtain ⟨negative, mantissa, place, canonical⟩ := x
    cases sign
    rfl
  | false =>
    obtain ⟨negative, mantissa, place, canonical⟩ := x
    cases sign
    rfl

theorem reread_eq_self {n : Number} (h : n.IsInteger ∨ n.FewDigits) : n.reread = n := by
  cases n with
  | integer n fits => exact reread_integer fits
  | double x =>
    refine reread_of_fewDigits (h.resolve_left ?_)
    rintro ⟨n, fits, e⟩
    cases e

/-! ## Telling a number from its text -/

theorem literal_integer_ne {n : Int} (fits : Fits64 n) (x : Double) :
    (Number.integer n fits).literal ≠ (Number.double x).literal := by
  intro e
  have real := literal_isReal x
  rw [← e] at real
  rcases real with point | mark
  · exact absurd rfl point
  · exact absurd rfl mark

theorem literal_injective {n n' : Number} (sign : n.negative = n'.negative) (e : n.literal = n'.literal) : n = n' := by
  cases n with
  | integer n fits =>
    cases n' with
    | integer n' fits' =>
      have digits : Nat.toDigits 10 n.natAbs = Nat.toDigits 10 n'.natAbs := congrArg Literal.whole e
      have magnitude := congrArg (Nat.ofDigitChars 10 · 0) digits
      rw [Nat.ofDigitChars_ten_toDigits, Nat.ofDigitChars_ten_toDigits] at magnitude
      have signs : n < 0 ↔ n' < 0 := decide_eq_decide.1 sign
      obtain rfl : n = n' := by omega
      rfl
    | double x => exact absurd e (literal_integer_ne fits x)
  | double x =>
    cases n' with
    | integer n' fits' => exact absurd e.symm (literal_integer_ne fits' x)
    | double y =>
      have same : writtenDecimal x = writtenDecimal y := congrArg Literal.decimal e
      have covers := covers_decimal y
      rw [← same] at covers
      have nonneg : 0 ≤ (writtenDecimal x).value := by
        rw [Decimal.value]
        positivity
      rw [(covers_decimal x).unique covers nonneg sign]

theorem write_unique {n n' : Number} {rest rest' : List Char} (ends : EndsNumber rest) (ends' : EndsNumber rest')
    (e : n.write ++ rest = n'.write ++ rest') : n = n' ∧ rest = rest' := by
  have digit (n : Number) (rest : List Char) : ∃ c t, n.literal.text ++ rest = c :: t ∧ c.isDigit = true := by
    have whole := (literal_wellFormed n).whole
    obtain ⟨c, t, e⟩ := List.exists_cons_of_ne_nil whole.ne_nil
    refine ⟨c, t ++ n.literal.tailText ++ rest, ?_, whole.all c (e ▸ List.mem_cons_self)⟩
    rw [Literal.text, e]
    rfl
  obtain ⟨c, t, text, isDigit⟩ := digit n rest
  obtain ⟨c', t', text', isDigit'⟩ := digit n' rest'
  rw [Number.write_eq, Number.write_eq, List.append_assoc, List.append_assoc] at e
  have parts : n.negative = n'.negative ∧ n.literal.text ++ rest = n'.literal.text ++ rest' := by
    cases sign : n.negative <;> cases sign' : n'.negative <;> rw [sign, sign'] at e
    · exact ⟨rfl, e⟩
    · rw [text] at e
      cases e
      exact absurd isDigit (by decide)
    · rw [text'] at e
      cases e
      exact absurd isDigit' (by decide)
    · exact ⟨rfl, (List.cons.inj e).2⟩
  obtain ⟨literals, left⟩ := Literal.text_unique (literal_wellFormed n) (literal_wellFormed n') ends ends' parts.2
  exact ⟨literal_injective parts.1 literals, left⟩

end TypeSketch.Json
