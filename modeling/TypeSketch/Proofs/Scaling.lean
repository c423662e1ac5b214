import TypeSketch.Proofs.Rounding

/-!
# Scaling a decimal to a double

* `mul_of_covers`, `div_of_covers` : a product and a quotient of doubles are rounded once;
* `ofNat_exact`, `powerOfTen_exact` : the natural numbers and the powers of ten that are doubles;
* `ofScaled_of_covers` : few digits at a small power of ten are scaled to the nearest double;
* `exists_divPower`, `exists_ofScaled` : division by a power of ten always gives a double, and scaling
  does so unless what is scaled is nearly beyond the doubles.
-/

namespace TypeSketch.Double

variable {x y z : Double}

/-! ## Arithmetic -/

theorem dyadic_value (mantissa den : ℕ) (place : ℤ) :
    ((mantissa * Nat.pow 2 place.toNat : ℕ) : ℚ) / (den * Nat.pow 2 (-place).toNat : ℕ) =
      mantissa * 2 ^ place / den := by
  rw [zpow_eq_div (by norm_num) place, Nat.pow_eq, Nat.pow_eq]
  push_cast
  field_simp

theorem ofDyadic_of_covers (negative : Bool) {mantissa den : ℕ} {place : ℤ} (hd : 0 < den)
    (h : x.Covers (mantissa * 2 ^ place / den)) :
    ofDyadic? negative mantissa place den = some { x with negative } := by
  rw [← dyadic_value] at h
  exact ofRatio_of_covers negative (Nat.mul_pos hd (Nat.pow_pos (by decide))) h

theorem exists_ofDyadic (negative : Bool) {mantissa den : ℕ} {place : ℤ} (hd : 0 < den)
    (h : (mantissa : ℚ) * 2 ^ place / den < overflow) :
    ∃ x, ofDyadic? negative mantissa place den = some x ∧ x.negative = negative ∧
      x.Covers (mantissa * 2 ^ place / den) := by
  rw [← dyadic_value] at h ⊢
  exact exists_ofRatio negative (Nat.mul_pos hd (Nat.pow_pos (by decide))) h

theorem magnitude_mul (x y : Double) :
    ((x.mantissa * y.mantissa : ℕ) : ℚ) * 2 ^ (x.place + y.place) / (1 : ℕ) = x.magnitude * y.magnitude := by
  rw [zpow_add₀ (by norm_num), magnitude, magnitude]
  push_cast
  ring

theorem magnitude_div_magnitude (x y : Double) :
    (x.mantissa : ℚ) * 2 ^ (x.place - y.place) / y.mantissa = x.magnitude / y.magnitude := by
  rw [zpow_sub₀ (by norm_num), magnitude, magnitude, mul_div_assoc', div_div, mul_comm (y.mantissa : ℚ)]

theorem mul_of_covers (h : z.Covers (x.magnitude * y.magnitude)) :
    x.mul? y = some { z with negative := x.negative != y.negative } := by
  rw [← magnitude_mul] at h
  exact ofDyadic_of_covers _ Nat.one_pos h

theorem div_of_covers (hy : 0 < y.mantissa) (h : z.Covers (x.magnitude / y.magnitude)) :
    x.div? y = some { z with negative := x.negative != y.negative } := by
  rw [← magnitude_div_magnitude] at h
  exact ofDyadic_of_covers _ hy h

theorem exists_mul (h : x.magnitude * y.magnitude < overflow) :
    ∃ z, x.mul? y = some z ∧ z.negative = (x.negative != y.negative) ∧ z.Covers (x.magnitude * y.magnitude) := by
  rw [← magnitude_mul] at h ⊢
  exact exists_ofDyadic _ Nat.one_pos h

theorem exists_div (hy : 0 < y.mantissa) (h : x.magnitude / y.magnitude < overflow) :
    ∃ z, x.div? y = some z ∧ z.negative = (x.negative != y.negative) ∧ z.Covers (x.magnitude / y.magnitude) := by
  rw [← magnitude_div_magnitude] at h ⊢
  exact exists_ofDyadic _ hy h

theorem magnitude_nonneg (x : Double) : 0 ≤ x.magnitude := by
  rw [magnitude]
  positivity

theorem mantissa_pos (h : 0 < x.magnitude) : 0 < x.mantissa := by
  rw [Nat.pos_iff_ne_zero]
  intro zero
  rw [magnitude, zero, Nat.cast_zero, zero_mul] at h
  exact lt_irrefl 0 h

theorem magnitude_lt_overflow (x : Double) : x.magnitude < overflow := by
  have place : (2 : ℚ) ^ x.place ≤ 2 ^ (971 : ℤ) := zpow_le_zpow_right₀ (by norm_num) x.canonical.2.2.1
  have unit_pos : (0 : ℚ) < 2 ^ (971 : ℤ) := by positivity
  have bound := x.mantissa_lt
  calc x.magnitude ≤ x.mantissa * 2 ^ (971 : ℤ) := mul_le_mul_of_nonneg_left place (Nat.cast_nonneg _)
    _ < overflow := mul_lt_mul_of_pos_right (by linarith) unit_pos

/-! ## Natural numbers and powers of ten -/

theorem natCast_lt_overflow {n : ℕ} (h : n ≤ 10 ^ maxPower) : (n : ℚ) < overflow := by
  have limit : 10 ^ maxPower ≤ 9007199254740991 * 2 ^ 971 := by decide +kernel
  have cast : ((9007199254740991 : ℕ) : ℚ) < 2 ^ 53 - 1 / 2 := by norm_num
  have unit_pos : (0 : ℚ) < (2 ^ 971 : ℕ) := by positivity
  calc (n : ℚ) ≤ (9007199254740991 * 2 ^ 971 : ℕ) := Nat.cast_le.2 (h.trans limit)
    _ = ((9007199254740991 : ℕ) : ℚ) * (2 ^ 971 : ℕ) := Nat.cast_mul _ _
    _ < (2 ^ 53 - 1 / 2) * (2 ^ 971 : ℕ) := mul_lt_mul_of_pos_right cast unit_pos
    _ = overflow := by rw [overflow, Nat.cast_pow]; rfl

theorem exists_ofNat {n : ℕ} (h : n ≤ 10 ^ maxPower) :
    ∃ x, ofNat? n = some x ∧ x.negative = false ∧ x.Covers n := by
  have value : (n : ℚ) / (1 : ℕ) = n := by rw [Nat.cast_one, div_one]
  have found := exists_ofRatio false Nat.one_pos (value.symm ▸ natCast_lt_overflow h)
  rwa [value] at found

theorem ofNat_exact {n k j : ℕ} (h : n ≤ 10 ^ maxPower) (e : n = k * 2 ^ j) (bits : k < 2 ^ 53) :
    ∃ x, ofNat? n = some x ∧ x.negative = false ∧ x.magnitude = n := by
  obtain ⟨x, found, sign, covers⟩ := exists_ofNat h
  have value : (n : ℚ) = k * 2 ^ (j : ℤ) := by
    rw [e, zpow_natCast]
    push_cast
    rfl
  refine ⟨x, found, sign, ?_⟩
  rw [value] at covers ⊢
  exact covers.exact bits (by omega)

theorem powerOfTen_exact {k : ℕ} (h : k ≤ 22) :
    ∃ x, powerOfTen? k = some x ∧ x.negative = false ∧ x.magnitude = 10 ^ k := by
  have bits : 5 ^ k < 2 ^ 53 := (Nat.pow_le_pow_right (by decide) h).trans_lt (by decide)
  have parts : 10 ^ k = 5 ^ k * 2 ^ k := by rw [← Nat.mul_pow]
  have small : 10 ^ k ≤ 10 ^ maxPower := Nat.pow_le_pow_right (by decide) (h.trans (by decide))
  obtain ⟨x, found, sign, value⟩ := ofNat_exact small parts bits
  refine ⟨x, found, sign, ?_⟩
  rw [value, Nat.cast_pow, Nat.cast_ofNat]

theorem exists_powerOfTen {k : ℕ} (h : k ≤ maxPower) :
    ∃ x, powerOfTen? k = some x ∧ x.negative = false ∧ x.Covers (10 ^ k) := by
  obtain ⟨x, found, sign, covers⟩ := exists_ofNat (Nat.pow_le_pow_right (by decide) h : 10 ^ k ≤ 10 ^ maxPower)
  refine ⟨x, found, sign, ?_⟩
  rwa [Nat.cast_pow, Nat.cast_ofNat] at covers

/-! ## Division by a power of ten -/

theorem divPower_eq (x : Double) {k : ℕ} (h : k ≤ maxPower) {y : Double} (power : powerOfTen? k = some y) :
    x.divPower? k = x.div? y := by
  rw [divPower?, if_pos h, power]
  rfl

theorem exists_div_powerOfTen (x : Double) {k : ℕ} (h : k ≤ maxPower) :
    ∃ y z, powerOfTen? k = some y ∧ x.div? y = some z ∧ z.negative = x.negative ∧
      z.Covers (x.magnitude / y.magnitude) := by
  obtain ⟨y, power, sign, covers⟩ := exists_powerOfTen h
  have one_le := covers.one_le_magnitude (one_le_pow₀ (by norm_num))
  have small : x.magnitude / y.magnitude < overflow :=
    (div_le_self x.magnitude_nonneg one_le).trans_lt x.magnitude_lt_overflow
  obtain ⟨z, found, negative, near⟩ := exists_div (mantissa_pos (one_pos.trans_le one_le)) small
  rw [sign, Bool.bne_false] at negative
  exact ⟨y, z, power, found, negative, near⟩

/-- Division by a power of ten always gives a double. -/
theorem exists_divPower (x : Double) (k : ℕ) : ∃ z, x.divPower? k = some z ∧ z.negative = x.negative := by
  induction k using Nat.strongRecOn generalizing x with
  | ind k ih =>
    by_cases small : k ≤ maxPower
    · obtain ⟨y, z, power, found, negative, -⟩ := exists_div_powerOfTen x small
      exact ⟨z, (divPower_eq x small power).trans found, negative⟩
    · rw [divPower?, if_neg small]
      split_ifs with zero
      · exact ⟨x, rfl, rfl⟩
      · obtain ⟨y, z, power, found, negative, -⟩ := exists_div_powerOfTen x (le_refl maxPower)
        obtain ⟨w, rest, negative'⟩ := ih (k - maxPower) (by unfold maxPower at *; omega) z
        refine ⟨w, ?_, negative'.trans negative⟩
        rw [power]
        simp only [Option.bind_eq_bind, Option.bind_some]
        rw [found]
        exact rest

/-! ## Scaling -/

theorem ofNat_exact_of_le {n : ℕ} (h : n ≤ 2 ^ 53) :
    ∃ x, ofNat? n = some x ∧ x.negative = false ∧ x.magnitude = n := by
  have small : n ≤ 10 ^ maxPower := h.trans (by decide +kernel)
  rcases h.lt_or_eq with bits | power
  · exact ofNat_exact small (k := n) (j := 0) (by omega) bits
  · exact ofNat_exact small (k := 1) (j := 53) (by omega) (by decide)

/-- Few digits at a small power of ten are scaled to the nearest double. -/
theorem ofScaled_of_covers {n : ℕ} {e : ℤ} (digits : n ≤ 2 ^ 53) (scale : e.natAbs ≤ 22)
    (h : x.Covers (n * 10 ^ e)) : ofScaled? n e = some { x with negative := false } := by
  obtain ⟨y, read, sign, value⟩ := ofNat_exact_of_le digits
  obtain ⟨p, power, sign', value'⟩ := powerOfTen_exact scale
  have limit : e.natAbs ≤ maxPower := scale.trans (by decide)
  rw [ofScaled?, read]
  simp only [Option.bind_eq_bind, Option.bind_some]
  split_ifs with below zero small
  · have quotient : x.Covers (y.magnitude / p.magnitude) := by
      have exponent : (10 : ℚ) ^ e = (10 ^ e.natAbs)⁻¹ := by
        rw [← zpow_natCast, ← zpow_neg]
        congr 1
        omega
      rwa [value, value', div_eq_mul_inv, ← exponent]
    have positive : 0 < p.mantissa := mantissa_pos (by rw [value']; positivity)
    rw [divPower_eq y limit power, div_of_covers positive quotient, sign, sign']
    rfl
  · obtain rfl : n = 0 := by
      rw [magnitude, zero, Nat.cast_zero, zero_mul] at value
      exact_mod_cast value.symm
    rw [Nat.cast_zero, zero_mul] at h
    have nothing : x.Covers ((0 : ℕ) / (1 : ℕ)) := by rwa [Nat.cast_zero, zero_div]
    exact read.symm.trans (ofRatio_of_covers false Nat.one_pos nothing)
  · have product : x.Covers (y.magnitude * p.magnitude) := by
      have exponent : (10 : ℚ) ^ e = 10 ^ e.natAbs := by
        rw [← zpow_natCast]
        congr 1
        omega
      rwa [value, value', ← exponent]
    have same : e.toNat = e.natAbs := by omega
    rw [same, power]
    simp only [Option.bind_some]
    rw [mul_of_covers product, sign, sign']
    rfl
  · omega

/-- The end of the range in which the two roundings before the last one cannot take what is scaled
beyond the doubles. -/
def edge : ℚ := (2 ^ 53 - 7 / 2) * 2 ^ (971 : ℤ)

theorem Covers.magnitude_le {q : ℚ} (h : x.Covers q) (hq : 1 ≤ q) : x.magnitude * (1 - 1 / 2 ^ 53) ≤ q := by
  have close := (abs_le.1 (h.error_le (h.normal hq))).2
  linarith

theorem mul_lt_overflow {a b : ℚ} (ha : x.Covers a) (hb : y.Covers b) (one_le_a : 1 ≤ a) (one_le_b : 1 ≤ b)
    (h : a * b ≤ edge) : x.magnitude * y.magnitude < overflow := by
  have unit_pos : (0 : ℚ) < 2 ^ (971 : ℤ) := by positivity
  have below : x.magnitude * (1 - 1 / 2 ^ 53) * (y.magnitude * (1 - 1 / 2 ^ 53)) ≤ edge := by
    refine le_trans ?_ h
    exact mul_le_mul (ha.magnitude_le one_le_a) (hb.magnitude_le one_le_b)
      (mul_nonneg y.magnitude_nonneg (by norm_num)) (one_pos.le.trans one_le_a)
  rw [overflow]
  rw [edge] at below
  generalize (2 : ℚ) ^ (971 : ℤ) = unit at *
  generalize x.magnitude = m, y.magnitude = n at *
  -- Each of the two roundings added at most this part of its result, and the edge leaves room for both.
  have product : m * n * (1 - 1 / 2 ^ 53) ^ 2 ≤ (2 ^ 53 - 7 / 2) * unit := by linarith
  have slack : (2 ^ 53 - 7 / 2) * unit < (2 ^ 53 - 1 / 2) * unit * (1 - 1 / 2 ^ 53) ^ 2 := by
    rw [mul_right_comm]
    exact mul_lt_mul_of_pos_right (by norm_num) unit_pos
  exact lt_of_mul_lt_mul_right (product.trans_lt slack) (by norm_num)

theorem edge_lt {e : ℤ} (h : (maxPower : ℤ) < e) : edge < 10 ^ e := by
  have limit : 2 ^ 53 * 2 ^ 971 ≤ 10 ^ (maxPower + 1) := by decide +kernel
  have unit_pos : (0 : ℚ) < 2 ^ (971 : ℤ) := by positivity
  calc edge < 2 ^ 53 * 2 ^ (971 : ℤ) := mul_lt_mul_of_pos_right (by norm_num) unit_pos
    _ = ((2 ^ 53 * 2 ^ 971 : ℕ) : ℚ) := by rw [Nat.cast_mul, Nat.cast_pow, Nat.cast_pow]; rfl
    _ ≤ ((10 ^ (maxPower + 1) : ℕ) : ℚ) := Nat.cast_le.2 limit
    _ = 10 ^ ((maxPower + 1 : ℕ) : ℤ) := by rw [Nat.cast_pow, zpow_natCast]; rfl
    _ ≤ 10 ^ e := zpow_le_zpow_right₀ (by norm_num) (by omega)

theorem exists_ofScaled {n : ℕ} {e : ℤ} (digits : n < 2 ^ 64) (small : n * 10 ^ e ≤ edge) :
    ∃ y, ofScaled? n e = some y ∧ y.negative = false := by
  have bits : n ≤ 10 ^ maxPower := digits.le.trans (by decide +kernel)
  obtain ⟨y, read, sign, covers⟩ := exists_ofNat bits
  rw [ofScaled?, read]
  simp only [Option.bind_eq_bind, Option.bind_some]
  split_ifs with below zero power
  · obtain ⟨z, found, negative⟩ := exists_divPower y e.natAbs
    exact ⟨z, found, negative.trans sign⟩
  · exact ⟨y, rfl, sign⟩
  all_goals
    obtain ⟨k, rfl⟩ := Int.eq_ofNat_of_zero_le (Int.not_lt.1 below)
    rw [Int.toNat_natCast] at *
    have one_le : (1 : ℚ) ≤ n := by
      rw [Nat.one_le_cast, Nat.one_le_iff_ne_zero]
      rintro rfl
      rw [Nat.cast_zero] at covers
      exact lt_irrefl 0 (covers.pos (Nat.pos_of_ne_zero zero))
  · obtain ⟨p, found, sign', covers'⟩ := exists_powerOfTen power
    rw [zpow_natCast] at small
    obtain ⟨z, product, negative, -⟩ :=
      exists_mul (mul_lt_overflow covers covers' one_le (one_le_pow₀ (by norm_num)) small)
    rw [found]
    refine ⟨z, product, ?_⟩
    rw [negative, sign, sign']
    rfl
  · -- A power of ten beyond the doubles is beyond the edge.
    have large := edge_lt (by omega : (maxPower : ℤ) < k)
    have : (1 : ℚ) * 10 ^ (k : ℤ) ≤ n * 10 ^ (k : ℤ) := mul_le_mul_of_nonneg_right one_le (by positivity)
    linarith

end TypeSketch.Double
