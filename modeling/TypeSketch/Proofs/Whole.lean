import TypeSketch.Proofs.ExactValue
import TypeSketch.Proofs.Scaling

/-!
# Whole numbers after scaling

The digits of a number are rounded to a double first, and the double is scaled by a power of ten, with a rounding
again. What is left of a whole number is followed through both of them.

* `ofScaled_cases` : the steps of scaling, each with the value that its result rounds;
* `le_magnitude_of_ofScaled` : a significand of 64 bits that is scaled up stays beyond the safe integers;
* `scaled_close` : a number below 2^52 with zeros after it is scaled to less than one away from it, so that it is an
  integer again only if it is the same (`ofScaled_whole`);
* `place_of_ofScaled` : from 2^52 to the greatest safe integer it is scaled to an integer that is safe too;
* `ofScaled_value` : both for a safe whole number in any form.
-/

namespace TypeSketch.Double

variable {x y z : Double} {q : ℚ}

/-! ## Steps -/

theorem covers_of_ofNat {n : ℕ} (h : ofNat? n = some x) : x.negative = false ∧ x.Covers n := by
  have covers := covers_of_ofRatio Nat.one_pos h
  rwa [Nat.cast_one, div_one] at covers

theorem covers_of_ofDyadic {negative : Bool} {mantissa den : ℕ} {place : ℤ} (hd : 0 < den)
    (h : ofDyadic? negative mantissa place den = some x) :
    x.negative = negative ∧ x.Covers (mantissa * 2 ^ place / den) := by
  rw [← dyadic_value]
  exact covers_of_ofRatio (Nat.mul_pos hd (Nat.pow_pos (by decide))) h

theorem covers_of_mul (h : x.mul? y = some z) :
    z.negative = (x.negative != y.negative) ∧ z.Covers (x.magnitude * y.magnitude) := by
  rw [← magnitude_mul]
  exact covers_of_ofDyadic Nat.one_pos h

theorem covers_of_div (hy : 0 < y.mantissa) (h : x.div? y = some z) :
    z.negative = (x.negative != y.negative) ∧ z.Covers (x.magnitude / y.magnitude) := by
  rw [← magnitude_div_magnitude]
  exact covers_of_ofDyadic hy h

/-- What a double is scaled to, by the sign of the power. -/
theorem ofScaled_cases {s : ℕ} {e : ℤ} (h : ofScaled? s e = some z) :
    ∃ y : Double, y.negative = false ∧ y.Covers s ∧
      (e < 0 ∧ y.divPower? e.natAbs = some z ∨
        0 ≤ e ∧ y.mantissa = 0 ∧ z = y ∨
        0 ≤ e ∧ ∃ p : Double, p.negative = false ∧ p.Covers (10 ^ e.toNat) ∧ y.mul? p = some z) := by
  rw [ofScaled?, Option.bind_eq_bind, Option.bind_eq_some_iff] at h
  obtain ⟨y, read, h⟩ := h
  obtain ⟨sign, covers⟩ := covers_of_ofNat read
  refine ⟨y, sign, covers, ?_⟩
  split_ifs at h with below zero small
  · exact .inl ⟨below, h⟩
  · exact .inr (.inl ⟨not_lt.1 below, zero, (Option.some.inj h).symm⟩)
  · rw [Option.bind_eq_some_iff] at h
    obtain ⟨p, power, product⟩ := h
    obtain ⟨p', power', sign', covers'⟩ := exists_powerOfTen small
    rw [power] at power'
    obtain rfl := Option.some.inj power'
    exact .inr (.inr ⟨not_lt.1 below, p, sign', covers', product⟩)

/-- A number with at most 53 bits between its leading bit and its last one is kept. -/
theorem Covers.exact_natCast {n k j : ℕ} (h : x.Covers n) (e : n = k * 2 ^ j) (bits : k < 2 ^ 53) :
    x.magnitude = n := by
  have value : (n : ℚ) = k * 2 ^ (j : ℤ) := by
    rw [e, zpow_natCast]
    push_cast
    rfl
  rw [value] at h ⊢
  exact h.exact bits (by omega)

/-! ## Beyond the exact integers -/

/-- From 2^52 on all doubles are whole. -/
theorem exists_natCast_of_le (h : 2 ^ 52 ≤ x.magnitude) : ∃ n : ℕ, x.magnitude = n := by
  have place : 0 ≤ x.place := by
    by_contra below
    have small : (2 : ℚ) ^ x.place ≤ 2 ^ (-1 : ℤ) := zpow_le_zpow_right₀ (by norm_num) (by omega)
    have := x.mantissa_lt
    have : x.magnitude ≤ x.mantissa * 2 ^ (-1 : ℤ) := mul_le_mul_of_nonneg_left small (Nat.cast_nonneg _)
    norm_num at this
    linarith
  obtain ⟨j, e⟩ := Int.eq_ofNat_of_zero_le place
  refine ⟨x.mantissa * 2 ^ j, ?_⟩
  rw [magnitude, e, zpow_natCast]
  push_cast
  rfl

theorem exists_intCast_iff (x : Double) : (∃ k : ℤ, x.value = k) ↔ ∃ n : ℕ, x.magnitude = n := by
  rw [exists_intCast_value_iff]
  constructor
  · rintro ⟨k, whole⟩
    have nonneg : (0 : ℚ) ≤ k := whole ▸ x.magnitude_nonneg
    obtain ⟨n, rfl⟩ := Int.eq_ofNat_of_zero_le (Int.cast_nonneg_iff.1 nonneg)
    exact ⟨n, by rw [whole, Int.cast_natCast]⟩
  · rintro ⟨n, whole⟩
    exact ⟨n, by rw [whole, Int.cast_natCast]⟩

theorem Covers.le_magnitude (h : x.Covers q) (hq : 1 ≤ q) : q ≤ x.magnitude * (1 + 1 / 2 ^ 53) := by
  have close := (abs_le.1 (h.error_le (h.normal hq))).1
  linarith

/-- A significand of some length at any power of ten is scaled to a large double. -/
theorem le_magnitude_of_ofScaled {n : ℕ} {e : ℤ} (large : 2 ^ 60 ≤ n) (above : 0 ≤ e) (h : ofScaled? n e = some z) :
    2 ^ 53 ≤ z.magnitude := by
  have n_large : (2 : ℚ) ^ 60 ≤ n := by exact_mod_cast large
  obtain ⟨y, -, covers, ⟨below, -⟩ | ⟨-, zero, -⟩ | ⟨-, p, -, covers', product⟩⟩ := ofScaled_cases h
  · omega
  · have y_large := covers.le_magnitude (by linarith)
    rw [magnitude, zero] at y_large
    norm_num at y_large
    linarith
  · have y_large := covers.le_magnitude (by linarith)
    have one_le : (1 : ℚ) ≤ 10 ^ e.toNat := one_le_pow₀ (by norm_num)
    have p_large := covers'.one_le_magnitude one_le
    have z_large := (covers_of_mul product).2.le_magnitude (by nlinarith)
    nlinarith

/-! ## A whole number with zeros after it -/

/-- Scaling down is one division by an exact power of ten. -/
theorem covers_of_ofScaled {n k : ℕ} (some : 0 < k) (exact : k ≤ 22) (h : ofScaled? n (-k : ℤ) = .some z) :
    ∃ y : Double, y.Covers n ∧ z.Covers (y.magnitude / 10 ^ k) := by
  obtain ⟨y, -, covers, ⟨-, quotient⟩ | ⟨above, -⟩ | ⟨above, -⟩⟩ := ofScaled_cases h
  · obtain ⟨p, power, -, value⟩ := powerOfTen_exact exact
    have positive : 0 < p.mantissa := mantissa_pos (by rw [value]; positivity)
    rw [Int.natAbs_neg, Int.natAbs_natCast, divPower_eq y (exact.trans (by decide)) power] at quotient
    refine ⟨y, covers, ?_⟩
    rw [← value]
    exact (covers_of_div positive quotient).2
  · omega
  · omega

theorem le_of_mul_pow_lt {n k : ℕ} (pos : 0 < n) (fits : n * 10 ^ k < 2 ^ 64) : k ≤ 19 := by
  by_contra more
  have : 10 ^ 20 ≤ 10 ^ k := Nat.pow_le_pow_right (by decide) (by omega)
  have : 1 * 10 ^ k ≤ n * 10 ^ k := Nat.mul_le_mul_right _ pos
  omega

section

variable {n k : ℕ}

/-- Powers of two are scaled without loss. -/
theorem magnitude_of_power {i : ℕ} (exact : k ≤ 22) (hy : y.Covers (n * 10 ^ k : ℕ)) (e : n = 2 ^ i) :
    y.magnitude / 10 ^ k = n := by
  have bits : 5 ^ k < 2 ^ 53 := (Nat.pow_le_pow_right (by decide) exact).trans_lt (by decide)
  have parts : n * 10 ^ k = 5 ^ k * 2 ^ (i + k) := by
    rw [e, show 10 = 5 * 2 from rfl, Nat.mul_pow, Nat.pow_add]
    ring
  rw [hy.exact_natCast parts bits, Nat.cast_mul, Nat.cast_pow, Nat.cast_ofNat,
    mul_div_cancel_right₀ _ (by positivity)]

theorem quotient_close (pos : 0 < n) (hy : y.Covers (n * 10 ^ k : ℕ)) :
    |y.magnitude / 10 ^ k - n| ≤ y.magnitude / 10 ^ k / 2 ^ 53 := by
  have power_pos : (0 : ℚ) < 10 ^ k := by positivity
  have one_le : (1 : ℚ) ≤ (n * 10 ^ k : ℕ) := Nat.one_le_cast.2 (Nat.mul_pos pos (Nat.pow_pos (by decide)))
  have close := hy.error_le (hy.normal one_le)
  have counted : y.magnitude / 10 ^ k - n = (y.magnitude - (n * 10 ^ k : ℕ)) / 10 ^ k := by
    push_cast
    rw [sub_div, mul_div_cancel_right₀ _ power_pos.ne']
  rw [counted, abs_div, abs_of_pos power_pos, div_right_comm]
  gcongr

/-- Below 2^52 scaling goes less than one away. -/
theorem scaled_close (pos : 0 < n) (small : n < 2 ^ 52) (exact : k ≤ 22) (hy : y.Covers (n * 10 ^ k : ℕ))
    (hz : z.Covers (y.magnitude / 10 ^ k)) : |z.magnitude - n| < 1 := by
  have close := abs_le.1 (quotient_close pos hy)
  have bound : (n : ℚ) + 1 ≤ 2 ^ 52 := by exact_mod_cast Nat.succ_le_of_lt small
  have one_le : 1 ≤ y.magnitude / 10 ^ k := by
    rcases Nat.eq_or_lt_of_le pos with one | more
    · rw [magnitude_of_power (i := 0) exact hy one.symm, ← one]
      norm_num
    · have : (2 : ℚ) ≤ n := by exact_mod_cast more
      linarith
  have close' := abs_le.1 (hz.error_le (hz.normal one_le))
  rw [abs_lt]
  constructor <;> linarith

/-- Between 2^52 and 2^53 the last place is that of the units. -/
theorem Covers.place_eq_zero (h : x.Covers q) (low : 2 ^ 52 ≤ q) (high : q < 2 ^ 53 - 1 / 2) : x.place = 0 := by
  have pos : 0 < q := lt_of_lt_of_le (by norm_num) low
  have last : lastPlace q = 0 := by
    refine lastPlace_eq pos (by decide) ?_ (.inl ?_)
    · rw [zpow_zero, div_one]
      linarith
    · rwa [zpow_zero, div_one]
  rcases h.lastPlace_cases pos with place | ⟨-, place, rounds⟩
  · rw [← place, last]
  · rw [last] at place
    rw [← place, zpow_zero, div_one] at rounds
    have lower := rounds.lower
    push_cast at lower
    linarith

theorem scaled_place (low : 2 ^ 52 ≤ n) (high : n < 2 ^ 53 - 1) (exact : k ≤ 22) (hy : y.Covers (n * 10 ^ k : ℕ))
    (hz : z.Covers (y.magnitude / 10 ^ k)) : z.place = 0 := by
  have high' : (n : ℚ) + 2 ≤ 2 ^ 53 := by exact_mod_cast (by omega : n + 2 ≤ 2 ^ 53)
  have close := abs_le.1 (quotient_close (by omega) hy)
  rcases Nat.eq_or_lt_of_le low with power | more
  · have value := magnitude_of_power exact hy power.symm
    rw [value] at hz
    refine hz.place_eq_zero ?_ (by linarith)
    exact_mod_cast low
  · have : (2 : ℚ) ^ 52 + 1 ≤ n := by exact_mod_cast more
    exact hz.place_eq_zero (by linarith) (by linarith)

/-- The greatest safe integer is scaled to itself or to the one before it. -/
theorem scaled_greatest : ∀ k : Fin 3,
    (ofScaled? ((2 ^ 53 - 1) * 10 ^ (k + 1 : ℕ)) (-(k + 1 : ℕ))).all (fun z => z.place = 0) = true := by
  decide +kernel

theorem place_of_ofScaled (low : 2 ^ 52 ≤ n) (safe : n ≤ 2 ^ 53 - 1) (some : 0 < k) (fits : n * 10 ^ k < 2 ^ 64)
    (h : ofScaled? (n * 10 ^ k) (-k : ℤ) = .some z) : z.place = 0 := by
  rcases Nat.eq_or_lt_of_le safe with rfl | less
  · have few : k < 4 := by
      by_contra more
      have : 10 ^ 4 ≤ 10 ^ k := Nat.pow_le_pow_right (by decide) (by omega)
      omega
    obtain ⟨i, rfl⟩ : ∃ i : Fin 3, k = i + 1 := ⟨⟨k - 1, by omega⟩, by dsimp only; omega⟩
    have place := scaled_greatest i
    rw [h] at place
    simpa using place
  · have exact : k ≤ 22 := (le_of_mul_pow_lt (by omega) fits).trans (by decide)
    obtain ⟨y, hy, hz⟩ := covers_of_ofScaled some exact h
    exact scaled_place low less exact hy hz

/-- **A whole number with zeros after it** that is scaled back is whole again exactly if it is the same or so large that
all doubles there are whole. It is never beyond the safe integers. -/
theorem ofScaled_whole (pos : 0 < n) (safe : n ≤ 2 ^ 53 - 1) (some : 0 < k) (fits : n * 10 ^ k < 2 ^ 64)
    (h : ofScaled? (n * 10 ^ k) (-k : ℤ) = .some z) :
    z.magnitude ≤ 2 ^ 53 - 1 ∧ ((∃ m : ℕ, z.magnitude = m) ↔ z.magnitude = n ∨ 2 ^ 52 ≤ n) := by
  by_cases low : 2 ^ 52 ≤ n
  · have value : z.magnitude = z.mantissa := by
      rw [magnitude, place_of_ofScaled low safe some fits h, zpow_zero, mul_one]
    have bound := z.mantissa_lt
    exact ⟨by linarith, iff_of_true ⟨_, value⟩ (.inr low)⟩
  · have exact : k ≤ 22 := (le_of_mul_pow_lt pos fits).trans (by decide)
    obtain ⟨y, hy, hz⟩ := covers_of_ofScaled some exact h
    have close := abs_lt.1 (scaled_close pos (by omega) exact hy hz)
    have small : (n : ℚ) + 1 ≤ 2 ^ 52 := by exact_mod_cast (by omega : n + 1 ≤ 2 ^ 52)
    refine ⟨by linarith, ?_, ?_⟩
    · rintro ⟨m, whole⟩
      left
      rw [whole] at close ⊢
      have above : m < n + 1 := by exact_mod_cast (by linarith : (m : ℚ) < n + 1)
      have below : n < m + 1 := by exact_mod_cast (by linarith : (n : ℚ) < m + 1)
      rw [show m = n by omega]
    · rintro (same | large)
      · exact ⟨n, same⟩
      · exact absurd large low

end

/-! ## Signs -/

theorem value_zero (negative : Bool) : (zero negative).value = 0 := by
  have empty : (zero negative).magnitude = 0 := zero_mul _
  rw [value, empty, neg_zero, ite_self]

theorem value_neg (z : Double) : z.neg.value = -z.value := by
  unfold value neg
  cases z.negative <;> simp [magnitude]

theorem value_signed (negative : Bool) {z : Double} (positive : z.negative = false) :
    (if negative then z.neg else z).value = if negative then -z.magnitude else z.magnitude := by
  have value : z.value = z.magnitude := by rw [value, positive, if_neg Bool.false_ne_true]
  cases negative with
  | false => exact value
  | true => rw [if_pos rfl, if_pos rfl, z.value_neg, value]

theorem magnitude_signed (negative : Bool) (z : Double) : (if negative then z.neg else z).magnitude = z.magnitude := by
  cases negative <;> rfl

theorem abs_value_signed (negative : Bool) (z : Double) : |(if negative then z.neg else z).value| = z.magnitude := by
  rw [abs_value, magnitude_signed]

/-! ## Any form of a whole number -/

theorem negative_of_ofScaled {s : ℕ} {e : ℤ} (h : ofScaled? s e = some z) : z.negative = false := by
  obtain ⟨y, sign, -, ⟨-, quotient⟩ | ⟨-, -, rfl⟩ | ⟨-, p, sign', -, product⟩⟩ := ofScaled_cases h
  · obtain ⟨z', found, negative⟩ := exists_divPower y e.natAbs
    rw [quotient] at found
    rw [Option.some.inj found, negative, sign]
  · exact sign
  · rw [(covers_of_mul product).1, sign, sign']
    rfl

/-- A safe whole number is scaled to itself if its digits fit a double. -/
theorem ofScaled_exact {s n : ℕ} {e : ℤ} (digits : s ≤ 2 ^ 53) (scale : e.natAbs ≤ 22) (value : (s : ℚ) * 10 ^ e = n)
    (small : n < 2 ^ 53) (h : ofScaled? s e = some z) : z.magnitude = n := by
  obtain ⟨y, -, -, magnitude⟩ := ofNat_exact_of_le small.le
  have covers : y.Covers (s * 10 ^ e) := by
    rw [value, ← magnitude]
    exact y.covers_magnitude
  rw [ofScaled_of_covers digits scale covers] at h
  rw [← Option.some.inj h]
  exact magnitude

theorem divPower_zero (negative : Bool) (k : ℕ) : ∃ x, (zero negative).divPower? k = some x ∧ x.mantissa = 0 := by
  have empty : (zero negative).mantissa = 0 := rfl
  rw [divPower?]
  split_ifs with small
  · obtain ⟨p, power, -, -⟩ := exists_powerOfTen small
    rw [power, Option.bind_eq_bind, Option.bind_some, div?, ofDyadic?, empty, Nat.zero_mul, ofRatio?, if_pos rfl]
    exact ⟨_, rfl, rfl⟩
  · exact ⟨_, rfl, rfl⟩

theorem ofScaled_zero {e : ℤ} (h : ofScaled? 0 e = some z) : z.magnitude = 0 := by
  have read : ofNat? 0 = some (zero false) := rfl
  have empty : (zero false).mantissa = 0 := rfl
  rw [ofScaled?, read, Option.bind_eq_bind, Option.bind_some] at h
  by_cases below : e < 0
  · obtain ⟨x, found, nothing⟩ := divPower_zero false e.natAbs
    rw [if_pos below, found] at h
    rw [← Option.some.inj h, magnitude, nothing, Nat.cast_zero, zero_mul]
  · rw [if_neg below, if_pos empty] at h
    rw [← Option.some.inj h, magnitude, empty, Nat.cast_zero, zero_mul]

/-- **A safe whole number in any form** is whole after scaling exactly if it is the same or at least 2^52. It is the
same if its digits fit a double. -/
theorem ofScaled_value {s n : ℕ} {e : ℤ} (fits : s < 2 ^ 64) (safe : n ≤ 2 ^ 53 - 1) (value : (s : ℚ) * 10 ^ e = n)
    (h : ofScaled? s e = some z) :
    z.magnitude ≤ 2 ^ 53 - 1 ∧ ((∃ m : ℕ, z.magnitude = m) ↔ z.magnitude = n ∨ 2 ^ 52 ≤ n) ∧
      (s ≤ 2 ^ 53 → z.magnitude = n) := by
  have bound : (n : ℚ) + 1 ≤ 2 ^ 53 := by exact_mod_cast (by omega : n + 1 ≤ 2 ^ 53)
  have same (kept : z.magnitude = n) : z.magnitude ≤ 2 ^ 53 - 1 ∧
      ((∃ m : ℕ, z.magnitude = m) ↔ z.magnitude = n ∨ 2 ^ 52 ≤ n) ∧ (s ≤ 2 ^ 53 → z.magnitude = n) := by
    rw [kept]
    exact ⟨by linarith, iff_of_true ⟨n, rfl⟩ (.inl rfl), fun _ => rfl⟩
  rcases Nat.eq_zero_or_pos n with rfl | pos
  · obtain rfl : s = 0 := by
      rw [Nat.cast_zero, mul_eq_zero_iff_right (by positivity)] at value
      exact_mod_cast value
    exact same (by rw [ofScaled_zero h, Nat.cast_zero])
  by_cases below : e < 0
  · obtain ⟨k, rfl⟩ : ∃ k : ℕ, e = -(k : ℤ) := ⟨e.natAbs, by omega⟩
    obtain rfl : s = n * 10 ^ k := by
      rw [zpow_neg, zpow_natCast, ← div_eq_mul_inv, div_eq_iff (by positivity)] at value
      exact_mod_cast value
    obtain ⟨safe', whole⟩ := ofScaled_whole pos safe (by omega) fits h
    refine ⟨safe', whole, fun few => ?_⟩
    have small := le_of_mul_pow_lt pos fits
    exact ofScaled_exact few (by omega) value (by omega) h
  · obtain ⟨k, rfl⟩ := Int.eq_ofNat_of_zero_le (not_lt.1 below)
    obtain rfl : s * 10 ^ k = n := by
      rw [zpow_natCast] at value
      exact_mod_cast value
    have some : 0 < s := Nat.pos_of_mul_pos_right pos
    have less : s ≤ s * 10 ^ k := Nat.le_mul_of_pos_right s (Nat.pow_pos (by decide))
    have small := le_of_mul_pow_lt some (by omega : s * 10 ^ k < 2 ^ 64)
    exact same (ofScaled_exact (by omega) (by omega) value (by omega) h)

end TypeSketch.Double
