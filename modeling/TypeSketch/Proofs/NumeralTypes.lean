import TypeSketch.Proofs.Spelling
import TypeSketch.Proofs.Whole

/-!
# Types of numbers as they are written

The type of a number is decided by the double or integer that is read. Here it is told from what is written.

* `value_of_plain` : a number without fraction and exponent keeps its value, or it is beyond the safe integers before
  and after;
* `ofValue_plain` : so its written value decides its type;
* `gathered_past_point`, `gathered_before_point` : digits of a safe whole number that are left out are zeros, which the
  power of ten makes up for;
* `double_of_whole`, `ofValue_whole` : a safe whole number with a fraction or an exponent is an integer exactly if
  rounding and scaling leave it as it is, or anything whole in its place;
* `ofValue_nineDigits` : they may leave a fraction.
-/

namespace TypeSketch

open Json

/-! ## Scaled numbers -/

section

variable {negative : Bool} {significand : ℕ} {exponent : ℤ} {n : Number} {rest : List Char}

theorem exists_of_scaled (h : scaled negative significand exponent [] = .ok (n, rest)) :
    ∃ z : Double, Double.ofScaled? significand exponent = some z ∧
      n = .double (if negative then z.neg else z) := by
  rw [scaled] at h
  cases found : Double.ofScaled? significand exponent with
  | none =>
    rw [found] at h
    cases h
  | some z =>
    rw [found] at h
    cases h
    exact ⟨z, rfl, rfl⟩

end

namespace Json.Numeral

variable {l : Numeral} {n : Number} {rest : List Char}

/-! ## Plain numbers -/

theorem value_plain (plain : l.IsPlain) : l.value = if l.negative then -(l.digits : ℚ) else l.digits := by
  have scale : l.scale = 0 := by rw [scale, shift, plain.1, plain.2]; rfl
  rw [value, size, scale, zpow_zero, mul_one]

theorem abs_value (l : Numeral) : |l.value| = l.size := by
  have nonneg : 0 ≤ l.size := by rw [size]; positivity
  unfold value
  split
  · rw [abs_neg, abs_of_nonneg nonneg]
  · exact abs_of_nonneg nonneg

/-- A significand of some length is scaled to a whole number beyond the safe integers. -/
theorem large_of_scaled {negative : Bool} {significand : ℕ} {exponent : ℤ} (large : 2 ^ 60 ≤ significand)
    (above : 0 ≤ exponent) (h : scaled negative significand exponent [] = .ok (n, rest)) :
    (∃ k : ℤ, n.value = k) ∧ 2 ^ 53 ≤ |n.value| := by
  obtain ⟨z, found, rfl⟩ := exists_of_scaled h
  have bound := Double.le_magnitude_of_ofScaled large above found
  refine ⟨(Double.exists_intCast_iff _).2 ?_, ?_⟩
  · rw [Double.magnitude_signed]
    exact z.exists_natCast_of_le (by linarith)
  · rwa [Number.value, Double.abs_value_signed]

theorem value_of_wholeNumber {negative : Bool} {significand : ℕ}
    (h : wholeNumber negative significand [] = .ok (n, rest)) :
    n.value = (if negative then -(significand : ℚ) else significand) ∨
      2 ^ 60 ≤ significand ∧ scaled negative significand 0 [] = .ok (n, rest) := by
  rw [wholeNumber] at h
  by_cases fits : Fits64 (if negative then -significand else significand)
  · left
    rw [dif_pos fits] at h
    by_cases zero : negative ∧ significand = 0
    · rw [if_pos zero] at h
      cases h
      rw [Number.value, Double.value_zero, zero.1, zero.2]
      simp
    · rw [if_neg zero] at h
      cases h
      rw [Number.value]
      split <;> simp
  · rw [dif_neg fits] at h
    refine .inr ⟨?_, h⟩
    unfold Fits64 at fits
    split at fits <;> omega

/-- A number is read as its exact value, or both are integers beyond the safe ones. -/
theorem value_of_plain (form : l.WellFormed) (plain : l.IsPlain)
    (h : readNumber l.negative l.body = .ok (n, rest)) :
    n.value = l.value ∨ (∃ k : ℤ, n.value = k) ∧ 2 ^ 53 ≤ |n.value| ∧ 2 ^ 53 ≤ |l.value| := by
  obtain ⟨used, left, gathers⟩ := exists_gathers l.whole (by decide : 0 < Nat.pow 2 64)
  have digits : l.digits = Nat.ofDigitChars 10 (used ++ left) 0 := by
    rw [digits, plain.1, List.append_nil, gathers.split]
  have large (h : 2 ^ 60 ≤ Nat.ofDigitChars 10 used 0) : 2 ^ 53 ≤ |l.value| := by
    have := ofDigitChars_append_le used left
    have size : |l.value| = l.digits := by
      rw [value_plain plain]
      split <;> simp
    rw [size]
    exact_mod_cast (by omega : 2 ^ 53 ≤ l.digits)
  rw [readNumber_plain form plain gathers] at h
  split at h
  · next all =>
    rw [all, List.append_nil] at digits
    rw [← digits] at h large
    rcases value_of_wholeNumber h with same | ⟨big, h⟩
    · exact .inl (same.trans (value_plain plain).symm)
    · obtain ⟨whole, bound⟩ := large_of_scaled big le_rfl h
      exact .inr ⟨whole, bound, large big⟩
  · next more =>
    obtain ⟨c, t, e⟩ := List.exists_cons_of_ne_nil more
    have full := gathers.full c t e
    have big : 2 ^ 60 ≤ Nat.ofDigitChars 10 used 0 := by
      have := digitValue_le (form.whole.all c (by rw [gathers.split, e]; simp))
      rw [Nat.pow_eq] at full
      omega
    obtain ⟨whole, bound⟩ := large_of_scaled big (Int.natCast_nonneg _) h
    exact .inr ⟨whole, bound, large big⟩

/-! ## Whole numbers in other forms -/

/-- Zeros at the end of some digits count for the power of ten. -/
theorem zeros_zpow {left : List Char} (zero : Nat.ofDigitChars 10 left 0 = 0) (used : List Char) (w : ℤ) :
    (Nat.ofDigitChars 10 (used ++ left) 0 : ℚ) * 10 ^ w = Nat.ofDigitChars 10 used 0 * 10 ^ (left.length + w) := by
  rw [ofDigitChars_split, Nat.pow_eq, zero, Nat.add_zero, zpow_add₀ (by norm_num), zpow_natCast, ← mul_assoc]
  push_cast
  rfl

/-- Digits after more of them than a whole number has are zeros if the number is whole. -/
theorem rest_eq_zero {s r j m : ℕ} {w : ℤ} (small : m < s) (rest : r < 10 ^ j)
    (value : ((s * 10 ^ j + r : ℕ) : ℚ) * 10 ^ w = m) : r = 0 := by
  have below : w < -j := by
    by_contra above
    have one_le : (1 : ℚ) ≤ 10 ^ (j + w) := one_le_zpow₀ (by norm_num) (by omega)
    have scaled : (s : ℚ) * 10 ^ (j + w) ≤ m := by
      rw [← value, zpow_add₀ (by norm_num), zpow_natCast, ← mul_assoc]
      push_cast
      gcongr
      exact le_add_of_nonneg_right (Nat.cast_nonneg r)
    have : (m : ℚ) < s := Nat.cast_lt.2 small
    nlinarith
  obtain ⟨k, rfl⟩ : ∃ k : ℕ, w = -(j + k + 1 : ℕ) := ⟨(-w - j - 1).toNat, by omega⟩
  have whole : s * 10 ^ j + r = 10 ^ j * (m * 10 ^ (k + 1)) := by
    rw [zpow_neg, zpow_natCast, ← div_eq_mul_inv, div_eq_iff (by positivity)] at value
    have : s * 10 ^ j + r = m * 10 ^ (j + k + 1) := by exact_mod_cast value
    rw [this]
    ring
  have divides : 10 ^ j ∣ r := by
    rw [← Nat.dvd_add_right (Dvd.intro_left s rfl : 10 ^ j ∣ s * 10 ^ j), whole]
    exact Dvd.intro _ rfl
  exact Nat.eq_zero_of_dvd_of_lt divides rest

/-- The digits of a safe number that are left out are zeros. -/
theorem left_eq_zero {used left more : List Char} {m : ℕ} {w : ℤ} (all : AllDigits (left ++ more)) (ne : left ≠ [])
    (full : ∀ c t, left = c :: t → Nat.pow 2 64 ≤ Nat.ofDigitChars 10 used 0 * 10 + digitValue c) (safe : m < 2 ^ 53)
    (value : (Nat.ofDigitChars 10 (used ++ (left ++ more)) 0 : ℚ) * 10 ^ w = m) :
    Nat.ofDigitChars 10 (left ++ more) 0 = 0 ∧ 2 ^ 64 ≤ Nat.ofDigitChars 10 used 0 * 10 := by
  obtain ⟨c, t, rfl⟩ := List.exists_cons_of_ne_nil ne
  have exceeds := full c t rfl
  have digit := digitValue_le (all c (by simp))
  have bound := ofDigitChars_lt all 0
  rw [Nat.pow_eq] at exceeds
  rw [ofDigitChars_split used, Nat.pow_eq] at value
  have zero := rest_eq_zero (by omega) (by simpa using bound) value
  refine ⟨zero, ?_⟩
  have first := le_ofDigitChars (t ++ more) (0 * 10 + digitValue c)
  rw [ofDigitChars_next] at first
  have : digitValue c = 0 := by
    rw [List.cons_append] at zero
    omega
  omega

section

variable {used left used' left' : List Char} {m : ℕ}

/-- If all digits before the point are gathered, the digits of the fraction that are left out are zeros. -/
theorem gathered_past_point (form : l.WellFormed)
    (gathers : Gathers (Nat.ofDigitChars 10 l.whole 0) l.fraction used' left') (exact : l.size = m)
    (safe : m < 2 ^ 53) :
    (Nat.ofDigitChars 10 (l.whole ++ used') 0 : ℚ) * 10 ^ (l.shift - used'.length : ℤ) = m := by
  have parts : l.whole ++ l.fraction = l.whole ++ used' ++ left' := by rw [gathers.split, List.append_assoc]
  rw [size, digits, scale, parts] at exact
  have zero : Nat.ofDigitChars 10 left' 0 = 0 := by
    rcases eq_or_ne left' [] with rfl | ne
    · rfl
    have full := gathers.full
    rw [← Nat.ofDigitChars_append] at full
    have all : AllDigits left' := fun c h => form.fraction c (by rw [gathers.split]; exact List.mem_append_right _ h)
    rw [← List.append_nil left'] at all exact ⊢
    exact (left_eq_zero all ne full safe exact).1
  rw [zeros_zpow zero, gathers.split, List.length_append] at exact
  rw [← exact]
  congr 2
  push_cast
  omega

/-- If some digits before the point are left out, they are zeros, and none of the fraction fits behind the others. -/
theorem gathered_before_point (form : l.WellFormed) (gathers : Gathers 0 l.whole used left) (ne : left ≠ [])
    (gathers' : Gathers (Nat.ofDigitChars 10 used 0) l.fraction used' left') (exact : l.size = m) (safe : m < 2 ^ 53) :
    used' = [] ∧ (Nat.ofDigitChars 10 used 0 : ℚ) * 10 ^ (left.length + l.shift : ℤ) = m := by
  have parts : l.whole ++ l.fraction = used ++ (left ++ l.fraction) := by rw [gathers.split, List.append_assoc]
  have all : AllDigits (left ++ l.fraction) := by
    intro c h
    rcases List.mem_append.1 h with h | h
    · exact form.whole.all c (by rw [gathers.split]; exact List.mem_append_right _ h)
    · exact form.fraction c h
  rw [size, digits, scale, parts] at exact
  obtain ⟨zero, exceeds⟩ := left_eq_zero all ne gathers.full safe exact
  constructor
  · by_contra other
    obtain ⟨d, u, e⟩ := List.exists_cons_of_ne_nil other
    have fits := gathers'.fits
    rw [e, ← ofDigitChars_next, Nat.pow_eq] at fits
    have := le_ofDigitChars u (Nat.ofDigitChars 10 used 0 * 10 + digitValue d)
    omega
  · rw [zeros_zpow zero, List.length_append] at exact
    rw [← exact]
    congr 2
    push_cast
    omega

/-- The significand that is gathered from a safe whole number stands for it. -/
theorem gathered_value (form : l.WellFormed) (gathers : Gathers 0 l.whole used left)
    (gathers' : Gathers (Nat.ofDigitChars 10 used 0) l.fraction used' left') (exact : l.size = m)
    (safe : m < 2 ^ 53) :
    (Nat.ofDigitChars 10 (used ++ used') 0 : ℚ) * 10 ^ (left.length - used'.length + l.shift : ℤ) = m ∧
      Nat.ofDigitChars 10 (used ++ used') 0 ≤ l.digits := by
  rcases eq_or_ne left [] with rfl | ne
  · obtain rfl : l.whole = used := by rw [gathers.split, List.append_nil]
    have value := gathered_past_point form gathers' exact safe
    have place : (([] : List Char).length - used'.length + l.shift : ℤ) = l.shift - used'.length := by
      rw [List.length_nil]
      omega
    rw [place, digits, gathers'.split, ← List.append_assoc]
    exact ⟨value, ofDigitChars_append_le _ _⟩
  · obtain ⟨rfl, value⟩ := gathered_before_point form gathers ne gathers' exact safe
    rw [digits, gathers.split, List.append_assoc, List.append_nil, List.length_nil, Int.natCast_zero, Int.sub_zero]
    exact ⟨value, ofDigitChars_append_le _ _⟩

end

/-- So much scaling down leaves nothing whole of a few digits. -/
theorem eq_zero_of_scale {m : ℕ} (exact : l.size = m) (few : l.digits ≤ 2 ^ 53) (low : l.scale ≤ -20) : m = 0 := by
  by_contra some
  have one_le : (1 : ℚ) ≤ m := by exact_mod_cast Nat.one_le_iff_ne_zero.2 some
  have digits : (l.digits : ℚ) ≤ 2 ^ 53 := by exact_mod_cast few
  have scale : (10 : ℚ) ^ l.scale ≤ 10 ^ (-20 : ℤ) := zpow_le_zpow_right₀ (by norm_num) low
  have : l.size ≤ 2 ^ 53 * 10 ^ (-20 : ℤ) := mul_le_mul digits scale (by positivity) (by norm_num)
  norm_num at this
  linarith

/-- A significand that stands for a safe whole number is scaled to a double that is the number itself or, below 2^52,
not whole. -/
theorem double_of_scaled {negative : Bool} {significand : ℕ} {exponent k : ℤ} (fits : significand < 2 ^ 64)
    (safe : |k| ≤ 2 ^ 53 - 1) (value : (significand : ℚ) * 10 ^ exponent = k.natAbs)
    (sign : (k : ℚ) = if negative then -(k.natAbs : ℚ) else k.natAbs)
    (h : scaled negative significand exponent [] = .ok (n, rest)) :
    ∃ x : Double, n = .double x ∧ |x.value| ≤ 2 ^ 53 - 1 ∧
      ((∃ i : ℤ, x.value = i) ↔ x.value = k ∨ 2 ^ 52 ≤ |k|) ∧ (significand ≤ 2 ^ 53 → x.value = k) := by
  obtain ⟨z, found, rfl⟩ := exists_of_scaled h
  have size := Int.abs_eq_natAbs k
  obtain ⟨small, whole, few⟩ := Double.ofScaled_value fits (by omega) value found
  have same : (if negative then z.neg else z).value = k ↔ z.magnitude = k.natAbs := by
    rw [Double.value_signed negative (Double.negative_of_ofScaled found), sign]
    split
    · rw [neg_inj]
    · rfl
  have large : 2 ^ 52 ≤ |k| ↔ 2 ^ 52 ≤ k.natAbs := by omega
  refine ⟨_, rfl, by rwa [Double.abs_value_signed], ?_, fun digits => same.2 (few digits)⟩
  rw [Double.exists_intCast_iff, Double.magnitude_signed, whole, same, large]

/-- An exponent beyond 31 bits leaves zero. It is that of a number with few digits only if the number is zero. -/
theorem eq_zero_of_lost {m significand : ℕ} {exponent : ℤ} (exact : l.size = m)
    (value : (significand : ℚ) * 10 ^ exponent = m) (lost : significand = 0 ∨ l.shift ≤ -2 ^ 31)
    (few : l.digits ≤ 2 ^ 53) : m = 0 := by
  rcases lost with rfl | low
  · simpa using value.symm
  · refine eq_zero_of_scale exact few ?_
    rw [scale]
    omega

/-- A safe whole number with a fraction or an exponent is read as a double. It is whole exactly if it is the number
itself, zero, which is what an exponent beyond 31 bits leaves, or at least 2^52. -/
theorem double_of_whole (form : l.WellFormed) (other : ¬ l.IsPlain) {k : ℤ} (exact : l.value = k)
    (safe : |k| ≤ 2 ^ 53 - 1) (h : readNumber l.negative l.body = .ok (n, rest)) :
    ∃ x : Double, n = .double x ∧ |x.value| ≤ 2 ^ 53 - 1 ∧
      ((∃ i : ℤ, x.value = i) ↔ x.value = k ∨ x.value = 0 ∨ 2 ^ 52 ≤ |k|) ∧ (l.digits ≤ 2 ^ 53 → x.value = k) := by
  obtain ⟨used, left, gathers⟩ := exists_gathers l.whole (by decide : 0 < Nat.pow 2 64)
  obtain ⟨used', left', gathers'⟩ := exists_gathers l.fraction gathers.fits
  have size : l.size = k.natAbs := by
    rw [← abs_value, exact, Nat.cast_natAbs, Int.cast_abs]
  have bound : k.natAbs < 2 ^ 53 := by
    rw [Int.abs_eq_natAbs] at safe
    omega
  obtain ⟨value, less⟩ := gathered_value form gathers gathers' size bound
  have fits := gathers'.fits
  rw [← Nat.ofDigitChars_append, Nat.pow_eq] at fits
  rw [readNumber_body form other gathers gathers'] at h
  rcases readScale_powerText form h with h | ⟨rfl, lost⟩
  · have sign : (k : ℚ) = if l.negative then -(k.natAbs : ℚ) else k.natAbs := by rw [← exact, Numeral.value, size]
    obtain ⟨x, rfl, small, whole, few⟩ := double_of_scaled fits safe value sign h
    refine ⟨x, rfl, small, ?_, fun digits => few (less.trans digits)⟩
    constructor
    · intro i
      exact (whole.1 i).imp_right .inr
    · rintro (kept | zero | large)
      · exact ⟨k, kept⟩
      · exact ⟨0, by rw [zero, Int.cast_zero]⟩
      · exact whole.2 (.inr large)
  · have zero := Double.value_zero l.negative
    refine ⟨.zero l.negative, rfl, ?_, iff_of_true ⟨0, by rw [zero, Int.cast_zero]⟩ (.inr (.inl zero)), fun few => ?_⟩
    · rw [zero]
      norm_num
    · have nothing := eq_zero_of_lost size value lost few
      rw [zero, Int.natAbs_eq_zero.1 nothing, Int.cast_zero]

end Json.Numeral

/-- **A number without fraction and exponent** is an integer, and under the policy of safe integers it is one exactly if
its written value is safe. -/
theorem ofValue_plain {l : Numeral} (form : l.WellFormed) (plain : l.IsPlain) {value : Value}
    (h : parse (String.ofList l.text) = .ok value) (config : Config) :
    (config.numberPolicy = .fractional → Ty.ofValue config value = .integer) ∧
    (config.numberPolicy = .safeInteger →
      (Ty.ofValue config value = .integer ↔ |l.value| ≤ 2 ^ 53 - 1) ∧
      (Ty.ofValue config value = .float ↔ ¬ |l.value| ≤ 2 ^ 53 - 1)) := by
  obtain ⟨n, rest, rfl, read⟩ := l.readNumber_of_parse form h
  have whole : ∃ k : ℤ, n.value = k := by
    rcases l.value_of_plain form plain read with same | ⟨whole, -, -⟩
    · rw [same, l.value_plain plain]
      split
      · exact ⟨-(l.digits : ℤ), by push_cast; rfl⟩
      · exact ⟨l.digits, by push_cast; rfl⟩
    · exact whole
  have safe : |n.value| ≤ 2 ^ 53 - 1 ↔ |l.value| ≤ 2 ^ 53 - 1 := by
    rcases l.value_of_plain form plain read with same | ⟨-, beyond, beyond'⟩
    · rw [same]
    · constructor <;> intro h <;> linarith
  rw [Ty.ofValue]
  constructor
  · intro policy
    rw [policy]
    exact (ofNumber_eq_integer_iff _ n).2 whole
  · intro policy
    rw [policy, ofNumber_eq_integer_iff, ofNumber_eq_float_iff, ← safe]
    have admits : (NumberPolicy.safeInteger).Admits n.value ↔ |n.value| ≤ 2 ^ 53 - 1 := and_iff_right whole
    exact ⟨admits, not_congr admits⟩

/-- The least integer that does not fit 64 bits. -/
def beyond : Numeral := ⟨false, Nat.toDigits 10 18446744073709551616, [], none⟩

theorem ofValue_plain_beyond :
    beyond.WellFormed ∧ beyond.IsPlain ∧
    parse (String.ofList beyond.text) = .ok (.number (.double ⟨false, 2 ^ 52, 12, by decide⟩)) ∧
    Ty.ofValue { numberPolicy := .fractional } (.number (.double ⟨false, 2 ^ 52, 12, by decide⟩)) = .integer ∧
    Ty.ofValue { numberPolicy := .safeInteger } (.number (.double ⟨false, 2 ^ 52, 12, by decide⟩)) = .float := by
  have form : beyond.WellFormed := ⟨wholePart_toDigits 18446744073709551616, allDigits_nil, fun _ h => by cases h⟩
  have plain : beyond.IsPlain := ⟨rfl, rfl⟩
  have accepted : parse (String.ofList beyond.text) = .ok (.number (.double ⟨false, 2 ^ 52, 12, by decide⟩)) :=
    beyond.parse_of_readNumber form (by decide +kernel)
  have wide : ¬ |beyond.value| ≤ 2 ^ 53 - 1 := by
    rw [beyond.value_plain plain]
    have digits : beyond.digits = 2 ^ 64 := by decide +kernel
    rw [digits]
    norm_num [beyond]
  refine ⟨form, plain, accepted, ?_, ?_⟩
  · exact (ofValue_plain form plain accepted { numberPolicy := .fractional }).1 rfl
  · exact ((ofValue_plain form plain accepted { numberPolicy := .safeInteger }).2 rfl).2.2 wide

/-- **A safe whole number with a fraction or an exponent** is an integer under every policy exactly if the double that
it is read as is the number itself or zero, or it is at least 2^52. It is read as itself if its digits fit a double. -/
theorem ofValue_whole {l : Numeral} (form : l.WellFormed) (other : ¬ l.IsPlain) {k : ℤ} (exact : l.value = k)
    (safe : |k| ≤ 2 ^ 53 - 1) {value : Value} (h : parse (String.ofList l.text) = .ok value) :
    ∃ x : Double, value = .number (.double x) ∧
      (∀ config : Config,
        (Ty.ofValue config value = .integer ↔ x.value = k ∨ x.value = 0 ∨ 2 ^ 52 ≤ |k|) ∧
        (Ty.ofValue config value = .float ↔ ¬ (x.value = k ∨ x.value = 0 ∨ 2 ^ 52 ≤ |k|))) ∧
      (l.digits ≤ 2 ^ 53 → x.value = k) := by
  obtain ⟨n, rest, rfl, read⟩ := l.readNumber_of_parse form h
  obtain ⟨x, rfl, small, whole, few⟩ := l.double_of_whole form other exact safe read
  refine ⟨x, rfl, fun config => ?_, few⟩
  have admits : config.numberPolicy.Admits (Number.double x).value ↔ x.value = k ∨ x.value = 0 ∨ 2 ^ 52 ≤ |k| := by
    rw [← whole]
    cases config.numberPolicy with
    | fractional => exact Iff.rfl
    | safeInteger => exact and_iff_left small
  rw [Ty.ofValue, ofNumber_eq_integer_iff, ofNumber_eq_float_iff]
  exact ⟨admits, not_congr admits⟩

/-- The number fifteen with a fraction and an exponent. -/
def fifteen : Numeral := ⟨false, ['1'], ['5', '0'], some ⟨'e', [], ['1']⟩⟩

theorem ofValue_whole_fifteen :
    fifteen.WellFormed ∧ ¬ fifteen.IsPlain ∧ fifteen.value = (15 : ℤ) ∧ |(15 : ℤ)| ≤ 2 ^ 53 - 1 ∧
    ∃ value, parse (String.ofList fifteen.text) = .ok value ∧ ∀ config, Ty.ofValue config value = .integer := by
  have form : fifteen.WellFormed := by
    refine ⟨wholePart_toDigits 1, List.all_eq_true.1 rfl, fun p h => ?_⟩
    cases h
    exact ⟨.inl rfl, .inl rfl, List.cons_ne_nil _ _, List.all_eq_true.1 rfl⟩
  have other : ¬ fifteen.IsPlain := fun plain => by cases plain.1
  have exact : fifteen.value = (15 : ℤ) := by
    have digits : fifteen.digits = 150 := by decide +kernel
    have scale : fifteen.scale = -1 := by decide +kernel
    have positive : fifteen.negative = false := rfl
    rw [Numeral.value, Numeral.size, digits, scale, positive]
    norm_num
  have safe : |(15 : ℤ)| ≤ 2 ^ 53 - 1 := by decide
  have accepted : parse (String.ofList fifteen.text) =
      .ok (.number (.double ⟨false, 8444249301319680, -49, by decide⟩)) :=
    fifteen.parse_of_readNumber form (by decide +kernel)
  obtain ⟨x, e, types, few⟩ := ofValue_whole form other exact safe accepted
  refine ⟨form, other, exact, safe, _, accepted, fun config => (types config).1.2 (.inl (few ?_))⟩
  decide +kernel

/-- A number of nine digits with a fraction of ten zeros. -/
def nineDigits : Numeral := ⟨false, Nat.toDigits 10 922337205, List.replicate 10 '0', none⟩

/-- The digits of a whole number may be rounded before they are scaled, so that it is none any more. -/
theorem ofValue_nineDigits :
    nineDigits.WellFormed ∧ nineDigits.value = (922337205 : ℤ) ∧
    ∃ value, parse (String.ofList nineDigits.text) = .ok value ∧ Ty.ofValue {} value = .float := by
  have form : nineDigits.WellFormed :=
    ⟨wholePart_toDigits 922337205, List.all_eq_true.1 (by decide), fun _ h => by cases h⟩
  have exact : nineDigits.value = (922337205 : ℤ) := by
    have digits : nineDigits.digits = 922337205 * 10 ^ 10 := by decide +kernel
    have scale : nineDigits.scale = -10 := by decide +kernel
    have positive : nineDigits.negative = false := rfl
    rw [Numeral.value, Numeral.size, digits, scale, positive]
    norm_num
  have accepted : parse (String.ofList nineDigits.text) =
      .ok (.number (.double ⟨false, 7737125256560639, -23, by decide⟩)) :=
    nineDigits.parse_of_readNumber form (by decide +kernel)
  exact ⟨form, exact, _, accepted, by decide +kernel⟩

end TypeSketch
