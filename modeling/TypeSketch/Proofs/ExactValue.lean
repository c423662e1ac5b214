import TypeSketch.Proofs.Influence
import TypeSketch.Proofs.Rounding

/-!
# Exact values of numbers

* `Double.value`, `Number.value` : the rational number that a number is;
* `isWhole_iff`, `magnitudeAtMost_iff` : the tests on a number are tests of its exact value;
* `NumberPolicy.Admits` : the exact values that are integers under a policy;
* `ofValue_number` : the type of a number, by its exact value alone.
-/

namespace TypeSketch

/-! ## Doubles -/

namespace Double

/-- The exact value. -/
def value (x : Double) : ℚ := if x.negative then -x.magnitude else x.magnitude

theorem abs_value (x : Double) : |x.value| = x.magnitude := by
  have nonneg : 0 ≤ x.magnitude := by rw [magnitude]; positivity
  unfold value
  split
  · rw [abs_neg, abs_of_nonneg nonneg]
  · exact abs_of_nonneg nonneg

/-- The size of a double as a quotient of natural numbers. -/
theorem magnitude_eq_div (x : Double) :
    x.magnitude = (x.mantissa * 2 ^ x.place.toNat : ℕ) / (2 ^ (-x.place).toNat : ℕ) := by
  rw [magnitude, zpow_eq_div (by norm_num)]
  push_cast
  rw [mul_div_assoc]

theorem exists_intCast_value_iff (x : Double) : (∃ k : ℤ, x.value = k) ↔ ∃ k : ℤ, x.magnitude = k := by
  unfold value
  split
  · constructor
    · rintro ⟨k, h⟩
      exact ⟨-k, by rw [Int.cast_neg, ← h, neg_neg]⟩
    · rintro ⟨k, h⟩
      exact ⟨-k, by rw [Int.cast_neg, h]⟩
  · exact Iff.rfl

/-- A quotient of natural numbers is an integer exactly if it leaves no rest. -/
theorem exists_intCast_div_iff {num den : ℕ} (hd : 0 < den) : (∃ k : ℤ, (num : ℚ) / den = k) ↔ num % den = 0 := by
  have den_pos : (0 : ℚ) < den := Nat.cast_pos.2 hd
  rw [← Nat.dvd_iff_mod_eq_zero, ← Int.natCast_dvd_natCast]
  constructor
  · rintro ⟨k, h⟩
    rw [div_eq_iff den_pos.ne'] at h
    refine ⟨k, ?_⟩
    rw [mul_comm]
    exact_mod_cast h
  · rintro ⟨k, h⟩
    refine ⟨k, ?_⟩
    rw [div_eq_iff den_pos.ne', mul_comm]
    exact_mod_cast h

theorem isWhole_iff (x : Double) : x.isWhole = true ↔ ∃ k : ℤ, x.value = k := by
  rw [exists_intCast_value_iff, magnitude_eq_div, exists_intCast_div_iff (by positivity), isWhole]
  split
  · next below =>
    have up : x.place.toNat = 0 := by omega
    have down : (-x.place).toNat = x.place.natAbs := by omega
    rw [up, down, pow_zero, mul_one, decide_eq_true_iff]
    rfl
  · next above =>
    have down : (-x.place).toNat = 0 := by omega
    rw [down, pow_zero, Nat.mod_one]
    exact iff_of_true rfl rfl

theorem magnitudeAtMost_iff (x : Double) (bound : ℕ) : x.magnitudeAtMost bound = true ↔ |x.value| ≤ bound := by
  rw [abs_value, magnitude_eq_div, div_le_iff₀ (by positivity), magnitudeAtMost, decide_eq_true_iff]
  exact_mod_cast Iff.rfl

end Double

/-! ## Numbers -/

namespace Json.Number

/-- The exact value. -/
def value : Number → ℚ
  | .integer n _ => n
  | .double x => x.value

theorem isWhole_iff (n : Number) : n.isWhole = true ↔ ∃ k : ℤ, n.value = k := by
  cases n with
  | integer n fits => exact iff_of_true rfl ⟨n, rfl⟩
  | double x => exact x.isWhole_iff

theorem magnitudeAtMost_iff (n : Number) (bound : ℕ) : n.magnitudeAtMost bound = true ↔ |n.value| ≤ bound := by
  cases n with
  | integer n fits =>
    have cast : |(n : ℚ)| = (n.natAbs : ℚ) := by rw [Nat.cast_natAbs, Int.cast_abs]
    rw [value, cast, magnitudeAtMost, decide_eq_true_iff, Nat.cast_le]
  | double x => exact x.magnitudeAtMost_iff bound

end Json.Number

/-! ## Types -/

open Json

/-- The exact values that are integers under a policy. -/
def NumberPolicy.Admits (policy : NumberPolicy) (x : ℚ) : Prop :=
  match policy with
  | .fractional => ∃ k : ℤ, x = k
  | .safeInteger => (∃ k : ℤ, x = k) ∧ |x| ≤ 2 ^ 53 - 1

theorem ofNumber_eq_integer_iff (policy : NumberPolicy) (n : Number) :
    Ty.ofNumber policy n = .integer ↔ policy.Admits n.value := by
  have bound : ((maxSafeInteger : ℕ) : ℚ) = 2 ^ 53 - 1 := by norm_num [maxSafeInteger]
  unfold Ty.ofNumber NumberPolicy.Admits
  rw [← n.isWhole_iff, ← bound, ← n.magnitudeAtMost_iff]
  cases policy with
  | fractional => cases n.isWhole <;> simp
  | safeInteger => cases n.isWhole <;> cases n.magnitudeAtMost maxSafeInteger <;> simp

theorem ofNumber_eq_float_iff (policy : NumberPolicy) (n : Number) :
    Ty.ofNumber policy n = .float ↔ ¬ policy.Admits n.value := by
  rw [← ofNumber_eq_integer_iff]
  rcases Ty.ofNumber_eq policy n with h | h <;> simp [h]

theorem ofNumber_congr (policy : NumberPolicy) {n m : Number} (same : m.value = n.value) :
    Ty.ofNumber policy m = Ty.ofNumber policy n := by
  by_cases admitted : policy.Admits n.value
  · rw [(ofNumber_eq_integer_iff policy n).2 admitted]
    rw [← same] at admitted
    exact (ofNumber_eq_integer_iff policy m).2 admitted
  · rw [(ofNumber_eq_float_iff policy n).2 admitted]
    rw [← same] at admitted
    exact (ofNumber_eq_float_iff policy m).2 admitted

/-- The exact value of a number alone decides its type: an integer if the policy admits the value and
a float if not. So numbers of one value have one type, however they are represented. -/
theorem ofValue_number (config : Config) (n : Number) :
    (Ty.ofValue config (.number n) = .integer ↔ config.numberPolicy.Admits n.value) ∧
    (Ty.ofValue config (.number n) = .float ↔ ¬ config.numberPolicy.Admits n.value) ∧
    ∀ m : Number, m.value = n.value → Ty.ofValue config (.number m) = Ty.ofValue config (.number n) := by
  refine ⟨ofNumber_eq_integer_iff _ n, ofNumber_eq_float_iff _ n, ?_⟩
  intro m same
  exact ofNumber_congr config.numberPolicy same

/-- The least integer. -/
def leastInteger : Number := .integer (-2 ^ 63) (by decide)

/-- The double of the same value. -/
def leastDouble : Number := .double ⟨true, 2 ^ 52, 11, by decide⟩

theorem ofValue_number_least :
    leastDouble.value = leastInteger.value ∧
    Ty.ofValue { numberPolicy := .fractional } (.number leastInteger) = .integer ∧
    Ty.ofValue { numberPolicy := .fractional } (.number leastDouble) = .integer ∧
    Ty.ofValue { numberPolicy := .safeInteger } (.number leastInteger) = .float ∧
    Ty.ofValue { numberPolicy := .safeInteger } (.number leastDouble) = .float := by
  have same : leastDouble.value = leastInteger.value := by
    norm_num [leastDouble, leastInteger, Number.value, Double.value, Double.magnitude]
  have value : leastInteger.value = (-2 ^ 63 : ℤ) := rfl
  have whole : (NumberPolicy.fractional).Admits leastInteger.value := ⟨_, value⟩
  have wide : ¬ (NumberPolicy.safeInteger).Admits leastInteger.value := by
    rintro ⟨-, small⟩
    rw [value] at small
    norm_num at small
  have fractional := ofValue_number { numberPolicy := .fractional } leastInteger
  have safeInteger := ofValue_number { numberPolicy := .safeInteger } leastInteger
  refine ⟨same, fractional.1.2 whole, ?_, safeInteger.2.1.2 wide, ?_⟩
  · exact (fractional.2.2 leastDouble same).trans (fractional.1.2 whole)
  · exact (safeInteger.2.2 leastDouble same).trans (safeInteger.2.1.2 wide)

end TypeSketch
