import Mathlib.Algebra.Order.Field.Power
import Mathlib.Algebra.Order.Floor.Semifield
import Mathlib.Data.Int.Log
import Mathlib.Data.Rat.Floor
import Mathlib.Tactic.FieldSimp
import Mathlib.Tactic.Linarith
import Mathlib.Tactic.NormNum
import Mathlib.Tactic.Positivity
import Mathlib.Tactic.Ring
import TypeSketch.Number.Double

/-!
# Rounding a quotient

* `RoundsTo q n` : `n` is the natural number nearest to `q`, a tie going to the even one
  (`roundsTo_roundHalfEven`, `RoundsTo.unique`);
* `Double.magnitude` : the exact value of a double without its sign;
* `Double.Covers x q` : the quotient `q` is nearest to `x` among the doubles;
* `ofRatio_of_covers`, `exists_covers` : a quotient is rounded to the double that covers it, and there is
  one unless it is at least `overflow`;
* `Covers.exact`, `Covers.error_le` : what rounding keeps, and how far it goes.
-/

namespace TypeSketch

/-! ## To a natural number -/

/-- The natural number `n` is nearest to `q`, and it is even if it is not the only one. -/
structure RoundsTo (q : ℚ) (n : ℕ) : Prop where
  lower : (n : ℚ) - 1 / 2 ≤ q
  upper : q ≤ n + 1 / 2
  tie : q = n - 1 / 2 ∨ q = n + 1 / 2 → n % 2 = 0

theorem roundsTo_roundHalfEven {num den : ℕ} (hd : 0 < den) :
    RoundsTo ((num : ℚ) / den) (roundHalfEven num den) := by
  have den_pos : (0 : ℚ) < den := Nat.cast_pos.2 hd
  have split : (num : ℚ) / den = (num / den : ℕ) + (num % den : ℕ) / den := by
    have whole : (num : ℚ) = den * (num / den : ℕ) + (num % den : ℕ) := by
      rw [← Nat.cast_mul, ← Nat.cast_add, Nat.div_add_mod]
    rw [div_eq_iff den_pos.ne', add_mul, div_mul_cancel₀ _ den_pos.ne', mul_comm]
    exact whole
  have rest_nonneg : (0 : ℚ) ≤ (num % den : ℕ) / den := by positivity
  have rest_lt : ((num % den : ℕ) : ℚ) / den < 1 := by
    rw [div_lt_one den_pos]
    exact Nat.cast_lt.2 (Nat.mod_lt _ hd)
  have rest_half : ((num % den : ℕ) : ℚ) / den * den = (num % den : ℕ) := div_mul_cancel₀ _ den_pos.ne'
  have next : ((num / den + 1 : ℕ) : ℚ) = (num / den : ℕ) + 1 := Nat.cast_succ _
  rw [split, roundHalfEven]
  generalize ((num % den : ℕ) : ℚ) / den = rest at *
  generalize num / den = quotient at *
  split_ifs with low high even
  · have small : rest < 1 / 2 := by
      have : (2 : ℚ) * (num % den : ℕ) < den := by exact_mod_cast low
      nlinarith
    refine ⟨by linarith, by linarith, fun tie => ?_⟩
    rcases tie with tie | tie <;> linarith
  · have large : 1 / 2 < rest := by
      have : (den : ℚ) < 2 * (num % den : ℕ) := by exact_mod_cast high
      nlinarith
    refine ⟨by linarith, by linarith, fun tie => ?_⟩
    rcases tie with tie | tie <;> linarith
  all_goals
    have half : rest = 1 / 2 := by
      have : (2 : ℚ) * (num % den : ℕ) = den := by exact_mod_cast (by omega : 2 * (num % den) = den)
      nlinarith
    subst half
  · exact ⟨by linarith, le_rfl, fun _ => even⟩
  · exact ⟨by linarith, by linarith, fun _ => by omega⟩

theorem RoundsTo.unique {q : ℚ} {n m : ℕ} (hn : RoundsTo q n) (hm : RoundsTo q m) : n = m := by
  -- Two different ones would be neighbours with `q` halfway between them, and not both even.
  wlog less : n ≤ m generalizing n m
  · exact (this hm hn (by omega)).symm
  by_contra other
  have next : (n : ℚ) + 1 ≤ m := by exact_mod_cast (by omega : n + 1 ≤ m)
  have hn_tie := hn.tie (.inr (by linarith [hn.upper, hm.lower]))
  have hm_tie := hm.tie (.inl (by linarith [hn.upper, hm.lower]))
  have neighbours : (m : ℚ) ≤ n + 1 := by linarith [hn.upper, hm.lower]
  have : m ≤ n + 1 := by exact_mod_cast neighbours
  omega

theorem roundsTo_natCast (n : ℕ) : RoundsTo n n := by
  refine ⟨by linarith, by linarith, fun tie => ?_⟩
  rcases tie with tie | tie <;> linarith

theorem toNat_num_div_den {q : ℚ} (h : 0 ≤ q) : ((q.num.toNat : ℕ) : ℚ) / q.den = q := by
  rw [← Int.cast_natCast, Int.toNat_of_nonneg (Rat.num_nonneg.2 h), Rat.num_div_den]

theorem exists_roundsTo {q : ℚ} (h : 0 ≤ q) : ∃ n, RoundsTo q n := by
  have rounded : RoundsTo ((q.num.toNat : ℕ) / q.den) (roundHalfEven q.num.toNat q.den) :=
    roundsTo_roundHalfEven q.den_pos
  rw [toNat_num_div_den h] at rounded
  exact ⟨_, rounded⟩

/-! ## The leading bit -/

/-- A power of two by the two powers of a natural exponent that the quotients are made of. -/
theorem zpow_eq_div {a : ℚ} (ha : a ≠ 0) (z : ℤ) : a ^ z = a ^ z.toNat / a ^ (-z).toNat := by
  rw [← zpow_natCast, ← zpow_natCast, ← zpow_sub₀ ha]
  congr 1
  omega

theorem log_eq {q : ℚ} (hq : 0 < q) {z : ℤ} (low : (2 : ℚ) ^ z ≤ q) (high : q < 2 ^ (z + 1)) : Int.log 2 q = z := by
  have := (Int.zpow_le_iff_le_log (b := 2) (by decide) hq).1 (by exact_mod_cast low)
  have := (Int.lt_zpow_iff_log_lt (b := 2) (by decide) hq).1 (by exact_mod_cast high)
  omega

theorem two_zpow_log_le {q : ℚ} (hq : 0 < q) : (2 : ℚ) ^ Int.log 2 q ≤ q := by
  exact_mod_cast Int.zpow_log_le_self (b := 2) (by decide) hq

theorem lt_two_zpow_log (q : ℚ) : q < 2 ^ (Int.log 2 q + 1) := by
  exact_mod_cast Int.lt_zpow_succ_log_self (b := 2) (by decide) q

theorem two_zpow_log2_le {n : ℕ} (hn : 0 < n) : (2 : ℚ) ^ (n.log2 : ℤ) ≤ n := by
  rw [zpow_natCast]
  exact_mod_cast Nat.log2_self_le hn.ne'

theorem lt_two_zpow_log2 (n : ℕ) : (n : ℚ) < 2 ^ (n.log2 + 1 : ℤ) := by
  have : (n : ℚ) < 2 ^ (n.log2 + 1) := by exact_mod_cast Nat.lt_log2_self
  exact_mod_cast this

theorem leadingBit_eq {num den : ℕ} (hn : 0 < num) (hd : 0 < den) :
    leadingBit num den = Int.log 2 ((num : ℚ) / den) := by
  have num_pos : (0 : ℚ) < num := Nat.cast_pos.2 hn
  have den_pos : (0 : ℚ) < den := Nat.cast_pos.2 hd
  have quotient_pos : (0 : ℚ) < num / den := div_pos num_pos den_pos
  have den_low := two_zpow_log2_le hd
  have den_high := lt_two_zpow_log2 den
  have two : (2 : ℚ) ≠ 0 := by norm_num
  have reaches (z : ℤ) : den * Nat.pow 2 z.toNat ≤ num * Nat.pow 2 (-z).toNat ↔ (2 : ℚ) ^ z ≤ num / den := by
    rw [zpow_eq_div two, le_div_iff₀ den_pos, div_mul_eq_mul_div, div_le_iff₀ (by positivity), mul_comm _ (den : ℚ)]
    exact_mod_cast Iff.rfl
  have below : (2 : ℚ) ^ ((num.log2 : ℤ) - den.log2 - 1) ≤ num / den := by
    rw [le_div_iff₀ den_pos]
    calc (2 : ℚ) ^ ((num.log2 : ℤ) - den.log2 - 1) * den
        ≤ 2 ^ ((num.log2 : ℤ) - den.log2 - 1) * 2 ^ (den.log2 + 1 : ℤ) := by gcongr
      _ = 2 ^ (num.log2 : ℤ) := by rw [← zpow_add₀ two]; congr 1; omega
      _ ≤ num := two_zpow_log2_le hn
  have above : (num : ℚ) / den < 2 ^ ((num.log2 : ℤ) - den.log2 + 1) := by
    rw [div_lt_iff₀ den_pos]
    calc (num : ℚ) < 2 ^ (num.log2 + 1 : ℤ) := lt_two_zpow_log2 num
      _ = 2 ^ ((num.log2 : ℤ) - den.log2 + 1) * 2 ^ (den.log2 : ℤ) := by rw [← zpow_add₀ two]; congr 1; omega
      _ ≤ 2 ^ ((num.log2 : ℤ) - den.log2 + 1) * den := by gcongr
  rw [leadingBit]
  split_ifs with h
  · exact (log_eq quotient_pos ((reaches _).1 h) above).symm
  · rw [reaches, not_le] at h
    exact (log_eq quotient_pos below (by rwa [Int.sub_add_cancel])).symm

namespace Double

/-! ## What a double covers -/

/-- The exact value of a double without its sign. -/
def magnitude (x : Double) : ℚ := x.mantissa * 2 ^ x.place

/-- The quotient `q` is nearest to `x`, signs apart: counted in last places it rounds to the mantissa, and
it is not nearer to the next double below, which has a smaller last place at a power of two. -/
structure Covers (x : Double) (q : ℚ) : Prop where
  rounds : RoundsTo (q / 2 ^ x.place) x.mantissa
  near : x.mantissa = Nat.pow 2 52 → -1074 < x.place → 2 ^ 52 - 1 / 4 ≤ q / 2 ^ x.place

/-- The last place to which `q` is rounded. -/
def lastPlace (q : ℚ) : ℤ := max (Int.log 2 q - 52) (-1074)

variable {q : ℚ} {x : Double}

theorem div_lastPlace_lt (q : ℚ) : q / 2 ^ lastPlace q < 2 ^ 53 := by
  rw [div_lt_iff₀ (by positivity)]
  calc q < 2 ^ (Int.log 2 q + 1) := lt_two_zpow_log q
    _ ≤ 2 ^ (53 + lastPlace q) := zpow_le_zpow_right₀ (by norm_num) (by unfold lastPlace; omega)
    _ = 2 ^ 53 * 2 ^ lastPlace q := by rw [zpow_add₀ (by norm_num)]; rfl

theorem le_div_lastPlace (hq : 0 < q) (h : -1074 < lastPlace q) : 2 ^ 52 ≤ q / 2 ^ lastPlace q := by
  rw [le_div_iff₀ (by positivity)]
  calc (2 : ℚ) ^ 52 * 2 ^ lastPlace q = 2 ^ (52 + lastPlace q) := by rw [zpow_add₀ (by norm_num)]; rfl
    _ = 2 ^ Int.log 2 q := by congr 1; unfold lastPlace at h ⊢; omega
    _ ≤ q := two_zpow_log_le hq

theorem lastPlace_eq {place : ℤ} (hq : 0 < q) (least : -1074 ≤ place) (high : q / 2 ^ place < 2 ^ 53)
    (low : 2 ^ 52 ≤ q / 2 ^ place ∨ place = -1074) : lastPlace q = place := by
  have unit_pos : (0 : ℚ) < 2 ^ place := by positivity
  rw [div_lt_iff₀ unit_pos] at high
  have above : Int.log 2 q < 53 + place := by
    refine (Int.lt_zpow_iff_log_lt (b := 2) (by decide) hq).1 ?_
    rw [zpow_add₀ (by norm_num)]
    exact_mod_cast high
  unfold lastPlace
  rcases low with low | rfl
  · rw [le_div_iff₀ unit_pos] at low
    have below : 52 + place ≤ Int.log 2 q := by
      refine (Int.zpow_le_iff_le_log (b := 2) (by decide) hq).1 ?_
      rw [zpow_add₀ (by norm_num)]
      exact_mod_cast low
    omega
  · omega

theorem mantissa_lt (x : Double) : (x.mantissa : ℚ) + 1 ≤ 2 ^ 53 := by
  have := x.canonical.1
  rw [Nat.pow_eq] at this
  exact_mod_cast this

theorem two_pow_le_mantissa (h : Nat.pow 2 52 ≤ x.mantissa) : (2 : ℚ) ^ 52 ≤ x.mantissa := by
  rw [Nat.pow_eq] at h
  exact_mod_cast h

theorem mantissa_of_power (h : x.mantissa = Nat.pow 2 52) : (x.mantissa : ℚ) = 2 ^ 52 := by
  rw [h, Nat.pow_eq]
  norm_num

theorem two_pow_le_mantissa_of_place (h : x.place ≠ -1074) : (2 : ℚ) ^ 52 ≤ x.mantissa :=
  two_pow_le_mantissa (x.canonical.2.2.2.resolve_right h)

/-- Above the lowest place the least mantissa is the power of two. -/
theorem mantissa_eq_power (h : x.place ≠ -1074) (small : (x.mantissa : ℚ) < 2 ^ 52 + 1) :
    x.mantissa = Nat.pow 2 52 := by
  have : x.mantissa < 2 ^ 52 + 1 := by exact_mod_cast small
  have : 2 ^ 52 ≤ x.mantissa := by exact_mod_cast two_pow_le_mantissa_of_place h
  rw [Nat.pow_eq]
  omega

theorem Covers.pos (h : x.Covers q) (hm : 0 < x.mantissa) : 0 < q := by
  have unit_pos : (0 : ℚ) < 2 ^ x.place := by positivity
  have one_le : (1 : ℚ) ≤ x.mantissa := by exact_mod_cast hm
  have : 0 < q / 2 ^ x.place := by linarith [h.rounds.lower]
  exact (div_pos_iff_of_pos_right unit_pos).1 this

/-- What a double covers is rounded at its last place, but for what stands just below a power of two. -/
theorem Covers.lastPlace_cases (h : x.Covers q) (hq : 0 < q) :
    lastPlace q = x.place ∨
      x.mantissa = Nat.pow 2 52 ∧ lastPlace q = x.place - 1 ∧ RoundsTo (q / 2 ^ (x.place - 1)) (Nat.pow 2 53) := by
  have least := x.canonical.2.1
  have upper := h.rounds.upper
  have lower := h.rounds.lower
  have bound := x.mantissa_lt
  by_cases low : 2 ^ 52 ≤ q / 2 ^ x.place ∨ x.place = -1074
  · exact .inl (lastPlace_eq hq least (by linarith) low)
  · rw [not_or, not_le] at low
    obtain ⟨small, other⟩ := low
    have power := mantissa_eq_power other (by linarith)
    have near := h.near power (by omega)
    have double : q / 2 ^ (x.place - 1) = 2 * (q / 2 ^ x.place) := by
      rw [zpow_sub_one₀ (by norm_num)]
      field_simp
    refine .inr ⟨power, lastPlace_eq hq (by omega) ?_ (.inl ?_), ?_, ?_, fun _ => rfl⟩
    · rw [double]; linarith
    · rw [double]; linarith
    · rw [double]; push_cast; linarith
    · rw [double]; push_cast; linarith

/-! ## Rounding a quotient -/

theorem ofRatio_eq {num den m : ℕ} (negative : Bool) (hn : 0 < num) (hd : 0 < den)
    (h : RoundsTo ((num : ℚ) / den / 2 ^ lastPlace (num / den)) m) :
    ofRatio? negative num den =
      if m = Nat.pow 2 53 then ofParts? negative (Nat.pow 2 52) (lastPlace (num / den) + 1)
      else ofParts? negative m (lastPlace (num / den)) := by
  have place : max (leadingBit num den - 52) (-1074) = lastPlace (num / den) := by rw [leadingBit_eq hn hd]; rfl
  rw [ofRatio?, if_neg hn.ne', place]
  generalize lastPlace (num / den) = z at *
  have scaled_pos : 0 < den * Nat.pow 2 z.toNat := Nat.mul_pos hd (Nat.pow_pos (by decide))
  have counted : ((num * Nat.pow 2 (-z).toNat : ℕ) : ℚ) / (den * Nat.pow 2 z.toNat : ℕ) = num / den / 2 ^ z := by
    rw [zpow_eq_div (by norm_num) z, Nat.pow_eq, Nat.pow_eq]
    push_cast
    field_simp
  have mantissa : roundHalfEven (num * Nat.pow 2 (-z).toNat) (den * Nat.pow 2 z.toNat) = m := by
    refine RoundsTo.unique (q := num / den / 2 ^ z) ?_ h
    rw [← counted]
    exact roundsTo_roundHalfEven scaled_pos
  dsimp only
  rw [mantissa]

theorem ofParts_eq (negative : Bool) (x : Double) :
    ofParts? negative x.mantissa x.place = some { x with negative } := by
  rw [ofParts?, dif_pos x.canonical]

/-- **A quotient is rounded** to the double that covers it. -/
theorem ofRatio_of_covers {num den : ℕ} (negative : Bool) (hd : 0 < den) (h : x.Covers (num / den)) :
    ofRatio? negative num den = some { x with negative } := by
  rcases Nat.eq_zero_or_pos num with rfl | hn
  · rw [Nat.cast_zero, zero_div] at h
    have zero : x.mantissa = 0 := by
      by_contra other
      exact lt_irrefl 0 (h.pos (Nat.pos_of_ne_zero other))
    have least : x.place = -1074 := by
      refine x.canonical.2.2.2.resolve_left ?_
      rw [zero]
      decide
    rw [← ofParts_eq, zero, least]
    rfl
  · have quotient_pos : (0 : ℚ) < num / den := div_pos (Nat.cast_pos.2 hn) (Nat.cast_pos.2 hd)
    rcases h.lastPlace_cases quotient_pos with place | ⟨power, place, rounds⟩
    · have notPower : x.mantissa ≠ Nat.pow 2 53 := x.canonical.1.ne
      rw [ofRatio_eq negative hn hd (place ▸ h.rounds), if_neg notPower, place, ofParts_eq]
    · rw [ofRatio_eq negative hn hd (place ▸ rounds), if_pos rfl, place, Int.sub_add_cancel, ← power, ofParts_eq]

/-- Doubles of one sign that cover the same are the same. -/
theorem Covers.unique {y : Double} (hx : x.Covers q) (hy : y.Covers q) (nonneg : 0 ≤ q)
    (sign : x.negative = y.negative) : x = y := by
  rw [← toNat_num_div_den nonneg] at hx hy
  have found := ofRatio_of_covers x.negative q.den_pos hx
  rw [ofRatio_of_covers x.negative q.den_pos hy] at found
  have same : { y with negative := x.negative } = x := Option.some.inj found
  rw [sign] at same
  exact same.symm

/-- The least magnitude that no finite double covers. -/
def overflow : ℚ := (2 ^ 53 - 1 / 2) * 2 ^ (971 : ℤ)

theorem place_lt_of_lt_overflow {place : ℤ} (hq : q < overflow) (h : 2 ^ 53 - 1 / 2 ≤ q / 2 ^ place) : place < 971 := by
  by_contra large
  rw [le_div_iff₀ (by positivity)] at h
  have : (2 : ℚ) ^ (971 : ℤ) ≤ 2 ^ place := zpow_le_zpow_right₀ (by norm_num) (by omega)
  have : overflow ≤ (2 ^ 53 - 1 / 2) * 2 ^ place := mul_le_mul_of_nonneg_left this (by norm_num)
  linarith

theorem lastPlace_le_of_lt_overflow (pos : 0 < q) (hq : q < overflow) : lastPlace q ≤ 971 := by
  by_contra beyond
  have low := le_div_lastPlace pos (by omega)
  rw [le_div_iff₀ (by positivity)] at low
  have next : (2 : ℚ) ^ (971 + 1 : ℤ) ≤ 2 ^ lastPlace q := zpow_le_zpow_right₀ (by norm_num) (by omega)
  have unit_pos : (0 : ℚ) < 2 ^ (971 : ℤ) := by positivity
  rw [zpow_add_one₀ (by norm_num)] at next
  rw [overflow] at hq
  generalize (2 : ℚ) ^ (971 : ℤ) = unit at *
  linarith

/-- A mantissa that gets too long becomes a power of two at the next place. -/
theorem exists_covers_of_carry (negative : Bool) (hq : q < overflow)
    (rounds : RoundsTo (q / 2 ^ lastPlace q) (2 ^ 53 : ℕ)) : ∃ x : Double, x.negative = negative ∧ x.Covers q := by
  have high := div_lastPlace_lt q
  have least : -1074 ≤ lastPlace q := le_max_right _ _
  have lower := rounds.lower
  push_cast at lower
  have place := place_lt_of_lt_overflow hq lower
  have half : q / 2 ^ (lastPlace q + 1) = q / 2 ^ lastPlace q / 2 := by
    rw [zpow_add_one₀ (by norm_num)]
    field_simp
  refine ⟨⟨negative, Nat.pow 2 52, lastPlace q + 1, by decide, by omega, by omega, .inl le_rfl⟩, rfl, ⟨?_, ?_, ?_⟩, ?_⟩
  · rw [half]; push_cast; linarith
  · rw [half]; push_cast; linarith
  · intro _
    show Nat.pow 2 52 % 2 = 0
    decide
  · intro _ _
    rw [half]
    linarith

theorem exists_covers_of_rounds (negative : Bool) {m : ℕ} (pos : 0 < q) (hq : q < overflow) (small : m < 2 ^ 53)
    (rounds : RoundsTo (q / 2 ^ lastPlace q) m) : ∃ x : Double, x.negative = negative ∧ x.Covers q := by
  have least : -1074 ≤ lastPlace q := le_max_right _ _
  have large (h : -1074 < lastPlace q) : 2 ^ 52 ≤ m := by
    have : (2 : ℚ) ^ 52 < m + 1 := by linarith [le_div_lastPlace pos h, rounds.upper]
    have : 2 ^ 52 < m + 1 := by exact_mod_cast this
    omega
  refine ⟨⟨negative, m, lastPlace q, small, least, lastPlace_le_of_lt_overflow pos hq, ?_⟩, rfl, rounds,
    fun _ h => ?_⟩
  · by_cases h : -1074 < lastPlace q
    · exact .inl (large h)
    · exact .inr (by omega)
  · linarith [le_div_lastPlace pos h]

/-- Every magnitude below the overflow is covered by a double. -/
theorem exists_covers (negative : Bool) (nonneg : 0 ≤ q) (hq : q < overflow) :
    ∃ x : Double, x.negative = negative ∧ x.Covers q := by
  rcases nonneg.eq_or_lt with rfl | pos
  · refine ⟨zero negative, rfl, ?_, ?_⟩
    · rw [zero_div]
      exact_mod_cast roundsTo_natCast 0
    · intro power
      exact absurd (show 0 = Nat.pow 2 52 from power) (by decide)
  obtain ⟨m, rounds⟩ := exists_roundsTo (q := q / 2 ^ lastPlace q) (by positivity)
  have bound : m < 2 ^ 53 + 1 := by
    have : (m : ℚ) < 2 ^ 53 + 1 := by linarith [rounds.lower, div_lastPlace_lt q]
    exact_mod_cast this
  rcases Nat.lt_succ_iff_lt_or_eq.1 bound with small | rfl
  · exact exists_covers_of_rounds negative pos hq small rounds
  · exact exists_covers_of_carry negative hq rounds

theorem exists_ofRatio (negative : Bool) {num den : ℕ} (hd : 0 < den) (h : (num : ℚ) / den < overflow) :
    ∃ x, ofRatio? negative num den = some x ∧ x.negative = negative ∧ x.Covers (num / den) := by
  obtain ⟨x, sign, covers⟩ := exists_covers negative (by positivity) h
  refine ⟨x, ?_, sign, covers⟩
  rw [ofRatio_of_covers negative hd covers, ← sign]

/-- A quotient beyond the doubles is rounded to none. -/
theorem ofRatio_eq_none {num den : ℕ} (negative : Bool) (hd : 0 < den) (h : overflow ≤ (num : ℚ) / den) :
    ofRatio? negative num den = none := by
  have start : (2 : ℚ) ^ (1023 : ℤ) ≤ overflow := by
    rw [overflow, show (1023 : ℤ) = 52 + 971 from rfl, zpow_add₀ (by norm_num)]
    exact mul_le_mul_of_nonneg_right (by norm_num) (by positivity)
  have pos : (0 : ℚ) < num / den := (show (0 : ℚ) < 2 ^ (1023 : ℤ) by positivity).trans_le (start.trans h)
  have num_pos : 0 < num := by
    rw [Nat.pos_iff_ne_zero]
    rintro rfl
    rw [Nat.cast_zero, zero_div] at pos
    exact lt_irrefl 0 pos
  have log : 1023 ≤ Int.log 2 ((num : ℚ) / den) :=
    (Int.zpow_le_iff_le_log (b := 2) (by decide) pos).1 (by exact_mod_cast start.trans h)
  have place : 971 ≤ lastPlace (num / den) := by
    unfold lastPlace
    omega
  obtain ⟨m, rounds⟩ := exists_roundsTo (q := num / den / 2 ^ lastPlace (num / den)) (by positivity)
  rw [ofRatio_eq negative num_pos hd rounds]
  split_ifs with carry
  · exact dif_neg fun canonical => by have := canonical.2.2.1; omega
  · refine dif_neg fun canonical => ?_
    have last : lastPlace ((num : ℚ) / den) = 971 := le_antisymm canonical.2.2.1 place
    have short := canonical.1
    have reached : 2 ^ 53 - 1 / 2 ≤ (num : ℚ) / den / 2 ^ lastPlace (num / den) := by
      rwa [last, le_div_iff₀ (by positivity)]
    -- The greatest mantissa is odd, so halfway above it the even neighbour is taken.
    have upper := rounds.upper
    have greatest : m = 2 ^ 53 - 1 := by
      have : (2 : ℚ) ^ 53 - 1 ≤ m := by linarith
      have : (2 : ℚ) ^ 53 ≤ (m + 1 : ℕ) := by push_cast; linarith
      have : 2 ^ 53 ≤ m + 1 := by exact_mod_cast this
      rw [Nat.pow_eq] at short
      omega
    subst greatest
    push_cast at upper
    have even := rounds.tie (.inr (by push_cast; linarith))
    exact absurd even (by decide)

theorem covers_of_ofRatio {num den : ℕ} {negative : Bool} (hd : 0 < den) (h : ofRatio? negative num den = some x) :
    x.negative = negative ∧ x.Covers (num / den) := by
  by_cases inside : (num : ℚ) / den < overflow
  · obtain ⟨y, found, spec⟩ := exists_ofRatio negative hd inside
    rw [h] at found
    rwa [Option.some.inj found]
  · rw [ofRatio_eq_none negative hd (not_lt.1 inside)] at h
    cases h

/-! ## What rounding keeps -/

theorem magnitude_div (x : Double) : x.magnitude / 2 ^ x.place = x.mantissa := by
  rw [magnitude, mul_div_cancel_right₀ _ (by positivity)]

/-- A double is rounded to itself. -/
theorem covers_magnitude (x : Double) : x.Covers x.magnitude := by
  refine ⟨?_, fun power _ => ?_⟩
  · rw [magnitude_div]
    exact roundsTo_natCast x.mantissa
  · rw [magnitude_div, mantissa_of_power power]
    norm_num

theorem mul_zpow_div (q : ℚ) (j place : ℤ) : q * 2 ^ j / 2 ^ place = q * 2 ^ (j - place) := by
  rw [zpow_sub₀ (by norm_num)]
  field_simp

theorem Covers.place_le {k : ℕ} {j : ℤ} (h : x.Covers (k * 2 ^ j)) (bits : k < 2 ^ 53) (least : -1074 ≤ j) :
    x.place ≤ j := by
  -- A place above `j` would leave less than half of the mantissa that it needs.
  by_contra above
  have half : (k : ℚ) * 2 ^ j / 2 ^ x.place ≤ 2 ^ 52 - 1 / 2 := by
    have short : (k : ℚ) + 1 ≤ 2 ^ 53 := by exact_mod_cast bits
    have shift : (2 : ℚ) ^ (j - x.place) ≤ 2 ^ (-1 : ℤ) := zpow_le_zpow_right₀ (by norm_num) (by omega)
    calc (k : ℚ) * 2 ^ j / 2 ^ x.place = k * 2 ^ (j - x.place) := mul_zpow_div ..
      _ ≤ k * 2 ^ (-1 : ℤ) := mul_le_mul_of_nonneg_left shift (by positivity)
      _ ≤ 2 ^ 52 - 1 / 2 := by norm_num at *; linarith
  have lower := h.rounds.lower
  have other : x.place ≠ -1074 := by omega
  have power := mantissa_eq_power other (by linarith)
  have := h.near power (by omega)
  linarith

/-- What has at most 53 bits is kept by rounding. -/
theorem Covers.exact {k : ℕ} {j : ℤ} (h : x.Covers (k * 2 ^ j)) (bits : k < 2 ^ 53) (least : -1074 ≤ j) :
    x.magnitude = k * 2 ^ j := by
  have place := h.place_le bits least
  have whole : (k : ℚ) * 2 ^ (j - x.place) = (k * 2 ^ (j - x.place).toNat : ℕ) := by
    obtain ⟨d, hd⟩ := Int.eq_ofNat_of_zero_le (by omega : 0 ≤ j - x.place)
    rw [hd, Int.toNat_natCast, zpow_natCast]
    push_cast
    rfl
  have mantissa : x.mantissa = k * 2 ^ (j - x.place).toNat := by
    have rounds := h.rounds
    rw [mul_zpow_div, whole] at rounds
    exact rounds.unique (roundsTo_natCast _)
  rw [magnitude, mantissa, ← whole, zpow_sub₀ (by norm_num)]
  field_simp

/-- Where the mantissa has all its bits, rounding goes no further than this part of the result. -/
theorem Covers.error_le (h : x.Covers q) (normal : Nat.pow 2 52 ≤ x.mantissa) :
    |x.magnitude - q| ≤ x.magnitude / 2 ^ 53 := by
  have unit_pos : (0 : ℚ) < 2 ^ x.place := by positivity
  have bits := two_pow_le_mantissa normal
  have counted : x.magnitude - q = (x.mantissa - q / 2 ^ x.place) * 2 ^ x.place := by
    rw [sub_mul, div_mul_cancel₀ _ unit_pos.ne', magnitude]
  have close : |(x.mantissa : ℚ) - q / 2 ^ x.place| ≤ x.mantissa / 2 ^ 53 := by
    have := h.rounds.lower
    have := h.rounds.upper
    rw [abs_le]
    constructor <;> linarith
  calc |x.magnitude - q| = |(x.mantissa : ℚ) - q / 2 ^ x.place| * 2 ^ x.place := by
        rw [counted, abs_mul, abs_of_pos unit_pos]
    _ ≤ x.mantissa / 2 ^ 53 * 2 ^ x.place := by gcongr
    _ = x.magnitude / 2 ^ 53 := by rw [magnitude]; ring

theorem Covers.le_place (h : x.Covers q) (hq : 1 ≤ q) : -52 ≤ x.place := by
  by_contra low
  have upper := h.rounds.upper
  have bound := x.mantissa_lt
  have tiny : (2 : ℚ) ^ x.place ≤ 2 ^ (-53 : ℤ) := zpow_le_zpow_right₀ (by norm_num) (by omega)
  rw [div_le_iff₀ (by positivity)] at upper
  have : ((x.mantissa : ℚ) + 1 / 2) * 2 ^ x.place ≤ (2 ^ 53 - 1 / 2) * 2 ^ (-53 : ℤ) := by
    gcongr
    linarith
  norm_num at this
  linarith

/-- What covers at least one has a mantissa with all its bits. -/
theorem Covers.normal (h : x.Covers q) (hq : 1 ≤ q) : Nat.pow 2 52 ≤ x.mantissa := by
  have := h.le_place hq
  exact x.canonical.2.2.2.resolve_right (by omega)

theorem Covers.one_le_magnitude (h : x.Covers q) (hq : 1 ≤ q) : 1 ≤ x.magnitude := by
  have bits := two_pow_le_mantissa (h.normal hq)
  have place : (2 : ℚ) ^ (-52 : ℤ) ≤ 2 ^ x.place := zpow_le_zpow_right₀ (by norm_num) (h.le_place hq)
  calc (1 : ℚ) = 2 ^ 52 * 2 ^ (-52 : ℤ) := by norm_num
    _ ≤ x.magnitude := mul_le_mul bits place (by positivity) (by positivity)

end Double

end TypeSketch
