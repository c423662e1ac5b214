import TypeSketch.Number.Shortest
import TypeSketch.Proofs.Rounding

/-!
# The shortest digits of a double

* `readsBack_iff` : the points of a grid that read back are those that the double covers;
* `nearestOn_spec`, `exists_nearestOn` : of two neighbours on a grid one that reads back is found if there
  is one;
* `decimalExponent_spec` : the search from below ends at the exponent of the first digit;
* `shortest_spec` : the digits of a double that is not zero are covered by it, at most seventeen of them
  and without a zero at the end.
-/

namespace TypeSketch

/-- The value of a decimal. -/
def Decimal.value (d : Decimal) : ℚ := d.digits * 10 ^ d.exponent

namespace Double

variable {x : Double} {q : ℚ}

/-! ## Points of a grid -/

theorem steps_den_pos (quarters : ℕ) (place grid : ℤ) : 0 < (steps quarters place grid).den :=
  Nat.mul_pos (Nat.pow_pos (by decide)) (Nat.pow_pos (by decide))

theorem steps_value (quarters : ℕ) (place grid : ℤ) :
    ((steps quarters place grid).num : ℚ) / (steps quarters place grid).den =
      quarters / 4 * 2 ^ place / 10 ^ grid := by
  have quarter : (2 : ℚ) ^ place = 2 ^ (place - 2) * 4 := by
    rw [zpow_sub₀ (by norm_num)]
    norm_num
  have low : (2 : ℚ) ^ (place - 2) = 2 ^ (place - 2).toNat / 2 ^ (2 - place).toNat := by
    rw [zpow_eq_div (by norm_num), neg_sub]
  have high : (10 : ℚ) ^ grid = 10 ^ grid.toNat / 10 ^ (-grid).toNat := zpow_eq_div (by norm_num) grid
  rw [quarter, low, high, steps, Nat.pow_eq, Nat.pow_eq, Nat.pow_eq, Nat.pow_eq]
  push_cast
  field_simp

theorem steps_le_iff (quarters : ℕ) (place grid : ℤ) (n : ℕ) :
    (steps quarters place grid).num ≤ n * (steps quarters place grid).den ↔
      (quarters : ℚ) / 4 ≤ n * 10 ^ grid / 2 ^ place := by
  have den_pos : (0 : ℚ) < (steps quarters place grid).den := Nat.cast_pos.2 (steps_den_pos _ _ _)
  rw [le_div_iff₀ (by positivity), ← div_le_iff₀ (by positivity), ← steps_value, div_le_iff₀ den_pos]
  exact_mod_cast Iff.rfl

theorem le_steps_iff (quarters : ℕ) (place grid : ℤ) (n : ℕ) :
    n * (steps quarters place grid).den ≤ (steps quarters place grid).num ↔
      (n : ℚ) * 10 ^ grid / 2 ^ place ≤ quarters / 4 := by
  have den_pos : (0 : ℚ) < (steps quarters place grid).den := Nat.cast_pos.2 (steps_den_pos _ _ _)
  rw [div_le_iff₀ (by positivity), ← le_div_iff₀ (by positivity), ← steps_value, le_div_iff₀ den_pos]
  exact_mod_cast Iff.rfl

/-- The bounds of what a double covers: they belong to it if the mantissa is even. -/
theorem covers_iff (hm : 0 < x.mantissa) :
    x.Covers q ↔
      if x.mantissa % 2 = 0 then
        ((4 * x.mantissa - x.lowerGap : ℕ) : ℚ) / 4 ≤ q / 2 ^ x.place ∧
          q / 2 ^ x.place ≤ ((4 * x.mantissa + 2 : ℕ) : ℚ) / 4
      else
        ((4 * x.mantissa - x.lowerGap : ℕ) : ℚ) / 4 < q / 2 ^ x.place ∧
          q / 2 ^ x.place < ((4 * x.mantissa + 2 : ℕ) : ℚ) / 4 := by
  have high : ((4 * x.mantissa + 2 : ℕ) : ℚ) / 4 = x.mantissa + 1 / 2 := by
    push_cast
    ring
  have low (gap : ℕ) (h : gap ≤ 2) : ((4 * x.mantissa - gap : ℕ) : ℚ) / 4 = x.mantissa - gap / 4 := by
    rw [Nat.cast_sub (by omega)]
    push_cast
    ring
  by_cases power : x.mantissa = Nat.pow 2 52 ∧ -1074 < x.place
  · have even : x.mantissa % 2 = 0 := by rw [power.1]
    have value := mantissa_of_power power.1
    rw [if_pos even, lowerGap, if_pos power, high, low 1 (by decide), value]
    constructor
    · intro h
      have upper := h.rounds.upper
      rw [value] at upper
      exact ⟨by have := h.near power.1 power.2; push_cast; linarith, upper⟩
    · rintro ⟨lower, upper⟩
      push_cast at lower
      refine ⟨⟨?_, ?_, fun _ => even⟩, fun _ _ => lower⟩ <;> rw [value] <;> linarith
  · have half : ((2 : ℕ) : ℚ) / 4 = 1 / 2 := by norm_num
    rw [lowerGap, if_neg power, high, low 2 le_rfl, half]
    split_ifs with even
    · constructor
      · exact fun h => ⟨h.rounds.lower, h.rounds.upper⟩
      · exact fun h => ⟨⟨h.1, h.2, fun _ => even⟩, fun e p => absurd ⟨e, p⟩ power⟩
    · constructor
      · intro h
        refine ⟨lt_of_le_of_ne h.rounds.lower fun e => ?_, lt_of_le_of_ne h.rounds.upper fun e => ?_⟩
        · exact even (h.rounds.tie (.inl e.symm))
        · exact even (h.rounds.tie (.inr e))
      · rintro ⟨lower, upper⟩
        refine ⟨⟨lower.le, upper.le, fun tie => ?_⟩, fun e p => absurd ⟨e, p⟩ power⟩
        rcases tie with tie | tie <;> linarith

theorem readsBack_iff (hm : 0 < x.mantissa) (grid : ℤ) (n : ℕ) :
    x.readsBack grid n = true ↔ x.Covers (n * 10 ^ grid) := by
  have low := steps_le_iff (4 * x.mantissa - x.lowerGap) x.place grid n
  have high := le_steps_iff (4 * x.mantissa + 2) x.place grid n
  have low' := le_steps_iff (4 * x.mantissa - x.lowerGap) x.place grid n
  have high' := steps_le_iff (4 * x.mantissa + 2) x.place grid n
  rw [covers_iff hm, readsBack]
  split_ifs with even
  · rw [Bool.and_eq_true, decide_eq_true_eq, decide_eq_true_eq, low, high]
  · rw [Bool.and_eq_true, decide_eq_true_eq, decide_eq_true_eq, ← not_le, ← not_le, low', high', not_le, not_le]

/-- What lies strictly between the bounds is covered. -/
theorem covers_of_lt (hm : 0 < x.mantissa) (low : x.mantissa - (x.lowerGap : ℚ) / 4 < q / 2 ^ x.place)
    (high : q / 2 ^ x.place < x.mantissa + 1 / 2) : x.Covers q := by
  have gap : x.lowerGap ≤ 4 * x.mantissa := by
    unfold lowerGap
    split_ifs <;> omega
  have low' : ((4 * x.mantissa - x.lowerGap : ℕ) : ℚ) / 4 < q / 2 ^ x.place := by
    rw [Nat.cast_sub gap]
    push_cast
    linarith
  have high' : q / 2 ^ x.place < ((4 * x.mantissa + 2 : ℕ) : ℚ) / 4 := by
    push_cast
    linarith
  rw [covers_iff hm]
  split_ifs
  · exact ⟨low'.le, high'.le⟩
  · exact ⟨low', high'⟩

/-! ## Neighbours on a grid -/

theorem roundHalfEven_cases (num den : ℕ) :
    roundHalfEven num den = num / den ∨ roundHalfEven num den = num / den + 1 := by
  unfold roundHalfEven
  dsimp only
  split_ifs
  · exact .inl rfl
  · exact .inr rfl
  · exact .inl rfl
  · exact .inr rfl

/-- The point of the grid at a double or just below it. -/
def gridBelow (x : Double) (grid : ℤ) : ℕ :=
  (steps (4 * x.mantissa) x.place grid).num / (steps (4 * x.mantissa) x.place grid).den

theorem nearestOn_spec {grid : ℤ} {n : ℕ} (h : x.nearestOn grid = some n) :
    x.readsBack grid n = true ∧ n ≤ x.gridBelow grid + 1 := by
  have cases := roundHalfEven_cases (steps (4 * x.mantissa) x.place grid).num (steps (4 * x.mantissa) x.place grid).den
  unfold nearestOn at h
  dsimp only at h
  rw [← gridBelow] at *
  split at h
  · cases h
  · next below above => cases h; exact ⟨below, Nat.le_succ _⟩
  · next below above => cases h; exact ⟨above, le_rfl⟩
  · next below above =>
    cases h
    rcases cases with e | e <;> rw [e]
    · exact ⟨below, Nat.le_succ _⟩
    · exact ⟨above, le_rfl⟩

theorem exists_nearestOn {grid : ℤ}
    (h : x.readsBack grid (x.gridBelow grid) = true ∨ x.readsBack grid (x.gridBelow grid + 1) = true) :
    ∃ n, x.nearestOn grid = some n := by
  unfold nearestOn
  dsimp only
  rw [← gridBelow]
  split
  · next below above =>
    rw [below, above] at h
    cases h <;> contradiction
  · exact ⟨_, rfl⟩
  · exact ⟨_, rfl⟩
  · exact ⟨_, rfl⟩

theorem le_gridBelow_iff (x : Double) (grid : ℤ) (n : ℕ) : n ≤ x.gridBelow grid ↔ n * 10 ^ grid ≤ x.magnitude := by
  have value : ((4 * x.mantissa : ℕ) : ℚ) / 4 = x.mantissa := by
    push_cast
    ring
  rw [gridBelow, Nat.le_div_iff_mul_le (steps_den_pos _ _ _), le_steps_iff, value, div_le_iff₀ (by positivity)]
  rfl

theorem gridBelow_le (x : Double) (grid : ℤ) : x.gridBelow grid * 10 ^ grid ≤ x.magnitude :=
  (le_gridBelow_iff x grid _).1 le_rfl

theorem lt_gridBelow (x : Double) (grid : ℤ) : x.magnitude < (x.gridBelow grid + 1) * 10 ^ grid := by
  have beyond := mt (le_gridBelow_iff x grid (x.gridBelow grid + 1)).2 (by omega)
  push_cast at beyond
  exact not_le.1 beyond

/-! ## The exponent of the first digit -/

/-- A search upward stays where it cannot go on. -/
theorem foldl_stay {reaches : ℤ → Bool} {e : ℤ} (h : reaches (e + 1) = false) (l : List ℕ) :
    l.foldl (fun e _ => if reaches (e + 1) then e + 1 else e) e = e := by
  induction l with
  | nil => rfl
  | cons _ l ih =>
    rw [List.foldl_cons, h]
    exact ih

/-- A search upward ends where it cannot go on, or after as many steps as it has. -/
theorem foldl_climb (reaches : ℤ → Bool) (l : List ℕ) (e : ℤ) :
    let last := l.foldl (fun e _ => if reaches (e + 1) then e + 1 else e) e
    e ≤ last ∧ last ≤ e + l.length ∧ (reaches e = true → reaches last = true) ∧
      (reaches (last + 1) = false ∨ last = e + l.length) := by
  induction l generalizing e with
  | nil => exact ⟨le_rfl, by simp, id, .inr (by simp)⟩
  | cons n l ih =>
    rw [List.foldl_cons, List.length_cons]
    cases h : reaches (e + 1) with
    | true =>
      obtain ⟨low, high, reached, ends⟩ := ih (e + 1)
      simp only [if_true]
      push_cast
      refine ⟨by omega, by omega, fun _ => reached h, ?_⟩
      rcases ends with ends | ends
      · exact .inl ends
      · exact .inr (by omega)
    | false =>
      simp only [Bool.false_eq_true, if_false]
      rw [foldl_stay h l]
      push_cast
      exact ⟨le_rfl, by omega, id, .inl h⟩

/-- Powers are compared by other powers of their bases. -/
theorem zpow_le_zpow_of_pow_le {a c : ℚ} (ha : 1 ≤ a) (hc : 0 < c) {i j : ℕ} (hj : 0 < j) (bases : a ^ i ≤ c ^ j)
    {s b : ℤ} (hb : 0 ≤ b) (h : j * s ≤ i * b) : a ^ s ≤ c ^ b := by
  have a_pos : 0 < a := one_pos.trans_le ha
  obtain ⟨n, rfl⟩ := Int.eq_ofNat_of_zero_le hb
  have powers : (a ^ s) ^ j ≤ (c ^ (n : ℤ)) ^ j := by
    calc (a ^ s) ^ j = a ^ (j * s : ℤ) := by rw [mul_comm, zpow_mul, zpow_natCast]
      _ ≤ a ^ (i * n : ℤ) := zpow_le_zpow_right₀ ha h
      _ = (a ^ i) ^ n := by rw [zpow_mul, zpow_natCast, zpow_natCast]
      _ ≤ (c ^ j) ^ n := pow_le_pow_left₀ (by positivity) bases n
      _ = (c ^ (n : ℤ)) ^ j := by rw [zpow_natCast, ← pow_mul, ← pow_mul, mul_comm]
  exact le_of_pow_le_pow_left₀ hj.ne' (by positivity) powers

theorem ten_zpow_le_two_zpow {s b : ℤ} (h : 0 ≤ b ∧ 10 * s ≤ 3 * b ∨ s ≤ 0 ∧ 93 * s ≤ 28 * b) :
    (10 : ℚ) ^ s ≤ 2 ^ b := by
  rcases h with ⟨nonneg, h⟩ | ⟨nonpos, h⟩
  · exact zpow_le_zpow_of_pow_le (i := 3) (j := 10) (by norm_num) (by norm_num) (by decide) (by norm_num) nonneg h
  · have inverse : (2 : ℚ) ^ (-b) ≤ 10 ^ (-s) :=
      zpow_le_zpow_of_pow_le (i := 93) (j := 28) (by norm_num) (by norm_num) (by decide) (by norm_num) (by omega)
        (by push_cast; omega)
    rwa [zpow_neg, zpow_neg, inv_le_inv₀ (by positivity) (by positivity)] at inverse

theorem two_zpow_le_ten_zpow {s b : ℤ} (h : 0 ≤ s ∧ 28 * b ≤ 93 * s ∨ b ≤ 0 ∧ 3 * b ≤ 10 * s) :
    (2 : ℚ) ^ b ≤ 10 ^ s := by
  rcases h with ⟨nonneg, h⟩ | ⟨nonpos, h⟩
  · exact zpow_le_zpow_of_pow_le (i := 93) (j := 28) (by norm_num) (by norm_num) (by decide) (by norm_num) nonneg h
  · have inverse : (10 : ℚ) ^ (-s) ≤ 2 ^ (-b) :=
      zpow_le_zpow_of_pow_le (i := 3) (j := 10) (by norm_num) (by norm_num) (by decide) (by norm_num) (by omega)
        (by push_cast; omega)
    rwa [zpow_neg, zpow_neg, inv_le_inv₀ (by positivity) (by positivity)] at inverse

theorem magnitude_bounds (hm : 0 < x.mantissa) :
    (2 : ℚ) ^ (x.mantissa.log2 + x.place) ≤ x.magnitude ∧ x.magnitude < 2 ^ (x.mantissa.log2 + x.place + 1) := by
  constructor
  · rw [zpow_add₀ (by norm_num)]
    exact mul_le_mul_of_nonneg_right (two_zpow_log2_le hm) (by positivity)
  · rw [add_right_comm, zpow_add₀ (by norm_num)]
    exact mul_lt_mul_of_pos_right (lt_two_zpow_log2 x.mantissa) (by positivity)

theorem reaches_iff (x : Double) (e : ℤ) :
    (steps (4 * x.mantissa) x.place e).den ≤ (steps (4 * x.mantissa) x.place e).num ↔ (10 : ℚ) ^ e ≤ x.magnitude := by
  have one := le_gridBelow_iff x e 1
  rwa [gridBelow, Nat.le_div_iff_mul_le (steps_den_pos _ _ _), Nat.one_mul, Nat.cast_one, one_mul] at one

theorem decimalExponent_spec (hm : 0 < x.mantissa) :
    (10 : ℚ) ^ x.decimalExponent ≤ x.magnitude ∧ x.magnitude < 10 ^ (x.decimalExponent + 1) ∧
      -330 ≤ x.decimalExponent ∧ x.decimalExponent ≤ 330 := by
  obtain ⟨low, high⟩ := magnitude_bounds hm
  obtain ⟨bits, least, greatest, -⟩ := x.canonical
  have logarithm : x.mantissa.log2 < 53 := (Nat.log2_lt hm.ne').2 bits
  generalize hstart : ((x.mantissa.log2 : ℤ) + x.place) * 30103 / 100000 - 2 = start
  -- The search starts low enough, and its steps lead beyond the first digit.
  have tooLow : (10 : ℚ) ^ start ≤ x.magnitude := (ten_zpow_le_two_zpow (by omega)).trans low
  have tooHigh : x.magnitude < 10 ^ (start + 6) := high.trans_le (two_zpow_le_ten_zpow (by omega))
  obtain ⟨above, below, reached, ends⟩ := foldl_climb
    (fun e => decide ((steps (4 * x.mantissa) x.place e).den ≤ (steps (4 * x.mantissa) x.place e).num)) (List.range 5) start
  have found : (List.range 5).foldl (fun e _ =>
      if decide ((steps (4 * x.mantissa) x.place (e + 1)).den ≤ (steps (4 * x.mantissa) x.place (e + 1)).num) = true
      then e + 1 else e) start = x.decimalExponent := by
    rw [← hstart]
    rfl
  rw [found] at above below reached ends
  simp only [decide_eq_true_eq, decide_eq_false_iff_not, reaches_iff, List.length_range] at reached ends below
  refine ⟨reached tooLow, ?_, by omega, by omega⟩
  rcases ends with ends | ends
  · exact not_le.1 ends
  · have last : x.decimalExponent + 1 = start + 6 := by omega
    rw [last]
    exact tooHigh

/-! ## Seventeen digits -/

/-- Seventeen digits make steps that are shorter than the gap between what a double covers and the
double. -/
theorem half_step_lt (hm : 0 < x.mantissa) :
    (10 : ℚ) ^ (x.decimalExponent - 16) / 2 < (x.lowerGap : ℚ) / 4 * 2 ^ x.place := by
  obtain ⟨first, -, -, -⟩ := decimalExponent_spec hm
  have unit_pos : (0 : ℚ) < 2 ^ x.place := by positivity
  have fine : (10 : ℚ) ^ (x.decimalExponent - 16) * 10 ^ 16 ≤ x.mantissa * 2 ^ x.place := by
    have : (10 : ℚ) ^ (x.decimalExponent - 16) * 10 ^ (16 : ℤ) = 10 ^ x.decimalExponent := by
      rw [← zpow_add₀ (by norm_num), Int.sub_add_cancel]
    calc (10 : ℚ) ^ (x.decimalExponent - 16) * 10 ^ 16 = 10 ^ x.decimalExponent := this
      _ ≤ x.magnitude := first
  generalize (10 : ℚ) ^ (x.decimalExponent - 16) = step at *
  unfold lowerGap
  split_ifs with power
  · have value : (x.mantissa : ℚ) = 2 ^ 52 := mantissa_of_power power.1
    rw [value] at fine
    push_cast
    linarith
  · have long : (x.mantissa : ℚ) * 2 ^ x.place ≤ 2 ^ 53 * 2 ^ x.place := by
      have := x.mantissa_lt
      gcongr
      linarith
    push_cast
    linarith

/-- At seventeen digits a point of the grid reads back. -/
theorem readsBack_seventeen (hm : 0 < x.mantissa) :
    x.readsBack (x.decimalExponent - 16) (x.gridBelow (x.decimalExponent - 16)) = true ∨
      x.readsBack (x.decimalExponent - 16) (x.gridBelow (x.decimalExponent - 16) + 1) = true := by
  have below := gridBelow_le x (x.decimalExponent - 16)
  have above := lt_gridBelow x (x.decimalExponent - 16)
  have unit_pos : (0 : ℚ) < 2 ^ x.place := by positivity
  have short := half_step_lt hm
  have gap : (x.lowerGap : ℚ) / 4 * 2 ^ x.place ≤ 1 / 2 * 2 ^ x.place := by
    have : x.lowerGap ≤ 2 := by unfold lowerGap; split_ifs <;> decide
    have : (x.lowerGap : ℚ) ≤ 2 := by exact_mod_cast this
    exact mul_le_mul_of_nonneg_right (by linarith) unit_pos.le
  rw [readsBack_iff hm, readsBack_iff hm, Nat.cast_succ]
  rw [magnitude] at below above
  generalize (10 : ℚ) ^ (x.decimalExponent - 16) = step at *
  -- The nearer of the two neighbours is at most half a step away.
  by_cases near : x.mantissa * 2 ^ x.place - x.gridBelow (x.decimalExponent - 16) * step ≤ step / 2
  · refine .inl (covers_of_lt hm ?_ ?_)
    · rw [lt_div_iff₀ unit_pos]
      linarith
    · rw [div_lt_iff₀ unit_pos]
      linarith
  · refine .inr (covers_of_lt hm ?_ ?_)
    · rw [lt_div_iff₀ unit_pos]
      linarith
    · rw [div_lt_iff₀ unit_pos]
      linarith

/-- The search for the shortest digits ends at a grid that has a point which reads back. -/
theorem exists_hit (hm : 0 < x.mantissa) :
    ∃ (n more : ℕ), more < 17 ∧ x.nearestOn (x.decimalExponent - more) = some n ∧
      x.shortest = Decimal.trim 17 ⟨n, x.decimalExponent - more⟩ := by
  obtain ⟨last, found⟩ := exists_nearestOn (readsBack_seventeen hm)
  have search : ∃ d, (List.range 17).findSome? (fun (more : ℕ) =>
      (x.nearestOn (x.decimalExponent - more)).map fun digits => (⟨digits, x.decimalExponent - more⟩ : Decimal)) =
        some d := by
    rw [← Option.isSome_iff_exists, List.findSome?_isSome_iff]
    refine ⟨16, List.mem_range.2 (by decide), ?_⟩
    rw [Option.isSome_map]
    exact Option.isSome_iff_exists.2 ⟨last, found⟩
  obtain ⟨d, hit⟩ := search
  obtain ⟨more, mem, image⟩ := List.exists_of_findSome?_eq_some hit
  obtain ⟨n, nearest, rfl⟩ := Option.map_eq_some_iff.1 image
  refine ⟨n, more, List.mem_range.1 mem, nearest, ?_⟩
  rw [shortest, hit]
  rfl

theorem hit_le {n more : ℕ} (hm : 0 < x.mantissa) (h : x.nearestOn (x.decimalExponent - more) = some n) :
    n ≤ 10 ^ (more + 1) := by
  obtain ⟨-, last, -, -⟩ := decimalExponent_spec hm
  have step_pos : (0 : ℚ) < 10 ^ (x.decimalExponent - more) := by positivity
  have below := (gridBelow_le x (x.decimalExponent - more)).trans_lt last
  have exponent : x.decimalExponent + 1 = (more + 1 : ℕ) + (x.decimalExponent - more) := by
    push_cast
    ring
  rw [exponent, zpow_add₀ (by norm_num), zpow_natCast] at below
  have fewer : (x.gridBelow (x.decimalExponent - more) : ℚ) < 10 ^ (more + 1) := lt_of_mul_lt_mul_right below step_pos.le
  have : x.gridBelow (x.decimalExponent - more) < 10 ^ (more + 1) := by exact_mod_cast fewer
  exact (nearestOn_spec h).2.trans this

end Double

namespace Decimal

/-- Moving zeros at the end into the exponent keeps the value and leaves no such zero. -/
theorem trim_spec (fuel : ℕ) (d : Decimal) (positive : 0 < d.digits) (bound : d.digits ≤ 10 ^ fuel) :
    (d.trim fuel).value = d.value ∧ 0 < (d.trim fuel).digits ∧ (d.trim fuel).digits ≤ d.digits ∧
      (d.trim fuel).digits % 10 ≠ 0 ∧ d.exponent ≤ (d.trim fuel).exponent ∧
      (d.trim fuel).exponent ≤ d.exponent + fuel := by
  induction fuel generalizing d with
  | zero =>
    rw [trim]
    refine ⟨rfl, positive, le_rfl, ?_, le_rfl, by omega⟩
    rw [Nat.pow_zero] at bound
    omega
  | succ fuel ih =>
    rw [trim]
    split_ifs with zero
    · rw [Nat.pow_succ] at bound
      obtain ⟨value, pos, fewer, last, low, high⟩ := ih ⟨d.digits / 10, d.exponent + 1⟩
        (by dsimp only; omega) (by dsimp only; omega)
      dsimp only at fewer low high
      refine ⟨value.trans ?_, pos, by omega, last, by omega, by push_cast; omega⟩
      have digits : (d.digits : ℚ) = 10 * (d.digits / 10 : ℕ) := by
        exact_mod_cast (by omega : d.digits = 10 * (d.digits / 10))
      rw [Decimal.value, Decimal.value, digits, zpow_add_one₀ (by norm_num)]
      ring
    · exact ⟨rfl, positive, le_rfl, zero, le_rfl, by omega⟩

end Decimal

namespace Double

/-- **The shortest digits** of a double that is not zero are rounded to it. They are at most seventeen, and
the last one is not zero. -/
theorem shortest_spec {x : Double} (hm : 0 < x.mantissa) :
    x.Covers x.shortest.value ∧ 0 < x.shortest.digits ∧ x.shortest.digits < 10 ^ 17 ∧
      x.shortest.digits % 10 ≠ 0 ∧ -400 ≤ x.shortest.exponent ∧ x.shortest.exponent ≤ 400 := by
  obtain ⟨n, more, few, nearest, e⟩ := exists_hit hm
  obtain ⟨-, -, least, greatest⟩ := decimalExponent_spec hm
  have covers := (readsBack_iff hm _ _).1 (nearestOn_spec nearest).1
  have positive : 0 < n := by
    rw [Nat.pos_iff_ne_zero]
    rintro rfl
    have := covers.pos hm
    rw [Nat.cast_zero, zero_mul] at this
    exact lt_irrefl 0 this
  have bound : n ≤ 10 ^ 17 := (hit_le hm nearest).trans (Nat.pow_le_pow_right (by decide) (by omega))
  obtain ⟨value, pos, fewer, last, low, high⟩ := Decimal.trim_spec 17 ⟨n, x.decimalExponent - more⟩ positive bound
  rw [← e] at value pos fewer last low high
  dsimp only at fewer low high
  refine ⟨?_, pos, ?_, last, by omega, by omega⟩
  · rw [value]
    exact covers
  · omega

end Double

end TypeSketch
