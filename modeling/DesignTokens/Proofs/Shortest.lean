import DesignTokens.Number.Shortest
import DesignTokens.Proofs.Rounding
import Mathlib.Algebra.Order.Field.Power
import Mathlib.Tactic.Ring

/-!
# The shortest decimal of a double

The decimal that is found for a finite double lies in the interval of the double, so it is rounded
back to it. With seventeen digits there always is one: the grid is then finer than the interval.
-/

namespace DesignTokens.Shortest

open Binary64

/-- The value of a decimal. -/
def Decimal.toRat (d : Decimal) : ℚ := d.digits * 10 ^ d.exponent

theorem ten_zpow_pos (e : ℤ) : (0 : ℚ) < 10 ^ e := zpow_pos (by norm_num) e

theorem ten_zpow_eq (e : ℤ) : (10 : ℚ) ^ e = 10 ^ e.toNat / 10 ^ (-e).toNat := by
  rcases Int.le_total 0 e with nonneg | nonpos
  · obtain ⟨n, rfl⟩ := Int.eq_ofNat_of_zero_le nonneg
    simp
  · obtain ⟨n, hn⟩ := Int.eq_ofNat_of_zero_le (Int.neg_nonneg_of_nonpos nonpos)
    obtain rfl : e = -n := by omega
    simp

/-- Powers compare as far as two known ones do. -/
theorem pow_le_pow_of_known {a b p q n m : Nat} (known : a ^ p ≤ b ^ q) (exponents : q * n ≤ p * m)
    (hp : p ≠ 0) (hb : 0 < b) : a ^ n ≤ b ^ m := by
  refine (Nat.pow_le_pow_iff_left hp).mp ?_
  calc (a ^ n) ^ p = (a ^ p) ^ n := pow_right_comm a n p
    _ ≤ (b ^ q) ^ n := Nat.pow_le_pow_left known n
    _ = b ^ (q * n) := (pow_mul b q n).symm
    _ ≤ b ^ (p * m) := Nat.pow_le_pow_right hb exponents
    _ = (b ^ m) ^ p := by rw [mul_comm p m, pow_mul]

/-- A power of two is at most a power of ten if its exponent times the logarithm of two leaves one to
spare. The logarithm is the one that magnitudes are estimated with. -/
theorem two_zpow_le_ten_zpow {k e : ℤ} (spare : 30103 * k + 100000 ≤ 100000 * e)
    (small : k.natAbs ≤ 100000) : (2 : ℚ) ^ k ≤ 10 ^ e := by
  have above : 2 ^ 100000 ≤ 10 ^ 30103 := by decide +kernel
  have below : 10 ^ 30103 ≤ 2 ^ 100001 := by decide +kernel
  rcases Int.le_total 0 e with nonneg | nonpos
  · obtain ⟨m, rfl⟩ := Int.eq_ofNat_of_zero_le nonneg
    rcases Int.le_total 0 k with growing | shrinking
    · obtain ⟨n, rfl⟩ := Int.eq_ofNat_of_zero_le growing
      have powers : 2 ^ n ≤ 10 ^ m :=
        pow_le_pow_of_known above (by omega) (by decide) (by decide)
      exact_mod_cast powers
    · calc (2 : ℚ) ^ k ≤ 1 := zpow_le_one_of_nonpos₀ (by norm_num) shrinking
        _ ≤ 10 ^ (m : ℤ) := one_le_zpow₀ (by norm_num) nonneg
  · obtain ⟨m, hm⟩ := Int.eq_ofNat_of_zero_le (Int.neg_nonneg_of_nonpos nonpos)
    obtain ⟨n, hn⟩ := Int.eq_ofNat_of_zero_le (by omega : 0 ≤ -k)
    obtain rfl : e = -m := by omega
    obtain rfl : k = -n := by omega
    have powers : 10 ^ m ≤ 2 ^ n :=
      pow_le_pow_of_known below (by omega) (by decide) (by decide)
    rw [zpow_neg, zpow_neg]
    refine inv_anti₀ (ten_zpow_pos m) ?_
    exact_mod_cast powers

theorem ten_zpow_le_two_zpow {k e : ℤ} (spare : 100000 * e + 100000 ≤ 30103 * k)
    (small : k.natAbs ≤ 100000) : (10 : ℚ) ^ e ≤ 2 ^ k := by
  have inverse : (2 : ℚ) ^ (-k) ≤ 10 ^ (-e) := two_zpow_le_ten_zpow (by omega) (by omega)
  rw [zpow_neg, zpow_neg] at inverse
  exact (inv_le_inv₀ (zpow_pos (by norm_num) k) (ten_zpow_pos e)).mp inverse

/-- What both sides of a comparison with a decimal are multiplied by. -/
def common (exponent : ℤ) (den : Nat) : ℚ := den * 10 ^ (-exponent).toNat

theorem common_pos (exponent : ℤ) {den : Nat} (pos : 0 < den) : 0 < common exponent den :=
  mul_pos (Nat.cast_pos.mpr pos) (pow_pos (by norm_num) _)

theorem scaled_fst (digits : Nat) (exponent : ℤ) (num den : Nat) :
    ((scaled digits exponent num den).1 : ℚ) = digits * 10 ^ exponent * common exponent den := by
  unfold scaled common
  rw [ten_zpow_eq]
  split
  · have flat : (-exponent).toNat = 0 := by omega
    rw [flat]
    push_cast [Nat.pow_eq]
    ring
  · have flat : exponent.toNat = 0 := by omega
    rw [flat]
    push_cast
    field_simp

theorem scaled_snd (digits : Nat) (exponent : ℤ) (num : Nat) {den : Nat} (pos : 0 < den) :
    ((scaled digits exponent num den).2 : ℚ) = num / den * common exponent den := by
  have den_pos : (0 : ℚ) < den := Nat.cast_pos.mpr pos
  unfold scaled common
  split
  · have flat : (-exponent).toNat = 0 := by omega
    rw [flat]
    field_simp
  · push_cast [Nat.pow_eq]
    field_simp

theorem scaled_lt_iff (digits : Nat) (exponent : ℤ) (num : Nat) {den : Nat} (pos : 0 < den) :
    (scaled digits exponent num den).1 < (scaled digits exponent num den).2 ↔
      (digits * 10 ^ exponent : ℚ) < num / den := by
  rw [← Nat.cast_lt (α := ℚ), scaled_fst, scaled_snd _ _ _ pos,
    mul_lt_mul_iff_of_pos_right (common_pos exponent pos)]

theorem lt_scaled_iff (digits : Nat) (exponent : ℤ) (num : Nat) {den : Nat} (pos : 0 < den) :
    (scaled digits exponent num den).2 < (scaled digits exponent num den).1 ↔
      (num / den : ℚ) < digits * 10 ^ exponent := by
  rw [← Nat.cast_lt (α := ℚ), scaled_fst, scaled_snd _ _ _ pos,
    mul_lt_mul_iff_of_pos_right (common_pos exponent pos)]

theorem scaled_eq_iff (digits : Nat) (exponent : ℤ) (num : Nat) {den : Nat} (pos : 0 < den) :
    (scaled digits exponent num den).1 = (scaled digits exponent num den).2 ↔
      (digits * 10 ^ exponent : ℚ) = num / den := by
  rw [← Nat.cast_inj (R := ℚ), scaled_fst, scaled_snd _ _ _ pos,
    mul_left_inj' (common_pos exponent pos).ne']

/-- A quarter of a step, in whole numbers. -/
theorem quarter_step (scale : Nat) {k parts : Nat} (hparts : parts = Nat.pow 2 k) :
    ((if k + 2 ≤ scale then Nat.pow 2 (scale - (k + 2)) else 1 : Nat) : ℚ) /
      (if k + 2 ≤ scale then 1 else Nat.pow 2 (k + 2 - scale) : Nat) =
        2 ^ scale / parts / 4 := by
  rw [hparts]
  simp only [Nat.pow_eq]
  split
  · rename_i large
    obtain ⟨j, rfl⟩ := Nat.exists_eq_add_of_le large
    rw [Nat.add_sub_cancel_left, pow_add, pow_add]
    push_cast
    field_simp
    norm_num
  · rename_i small
    obtain ⟨j, hj⟩ := Nat.exists_eq_add_of_le (Nat.le_of_not_le small)
    rw [hj, Nat.add_sub_cancel_left]
    have parts : (2 : ℚ) ^ k * 4 = 2 ^ scale * 2 ^ j := by
      rw [← pow_add, ← hj, pow_add]
      norm_num
    push_cast
    rw [div_div, parts]
    field_simp

/-- The interval of a rank is given by whole numbers, four to a step, on a scale of its own. -/
theorem interval_eq {rank : Nat} (finite : rank < top) :
    ∃ unit den : Nat, 0 < den ∧ den.log2 ≤ 1076 ∧ 0 < unit ∧ unit.log2 ≤ 1000 ∧
      (unit / den : ℚ) = step rank / 4 ∧
      interval rank = ⟨(4 * significand rank - reachDown rank) * unit, 4 * significand rank * unit,
        (4 * significand rank + 2) * unit, den, decide (significand rank % 2 = 0)⟩ := by
  have fits := scale_le finite
  have log_pow (n : Nat) : (Nat.pow 2 n).log2 = n := Nat.log2_two_pow
  refine ⟨if 1076 ≤ scale rank then Nat.pow 2 (scale rank - 1076) else 1,
    if 1076 ≤ scale rank then 1 else Nat.pow 2 (1076 - scale rank), ?_, ?_, ?_, ?_, ?_, rfl⟩
  · split
    · decide
    · exact Nat.two_pow_pos _
  · split
    · decide
    · rw [log_pow]
      omega
  · split
    · exact Nat.two_pow_pos _
    · decide
  · split
    · rw [log_pow]
      omega
    · decide
  · exact quarter_step (scale rank) resolution_eq

/-- What an interval accepts, in rational numbers. -/
theorem Interval.holds_iff (i : Interval) (pos : 0 < i.den) (d : Decimal) :
    i.holds d = true ↔
      ((i.low / i.den : ℚ) < d.toRat ∧ d.toRat < i.high / i.den) ∨
        (i.closed = true ∧ (d.toRat = i.low / i.den ∨ d.toRat = i.high / i.den)) := by
  have same : (scaled d.digits d.exponent i.low i.den).1 =
      (scaled d.digits d.exponent i.high i.den).1 := by
    unfold scaled
    split <;> rfl
  have value : d.toRat = d.digits * 10 ^ d.exponent := rfl
  have unfolded : i.holds d =
      (((scaled d.digits d.exponent i.low i.den).2 < (scaled d.digits d.exponent i.low i.den).1 &&
        (scaled d.digits d.exponent i.high i.den).1 < (scaled d.digits d.exponent i.high i.den).2) ||
      (i.closed &&
        ((scaled d.digits d.exponent i.low i.den).1 = (scaled d.digits d.exponent i.low i.den).2 ||
          (scaled d.digits d.exponent i.high i.den).1 =
            (scaled d.digits d.exponent i.high i.den).2))) := by
    rw [holds, ← same]
  rw [unfolded, value]
  simp only [Bool.or_eq_true, Bool.and_eq_true, decide_eq_true_eq, lt_scaled_iff _ _ _ pos,
    scaled_lt_iff _ _ _ pos, scaled_eq_iff _ _ _ pos]

/-- A decimal is accepted for a rank exactly if it lies in the interval of the double. -/
theorem holds_iff {rank : Nat} (pos : 0 < rank) (finite : rank < top) (d : Decimal) :
    (interval rank).holds d = true ↔ Near rank d.toRat := by
  obtain ⟨unit, den, den_pos, -, -, -, quarter, read⟩ := interval_eq finite
  have positive := significand_pos pos
  have reach := reachDown_cases rank
  have room := step_pos rank
  have ends (n : ℕ) : ((n * unit : ℕ) / den : ℚ) = n * step rank / 4 := by
    push_cast
    rw [mul_div_assoc, quarter]
    ring
  have low : ((4 * significand rank - reachDown rank : ℕ) : ℚ) * step rank =
      4 * significand rank * step rank - reachDown rank * step rank := by
    rw [Nat.cast_sub (by omega), sub_mul]
    push_cast
    rfl
  have high : ((4 * significand rank + 2 : ℕ) : ℚ) * step rank =
      4 * significand rank * step rank + 2 * step rank := by
    push_cast
    ring
  have wide : 0 < (reachDown rank : ℚ) * step rank :=
    mul_pos (Nat.cast_pos.mpr (by omega)) room
  rw [read, Interval.holds_iff _ den_pos]
  simp only [ends, low, high, decide_eq_true_eq]
  generalize d.toRat = x
  constructor
  · rintro (⟨above, below⟩ | ⟨even, at_end⟩)
    · exact ⟨by linarith, by linarith, fun _ => ⟨by linarith, by linarith⟩⟩
    · refine ⟨?_, ?_, fun odd => by omega⟩
      · rcases at_end with rfl | rfl <;> linarith
      · rcases at_end with rfl | rfl <;> linarith
  · rintro ⟨above, below, inside⟩
    rcases Nat.mod_two_eq_zero_or_one (significand rank) with even | odd
    · rcases above.lt_or_eq with above | above
      · rcases below.lt_or_eq with below | below
        · exact Or.inl ⟨by linarith, by linarith⟩
        · exact Or.inr ⟨even, Or.inr (by linarith)⟩
      · exact Or.inr ⟨even, Or.inl (by linarith)⟩
    · obtain ⟨above, below⟩ := inside odd
      exact Or.inl ⟨by linarith, by linarith⟩

/-- The search stops at the first power of ten above the number, if it starts at most one below and
gets far enough. -/
theorem magnitudeFrom_spec {num den : Nat} (pos : 0 < den) (fuel : Nat) (p : ℤ)
    (above : (10 : ℚ) ^ (p - 1) ≤ num / den) (below : (num / den : ℚ) < 10 ^ (p + fuel)) :
    (10 : ℚ) ^ (magnitudeFrom num den fuel p - 1) ≤ num / den ∧
      (num / den : ℚ) < 10 ^ magnitudeFrom num den fuel p ∧
      p ≤ magnitudeFrom num den fuel p ∧ magnitudeFrom num den fuel p ≤ p + fuel := by
  induction fuel generalizing p with
  | zero =>
    rw [magnitudeFrom]
    exact ⟨above, by simpa using below, by simp, by simp⟩
  | succ fuel ih =>
    rw [magnitudeFrom]
    dsimp only
    split
    · rename_i found
      rw [lt_scaled_iff _ _ _ pos, Nat.cast_one, one_mul] at found
      exact ⟨above, found, by omega, by omega⟩
    · rename_i higher
      rw [lt_scaled_iff _ _ _ pos, Nat.cast_one, one_mul, not_lt] at higher
      obtain ⟨above', below', from_next, to_end⟩ := ih (p + 1) (by simpa using higher) (by
        rw [add_assoc, add_comm 1]
        exact_mod_cast below)
      exact ⟨above', below', by omega, by push_cast; omega⟩

/-- A fraction lies between the powers of two that the lengths of its parts tell. -/
theorem between_powers {num den : Nat} (num_pos : 0 < num) (den_pos : 0 < den) :
    (2 : ℚ) ^ ((num.log2 : ℤ) - den.log2 - 1) ≤ num / den ∧
      (num / den : ℚ) < 2 ^ ((num.log2 : ℤ) - den.log2 + 1) := by
  have positive : (0 : ℚ) < den := Nat.cast_pos.mpr den_pos
  have two_ne : (2 : ℚ) ≠ 0 := by norm_num
  have num_low : (2 : ℚ) ^ (num.log2 : ℤ) ≤ num := by
    exact_mod_cast Nat.log2_self_le num_pos.ne'
  have num_high : (num : ℚ) < 2 ^ ((num.log2 : ℤ) + 1) := by
    exact_mod_cast Nat.lt_log2_self
  have den_low : (2 : ℚ) ^ (den.log2 : ℤ) ≤ den := by
    exact_mod_cast Nat.log2_self_le den_pos.ne'
  have den_high : (den : ℚ) < 2 ^ ((den.log2 : ℤ) + 1) := by
    exact_mod_cast Nat.lt_log2_self
  constructor
  · rw [le_div_iff₀ positive]
    calc (2 : ℚ) ^ ((num.log2 : ℤ) - den.log2 - 1) * den
        ≤ 2 ^ ((num.log2 : ℤ) - den.log2 - 1) * 2 ^ ((den.log2 : ℤ) + 1) :=
          mul_le_mul_of_nonneg_left den_high.le (zpow_pos (by norm_num) _).le
      _ = 2 ^ (num.log2 : ℤ) := by
          rw [← zpow_add₀ two_ne]
          congr 1
          ring
      _ ≤ num := num_low
  · rw [div_lt_iff₀ positive]
    calc (num : ℚ) < 2 ^ ((num.log2 : ℤ) + 1) := num_high
      _ = 2 ^ ((num.log2 : ℤ) - den.log2 + 1) * 2 ^ (den.log2 : ℤ) := by
          rw [← zpow_add₀ two_ne]
          congr 1
          ring
      _ ≤ 2 ^ ((num.log2 : ℤ) - den.log2 + 1) * den :=
          mul_le_mul_of_nonneg_left den_low (zpow_pos (by norm_num) _).le

/-- The magnitude of a fraction that is not too large and not too small. -/
theorem magnitude_spec {num den : Nat} (num_pos : 0 < num) (den_pos : 0 < den)
    (num_short : num.log2 ≤ 1100) (den_short : den.log2 ≤ 1100) :
    (10 : ℚ) ^ (magnitude num den - 1) ≤ num / den ∧ (num / den : ℚ) < 10 ^ magnitude num den ∧
      -340 ≤ magnitude num den ∧ magnitude num den ≤ 340 := by
  obtain ⟨above, below⟩ := between_powers num_pos den_pos
  have estimate := Int.fdiv_eq_ediv_of_nonneg (((num.log2 : ℤ) - den.log2) * 30103)
    (by decide : (0 : ℤ) ≤ 100000)
  obtain ⟨low, high, started, ended⟩ := @magnitudeFrom_spec num den den_pos 8
    ((((num.log2 : ℤ) - den.log2) * 30103).fdiv 100000 - 2)
    ((ten_zpow_le_two_zpow (by omega) (by omega)).trans above)
    (below.trans_le (two_zpow_le_ten_zpow (by push_cast; omega) (by omega)))
  refine ⟨low, high, ?_, ?_⟩
  · rw [magnitude]
    omega
  · rw [magnitude]
    push_cast at ended
    omega

/-- The value of an interval lies between its neighbours on a grid. -/
theorem neighbours_spec (i : Interval) (exponent : ℤ) (pos : 0 < i.den) :
    ∃ t : Nat, neighbours i exponent = (⟨t, exponent⟩, ⟨t + 1, exponent⟩) ∧
      (t * 10 ^ exponent : ℚ) ≤ i.value / i.den ∧
      (i.value / i.den : ℚ) < (t + 1) * 10 ^ exponent := by
  have one := scaled_fst 1 exponent i.value i.den
  have value := scaled_snd 1 exponent i.value pos
  have scale_pos := common_pos exponent pos
  rw [Nat.cast_one, one_mul] at one
  have one_pos : 0 < (scaled 1 exponent i.value i.den).1 := by
    rw [← Nat.cast_pos (α := ℚ), one]
    exact mul_pos (ten_zpow_pos exponent) scale_pos
  refine ⟨(scaled 1 exponent i.value i.den).2 / (scaled 1 exponent i.value i.den).1, rfl, ?_, ?_⟩
  · have := Nat.div_mul_le_self (scaled 1 exponent i.value i.den).2
      (scaled 1 exponent i.value i.den).1
    rw [← Nat.cast_le (α := ℚ), Nat.cast_mul, one, value, ← mul_assoc] at this
    exact le_of_mul_le_mul_right this scale_pos
  · have := Nat.lt_mul_div_succ (scaled 1 exponent i.value i.den).2 one_pos
    rw [mul_comm, ← Nat.cast_lt (α := ℚ), Nat.cast_mul, one, value, ← mul_assoc, Nat.cast_succ]
      at this
    exact lt_of_mul_lt_mul_right this scale_pos.le

/-- What is found on a grid is a neighbour of the value and in the interval. -/
theorem onGrid_eq_some {i : Interval} {exponent : ℤ} {d : Decimal}
    (found : onGrid i exponent = some d) :
    i.holds d = true ∧ (d = (neighbours i exponent).1 ∨ d = (neighbours i exponent).2) := by
  unfold onGrid at found
  dsimp only at found
  split at found
  · rename_i lower upper
    split at found
    · cases found
      exact ⟨lower, Or.inl rfl⟩
    · split at found
      · cases found
        exact ⟨upper, Or.inr rfl⟩
      · split at found
        · cases found
          exact ⟨lower, Or.inl rfl⟩
        · cases found
          exact ⟨upper, Or.inr rfl⟩
  · rename_i lower _
    cases found
    exact ⟨lower, Or.inl rfl⟩
  · rename_i _ upper
    cases found
    exact ⟨upper, Or.inr rfl⟩
  · cases found

theorem onGrid_eq_none {i : Interval} {exponent : ℤ} (missed : onGrid i exponent = none) :
    i.holds (neighbours i exponent).1 = false ∧ i.holds (neighbours i exponent).2 = false := by
  unfold onGrid at missed
  dsimp only at missed
  split at missed
  · split at missed
    · cases missed
    · split at missed
      · cases missed
      · split at missed <;> cases missed
  · cases missed
  · cases missed
  · rename_i lower upper
    exact ⟨lower, upper⟩

/-- The value of an interval, as it stands there. -/
theorem interval_value {rank : Nat} (pos : 0 < rank) (finite : rank < top) :
    0 < (interval rank).den ∧ 0 < (interval rank).value ∧
      ((interval rank).value / (interval rank).den : ℚ) = significand rank * step rank ∧
      (interval rank).value.log2 ≤ 1100 ∧ (interval rank).den.log2 ≤ 1100 := by
  obtain ⟨unit, den, den_pos, den_short, unit_pos, unit_short, quarter, read⟩ := interval_eq finite
  have positive := significand_pos pos
  have value_pos : 0 < 4 * significand rank * unit := by positivity
  rw [read]
  dsimp only
  refine ⟨den_pos, value_pos, ?_, ?_, by omega⟩
  · push_cast
    rw [mul_div_assoc, quarter]
    ring
  · have digits_lt : 4 * significand rank < 2 ^ 55 := by
      have := significand_lt rank
      omega
    have value_lt : 4 * significand rank * unit < 2 ^ (55 + (unit.log2 + 1)) := by
      rw [pow_add]
      exact Nat.mul_lt_mul'' digits_lt Nat.lt_log2_self
    have := (Nat.log2_lt value_pos.ne').mpr value_lt
    omega

/-- A grid whose distance is not more than the value by `10 ^ 16` has a neighbour of the value in the
interval: if neither were in it, the distance would be at least the width of the interval. -/
theorem onGrid_isSome {rank : Nat} (pos : 0 < rank) (finite : rank < top) {exponent : ℤ}
    (fine : (10 : ℚ) ^ 16 * 10 ^ exponent ≤ significand rank * step rank) :
    (onGrid (interval rank) exponent).isSome := by
  by_contra missed
  rw [Option.not_isSome_iff_eq_none] at missed
  obtain ⟨below, above⟩ := onGrid_eq_none missed
  obtain ⟨den_pos, -, value, -⟩ := interval_value pos finite
  obtain ⟨t, ht, lower, upper⟩ := neighbours_spec (interval rank) exponent den_pos
  rw [← Bool.not_eq_true, ht, holds_iff pos finite, Decimal.toRat] at below above
  rw [value] at lower upper
  push_cast at below above
  have room := step_pos rank
  have low : 4 * (t * 10 ^ exponent : ℚ) + reachDown rank * step rank ≤
      4 * (significand rank * step rank) := by
    by_contra near
    exact below (.of_inside (by linarith) (by linarith))
  have high : 4 * (significand rank * step rank) + 2 * step rank ≤
      4 * ((t + 1) * 10 ^ exponent : ℚ) := by
    by_contra near
    have reach : (0 : ℚ) ≤ reachDown rank * step rank := by positivity
    exact above (.of_inside (by linarith) (by linarith))
  rw [add_mul, one_mul] at high
  rcases reachDown_cases rank with ⟨narrow, power, -⟩ | ⟨wide, -⟩
  · rw [narrow] at low
    rw [power] at low high fine
    push_cast at low high fine
    linarith
  · have bound : (significand rank : ℚ) ≤ 2 ^ 53 := by exact_mod_cast (significand_lt rank).le
    have := mul_le_mul_of_nonneg_right bound room.le
    rw [wide] at low
    push_cast at low
    linarith

/-- Dropping zeros at the end keeps the value. -/
theorem trim_spec (fuel : Nat) (d : Decimal) :
    (d.trim fuel).toRat = d.toRat ∧ (d.trim fuel).digits ≤ d.digits ∧
      d.exponent ≤ (d.trim fuel).exponent ∧ (d.trim fuel).exponent ≤ d.exponent + fuel := by
  induction fuel generalizing d with
  | zero =>
    rw [Decimal.trim]
    exact ⟨rfl, le_rfl, le_rfl, by simp⟩
  | succ fuel ih =>
    rw [Decimal.trim]
    split
    · rename_i zero_last
      obtain ⟨same, fewer, from_next, to_end⟩ := ih ⟨d.digits / 10, d.exponent + 1⟩
      have last : d.digits = d.digits / 10 * 10 := by omega
      refine ⟨same.trans ?_, ?_, ?_, ?_⟩
      · rw [Decimal.toRat, Decimal.toRat, last, zpow_add_one₀ (by norm_num)]
        simp
        ring
      · dsimp only at fewer
        omega
      · dsimp only at from_next
        omega
      · dsimp only at to_end
        push_cast
        omega
    · exact ⟨rfl, le_rfl, le_rfl, by push_cast; omega⟩

theorem lt_ten_pow {t k : Nat} {e p : ℤ} (below : (t * 10 ^ e : ℚ) < 10 ^ p) (near : p ≤ e + k) :
    t < 10 ^ k := by
  have bound : (10 : ℚ) ^ p ≤ 10 ^ k * 10 ^ e := by
    rw [← zpow_natCast, ← zpow_add₀ (by norm_num)]
    exact zpow_le_zpow_right₀ (by norm_num) (by omega)
  have := lt_of_mul_lt_mul_right (below.trans_le bound) (ten_zpow_pos e).le
  exact_mod_cast this

/-- One of the grids that are tried has a decimal of the interval. -/
theorem found_on_grid {rank : Nat} (pos : 0 < rank) (finite : rank < top) {p : ℤ}
    (reached : (10 : ℚ) ^ (p - 1) ≤ significand rank * step rank) :
    ∃ d, (List.range 17).findSome? (fun (n : Nat) => onGrid (interval rank) (p - 1 - (n : Int))) =
      some d := by
  rw [← Option.isSome_iff_exists]
  by_contra missed
  rw [Option.not_isSome_iff_eq_none, List.findSome?_eq_none_iff] at missed
  have last := missed 16 (by decide)
  have fine : (10 : ℚ) ^ 16 * 10 ^ (p - 1 - (16 : ℕ)) ≤ significand rank * step rank := by
    rw [← zpow_natCast, ← zpow_add₀ (by norm_num)]
    convert reached using 2
    push_cast
    ring
  have some_last := onGrid_isSome pos finite fine
  rw [last] at some_last
  cases some_last

/-- The shortest decimal of a double lies in its interval, and its parts are not too large. -/
theorem shortest_spec {rank : Nat} (pos : 0 < rank) (finite : rank < top) :
    Near rank (shortest rank).toRat ∧ (shortest rank).digits ≤ 10 ^ 17 ∧
      -360 ≤ (shortest rank).exponent ∧ (shortest rank).exponent ≤ 360 := by
  obtain ⟨den_pos, value_pos, value, value_short, den_short⟩ := interval_value pos finite
  obtain ⟨reached, below, least, most⟩ := magnitude_spec value_pos den_pos value_short den_short
  rw [value] at reached below
  obtain ⟨d, hd⟩ := found_on_grid pos finite reached
  have trimmed : shortest rank = d.trim 20 := by
    rw [shortest, hd]
    rfl
  obtain ⟨n, hn, on_grid⟩ := List.exists_of_findSome?_eq_some hd
  obtain ⟨held, neighbour⟩ := onGrid_eq_some on_grid
  obtain ⟨t, ht, lower, -⟩ := neighbours_spec (interval rank) _ den_pos
  rw [value] at lower
  rw [List.mem_range] at hn
  obtain ⟨same, fewer, from_next, to_end⟩ := trim_spec 20 d
  have exponent : d.exponent = magnitude (interval rank).value (interval rank).den - 1 - n := by
    rw [ht] at neighbour
    rcases neighbour with rfl | rfl <;> rfl
  have few : t < 10 ^ 17 := lt_ten_pow (lower.trans_lt below) (by omega)
  have digits : d.digits ≤ t + 1 := by
    rw [ht] at neighbour
    rcases neighbour with rfl | rfl <;> simp
  rw [trimmed, same]
  exact ⟨(holds_iff pos finite d).mp held, by omega, by omega, by push_cast at to_end; omega⟩

/-- A decimal that lies in the interval of a double is read as that double, unless it is written with
too many digits or too far from the point. -/
theorem ofDecimal_of_near {negative : Bool} {rank digits : Nat} {exponent : ℤ} (pos : 0 < rank)
    (finite : rank < top) (near : Near rank (digits * 10 ^ exponent)) (few : digits < 2 ^ 130)
    (least : -400 ≤ exponent) (most : exponent ≤ 360) :
    ofDecimal negative digits exponent = .signed negative ⟨rank, Nat.lt_succ_of_lt finite⟩ := by
  have digits_ne : digits ≠ 0 := by
    rintro rfl
    simpa using near.pos pos
  have length : (Nat.log2 digits : ℤ) * 30103 / 100000 ≤ 40 := by
    have := (Nat.log2_lt digits_ne).mpr few
    omega
  have ofRatio_eq {num den : Nat} (den_pos : 0 < den)
      (value : (num / den : ℚ) = digits * 10 ^ exponent) :
      ofRatio negative num den = .signed negative ⟨rank, Nat.lt_succ_of_lt finite⟩ := by
    rw [← value] at near
    rw [ofRatio]
    congr
    exact near.nearestRank den_pos finite
  rw [ofDecimal, if_neg digits_ne, if_neg (by omega), if_neg (by omega)]
  rw [ten_zpow_eq] at ofRatio_eq
  split
  · have flat : (-exponent).toNat = 0 := by omega
    refine ofRatio_eq Nat.one_pos ?_
    rw [flat]
    push_cast [Nat.pow_eq]
    ring
  · have flat : exponent.toNat = 0 := by omega
    refine ofRatio_eq (Nat.pow_pos (by decide)) ?_
    rw [flat]
    push_cast [Nat.pow_eq]
    ring

end DesignTokens.Shortest
