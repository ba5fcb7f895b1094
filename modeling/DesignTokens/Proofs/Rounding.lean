import DesignTokens.Number.Binary64
import Mathlib.Algebra.Order.Field.Rat
import Mathlib.Data.Nat.Log
import Mathlib.Tactic.FieldSimp
import Mathlib.Tactic.Linarith

/-!
# Rounding to doubles

The reals that round to a finite double form an interval around it, which reaches half way to the
next double on each side. Rounding a fraction of that interval gives the double. The interval below a
power of two is the narrow one, and its fractions are rounded at the scale underneath.
-/

namespace DesignTokens.Binary64

theorem rank_eq (rank : Nat) : rank = scale rank * 2 ^ 52 + significand rank := by
  unfold scale significand
  simp only [Nat.pow_eq]
  split <;> omega

theorem significand_lt (rank : Nat) : significand rank < 2 ^ 53 := by
  unfold significand
  simp only [Nat.pow_eq]
  split <;> omega

theorem scale_eq_zero_or (rank : Nat) : scale rank = 0 ∨ 2 ^ 52 ≤ significand rank := by
  unfold scale significand
  simp only [Nat.pow_eq]
  split <;> omega

theorem significand_pos {rank : Nat} (pos : 0 < rank) : 0 < significand rank := by
  have := rank_eq rank
  have := scale_eq_zero_or rank
  omega

theorem scale_le {rank : Nat} (finite : rank < top) : scale rank ≤ 2045 := by
  unfold top at finite
  unfold scale
  simp only [Nat.pow_eq] at *
  omega

/-- A quotient is at most half away from a whole number, and less than that from an odd one. -/
structure RoundsTo (num den q : Nat) : Prop where
  low : 2 * (q * den) ≤ 2 * num + den
  high : 2 * num ≤ 2 * (q * den) + den
  inside : q % 2 = 1 → 2 * (q * den) < 2 * num + den ∧ 2 * num < 2 * (q * den) + den

theorem RoundsTo.roundDiv {num den q : Nat} (rounds : RoundsTo num den q) (pos : 0 < den) :
    roundDiv num den = q := by
  obtain ⟨low, high, inside⟩ := rounds
  have parts := Nat.div_add_mod' num den
  have small := Nat.mod_lt num pos
  unfold Binary64.roundDiv
  generalize num / den = floor at parts
  generalize num % den = r at parts small
  obtain rfl | rfl : q = floor ∨ q = floor + 1 := by
    by_contra far
    rcases (by omega : q + 1 ≤ floor ∨ floor + 2 ≤ q) with less | more
    · have := Nat.mul_le_mul_right den less
      rw [Nat.add_mul] at this
      omega
    · have := Nat.mul_le_mul_right den more
      rw [Nat.add_mul] at this
      omega
  · dsimp only
    split
    · rfl
    · split <;> omega
  · rw [Nat.add_mul] at *
    dsimp only
    split
    · omega
    · split <;> omega

/-- The least positive double is one over this number. -/
def resolution : Nat := Nat.pow 2 1074

theorem resolution_eq : resolution = Nat.pow 2 1074 := by
  delta resolution
  exact Eq.refl _

theorem resolution_pos : 0 < resolution := by
  unfold resolution
  apply Nat.pow_pos
  decide

/-- The scale of a fraction is told by the power of two that it reaches, unless it is the least
one. -/
theorem fittingScale_eq {num den s : Nat} (pos : 0 < den)
    (reached : s = 0 ∨ 2 ^ (52 + s) * den ≤ num * resolution)
    (below : num * resolution < 2 ^ (53 + s) * den) : fittingScale num den = s := by
  have defined : fittingScale num den = (num * resolution / den).log2 - 52 := by
    delta fittingScale resolution
    exact Eq.refl _
  rw [defined, Nat.log2_eq_log_two]
  generalize num * resolution = x at reached below
  have upper : Nat.log 2 (x / den) < 53 + s :=
    Nat.log_lt_of_lt_pow' (by omega) ((Nat.div_lt_iff_lt_mul pos).mpr below)
  rcases reached with rfl | reached
  · omega
  · have lower : 52 + s ≤ Nat.log 2 (x / den) :=
      Nat.le_log_of_pow_le (by decide) ((Nat.le_div_iff_mul_le pos).mpr reached)
    omega

/-- A fraction is rounded at its scale. -/
theorem nearestRank_eq {num den s q : Nat} (pos : 0 < den)
    (reached : s = 0 ∨ 2 ^ (52 + s) * den ≤ num * resolution)
    (below : num * resolution < 2 ^ (53 + s) * den)
    (rounds : RoundsTo (num * resolution) (den * 2 ^ s) q) (finite : s * 2 ^ 52 + q ≤ top) :
    nearestRank num den = s * 2 ^ 52 + q := by
  have rounded := rounds.roundDiv (Nat.mul_pos pos (Nat.two_pow_pos s))
  have defined : nearestRank num den = min top (fittingScale num den * 2 ^ 52 +
      Binary64.roundDiv (num * resolution) (den * 2 ^ fittingScale num den)) := by
    delta Binary64.nearestRank resolution
    exact Eq.refl _
  rw [defined, fittingScale_eq pos reached below, rounded, Nat.min_eq_right finite]

/-- How far the interval of a finite double goes down, in quarters of the distance to the next
double above: below a power of two the doubles are denser. -/
def reachDown (rank : Nat) : Nat := if significand rank = 2 ^ 52 ∧ 0 < scale rank then 1 else 2

theorem reachDown_cases (rank : Nat) :
    (reachDown rank = 1 ∧ significand rank = 2 ^ 52 ∧ 0 < scale rank) ∨
      (reachDown rank = 2 ∧ (scale rank = 0 ∨ 2 ^ 52 < significand rank)) := by
  have normal := scale_eq_zero_or rank
  unfold reachDown
  split <;> omega

/-- The distance from a finite double to the next one above. -/
def step (rank : Nat) : ℚ := 2 ^ scale rank / resolution

theorem step_pos (rank : Nat) : 0 < step rank :=
  div_pos (pow_pos (by norm_num) _) (Nat.cast_pos.mpr resolution_pos)

/-- A real lies in the interval of a finite double, whose ends belong to it if the significand is
even. -/
structure Near (rank : Nat) (x : ℚ) : Prop where
  low : 4 * significand rank * step rank ≤ 4 * x + reachDown rank * step rank
  high : 4 * x ≤ 4 * significand rank * step rank + 2 * step rank
  inside : significand rank % 2 = 1 →
    4 * significand rank * step rank < 4 * x + reachDown rank * step rank ∧
      4 * x < 4 * significand rank * step rank + 2 * step rank

theorem Near.of_inside {rank : Nat} {x : ℚ}
    (low : 4 * significand rank * step rank < 4 * x + reachDown rank * step rank)
    (high : 4 * x < 4 * significand rank * step rank + 2 * step rank) : Near rank x :=
  ⟨low.le, high.le, fun _ => ⟨low, high⟩⟩

/-- The interval of a positive double has positive numbers only. -/
theorem Near.pos {rank : Nat} {x : ℚ} (near : Near rank x) (pos : 0 < rank) : 0 < x := by
  have room := step_pos rank
  have one : (1 : ℚ) ≤ significand rank := Nat.one_le_cast.mpr (significand_pos pos)
  have reach : (reachDown rank : ℚ) ≤ 2 := by
    have := reachDown_cases rank
    exact_mod_cast (by omega : reachDown rank ≤ 2)
  have low := near.low
  have := mul_le_mul_of_nonneg_right one room.le
  have := mul_le_mul_of_nonneg_right reach room.le
  linarith

/-- The interval in whole numbers. -/
theorem near_iff {rank num den x unit : Nat} (pos : 0 < den) (hx : x = num * resolution)
    (hunit : unit = den * 2 ^ scale rank) :
    Near rank (num / den) ↔
      4 * significand rank * unit ≤ 4 * x + reachDown rank * unit ∧
        4 * x ≤ 4 * significand rank * unit + 2 * unit ∧
        (significand rank % 2 = 1 →
          4 * significand rank * unit < 4 * x + reachDown rank * unit ∧
            4 * x < 4 * significand rank * unit + 2 * unit) := by
  have den_pos : (0 : ℚ) < den := Nat.cast_pos.mpr pos
  have parts_pos : (0 : ℚ) < resolution := Nat.cast_pos.mpr resolution_pos
  have common_pos : (0 : ℚ) < den * resolution := mul_pos den_pos parts_pos
  have value : 4 * ((num : ℚ) / den) = (4 * x : ℕ) / (den * resolution) := by
    rw [hx]
    push_cast
    field_simp
  have ends (n : ℕ) : n * step rank = (n * unit : ℕ) / (den * resolution) := by
    rw [hunit, step]
    push_cast
    field_simp
  have four : (4 * significand rank : ℚ) = (4 * significand rank : ℕ) := by push_cast; rfl
  have two : (2 : ℚ) = (2 : ℕ) := rfl
  have shape : Near rank (num / den) ↔ _ := ⟨fun h => And.intro h.low (And.intro h.high h.inside),
    fun h => ⟨h.1, h.2.1, h.2.2⟩⟩
  rw [shape, four, two, value, ends, ends, ends, ← add_div, ← add_div, ← Nat.cast_add,
    ← Nat.cast_add, div_le_div_iff_of_pos_right common_pos, div_le_div_iff_of_pos_right common_pos,
    div_lt_div_iff_of_pos_right common_pos, div_lt_div_iff_of_pos_right common_pos, Nat.cast_le,
    Nat.cast_le, Nat.cast_lt, Nat.cast_lt]

theorem two_pow_add_mul (k s den : Nat) : 2 ^ (k + s) * den = 2 ^ k * (den * 2 ^ s) := by
  rw [pow_add, mul_assoc, mul_comm (2 ^ s) den]

/-- A fraction that rounds to the significand, counted in the steps of the rank, is rounded to the
double of that rank. -/
theorem nearestRank_of_roundsTo {rank num den : Nat} (pos : 0 < den) (finite : rank < top)
    (reached : scale rank = 0 ∨ 2 ^ 52 * (den * 2 ^ scale rank) ≤ num * resolution)
    (high : 4 * (num * resolution) ≤
      4 * (significand rank * (den * 2 ^ scale rank)) + 2 * (den * 2 ^ scale rank))
    (rounds : RoundsTo (num * resolution) (den * 2 ^ scale rank) (significand rank)) :
    nearestRank num den = rank := by
  have parts := rank_eq rank
  have unit_pos : 0 < den * 2 ^ scale rank := Nat.mul_pos pos (Nat.two_pow_pos _)
  have less := Nat.mul_le_mul_right (den * 2 ^ scale rank) (significand_lt rank)
  rw [Nat.succ_mul] at less
  conv_rhs => rw [parts]
  refine nearestRank_eq pos ?_ ?_ rounds (parts ▸ Nat.le_of_lt finite)
  · rwa [two_pow_add_mul]
  · rw [two_pow_add_mul]
    omega

/-- A fraction of the interval of a finite double is rounded to it. -/
theorem Near.nearestRank {rank num den : Nat} (near : Near rank (num / den)) (pos : 0 < den)
    (finite : rank < top) : nearestRank num den = rank := by
  obtain ⟨low, high, inside⟩ := (near_iff pos rfl rfl).mp near
  rw [Nat.mul_assoc] at low high inside
  rcases reachDown_cases rank with ⟨narrow, power_of_two, normal⟩ | ⟨wide, full⟩
  · by_cases above : 2 ^ 52 * (den * 2 ^ scale rank) ≤ num * resolution
    · refine nearestRank_of_roundsTo pos finite (Or.inr above) high ?_
      rw [power_of_two] at high ⊢
      exact ⟨by omega, by omega, fun odd => absurd odd (by decide)⟩
    · -- Below a power of two the steps are half as wide, and the double below is that much nearer.
      obtain ⟨s, hs⟩ : ∃ s, scale rank = s + 1 := ⟨scale rank - 1, by omega⟩
      have double : den * 2 ^ scale rank = 2 * (den * 2 ^ s) := by
        rw [hs, pow_succ, ← mul_assoc, mul_comm]
      have below_power : rank = s * 2 ^ 52 + 2 ^ 53 := by
        rw [rank_eq rank, power_of_two, hs, Nat.succ_mul]
        omega
      rw [narrow, power_of_two, double] at low
      rw [double] at above
      rw [below_power] at finite ⊢
      refine nearestRank_eq pos (Or.inr ?_) ?_ ⟨?_, ?_, fun odd => absurd odd (by decide)⟩
        (Nat.le_of_lt finite)
      · rw [two_pow_add_mul]
        omega
      · rw [two_pow_add_mul]
        omega
      · omega
      · omega
  · rw [wide] at low inside
    refine nearestRank_of_roundsTo pos finite (full.imp_right fun more => ?_) high
      ⟨by omega, by omega, fun odd => ?_⟩
    · have := Nat.mul_le_mul_right (den * 2 ^ scale rank) more
      rw [Nat.succ_mul] at this
      omega
    · have := inside odd
      omega

end DesignTokens.Binary64
