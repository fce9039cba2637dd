import GeoTables.Number.Shortest
import Mathlib.Tactic.Positivity
import Mathlib.Tactic.Ring
import Mathlib.Tactic.SplitIfs
import Mathlib.Tactic.Linarith

/-!
# Rounding to the nearest rank

A rank is given by a scale and a significand: the magnitude is the significand
times a power of two, and the next rank has the next multiple of that power.
Only the lowest rank of a scale has a closer neighbour below it.

A ratio that lies in the rounding interval of a rank is rounded to this rank.
The quotient of the ratio tells on which scale it is rounded; that is the scale
of the rank, or the one below if the ratio lies just below the first rank of a
scale.
-/

namespace GeoTables.Binary64

/-- Every rank has a scale and a significand. -/
theorem exists_significand (rank : Nat) :
    ∃ scale significand,
      rank = scale * 2 ^ 52 + significand ∧
        significand < 2 ^ 53 ∧ (scale = 0 ∨ 2 ^ 52 ≤ significand) := by
  by_cases small : rank < 2 ^ 53
  · exact ⟨0, rank, by omega, small, .inl rfl⟩
  · exact ⟨rank / 2 ^ 52 - 1, 2 ^ 52 + rank % 2 ^ 52, by omega, by omega, .inr (by omega)⟩

/-- The magnitude of a rank, up to the first rank of the next scale. -/
theorem unitsOfRank_significand
    {scale significand : Nat}
    (bounded : significand ≤ 2 ^ 53)
    (normal : scale = 0 ∨ 2 ^ 52 ≤ significand) :
    unitsOfRank (scale * 2 ^ 52 + significand) = significand * 2 ^ scale := by
  rcases Nat.eq_zero_or_pos scale with rfl | positive
  · rcases Nat.lt_or_eq_of_le bounded with below | rfl
    · rw [unitsOfRank, if_pos (by omega)]
      simp
    · rfl
  · have least : 2 ^ 52 ≤ significand := by omega
    rw [unitsOfRank, if_neg (by omega)]
    rcases Nat.lt_or_eq_of_le bounded with below | rfl
    · have quotient : (scale * 2 ^ 52 + significand) / 2 ^ 52 - 1 = scale := by omega
      have rest : 2 ^ 52 + (scale * 2 ^ 52 + significand) % 2 ^ 52 = significand := by omega
      rw [quotient, rest]
    · have quotient : (scale * 2 ^ 52 + 2 ^ 53) / 2 ^ 52 - 1 = scale + 1 := by omega
      have rest : (scale * 2 ^ 52 + 2 ^ 53) % 2 ^ 52 = 0 := by omega
      rw [quotient, rest, Nat.pow_succ 2 scale]
      ring

/-! ## Rounding a quotient -/

/-- The multiple of the grid nearest to a number, a tie going to the even one. -/
def nearestMultiple (number grid : Nat) : Nat :=
  let quotient := number / grid
  let remainder := number % grid
  if 2 * remainder > grid || (2 * remainder == grid && quotient % 2 == 1) then
    quotient + 1
  else
    quotient

/-- A number within half a grid step of a multiple is rounded to it, at exactly
half a step only if the multiple is even. -/
theorem nearestMultiple_eq
    {number grid multiple : Nat}
    (positive : 0 < grid)
    (low : 2 * (multiple * grid) ≤ 2 * number + grid)
    (high : 2 * number ≤ 2 * (multiple * grid) + grid)
    (even :
      multiple % 2 = 1 →
        2 * (multiple * grid) < 2 * number + grid ∧
          2 * number < 2 * (multiple * grid) + grid) :
    nearestMultiple number grid = multiple := by
  have split : grid * (number / grid) + number % grid = number := Nat.div_add_mod number grid
  have small : number % grid < grid := Nat.mod_lt _ positive
  unfold nearestMultiple
  generalize number / grid = quotient at *
  generalize number % grid = remainder at *
  have atMost : multiple ≤ quotient + 1 := by
    by_contra beyond
    have further : (quotient + 2) * grid ≤ multiple * grid :=
      Nat.mul_le_mul_right grid (by omega)
    have expanded : (quotient + 2) * grid = grid * quotient + 2 * grid := by ring
    omega
  have atLeast : quotient ≤ multiple := by
    by_contra beyond
    have further : (multiple + 1) * grid ≤ quotient * grid :=
      Nat.mul_le_mul_right grid (by omega)
    have expanded : (multiple + 1) * grid = multiple * grid + grid := by ring
    have turned : quotient * grid = grid * quotient := by ring
    omega
  rcases Nat.lt_or_eq_of_le atLeast with above | rfl
  · obtain rfl : multiple = quotient + 1 := by omega
    have expanded : (quotient + 1) * grid = grid * quotient + grid := by ring
    rw [expanded] at low high even
    simp only [gt_iff_lt, Bool.or_eq_true, decide_eq_true_eq, Bool.and_eq_true, beq_iff_eq,
      ite_eq_left_iff, not_or, not_and]
    omega
  · have turned : quotient * grid = grid * quotient := by ring
    rw [turned] at low high even
    simp only [gt_iff_lt, Bool.or_eq_true, decide_eq_true_eq, Bool.and_eq_true, beq_iff_eq,
      ite_eq_right_iff]
    omega

/-- A quotient is below a power of two if its numerator is below as many grid steps. -/
theorem div_lt_two_pow_iff
    {numerator denominator scale : Nat}
    (positive : 0 < denominator)
    (bits : Nat) :
    numerator / denominator < 2 ^ (bits + scale) ↔
      numerator < 2 ^ bits * (denominator * 2 ^ scale) := by
  have turned :
      2 ^ (bits + scale) * denominator = 2 ^ bits * (denominator * 2 ^ scale) := by
    rw [Nat.pow_add]
    ring
  rw [Nat.div_lt_iff_lt_mul positive, turned]

/-- The scale on which a quotient is rounded. -/
theorem log2_sub_eq
    {quotient scale : Nat}
    (below : quotient < 2 ^ (53 + scale))
    (above : scale = 0 ∨ 2 ^ (52 + scale) ≤ quotient) :
    Nat.log2 quotient - 52 = scale := by
  rcases Nat.eq_zero_or_pos quotient with rfl | positive
  · rcases above with rfl | impossible
    · rfl
    · have := Nat.two_pow_pos (52 + scale)
      omega
  · have upper : Nat.log2 quotient < 53 + scale :=
      (Nat.log2_lt (by omega)).mpr below
    rcases above with rfl | least
    · omega
    · have lower : 52 + scale ≤ Nat.log2 quotient :=
        (Nat.le_log2 (by omega)).mpr least
      omega

theorem rankNearest_eq
    {numerator denominator scale : Nat}
    (rounds : Nat.log2 (numerator / denominator) - 52 = scale) :
    rankNearest numerator denominator =
      scale * 2 ^ 52 + nearestMultiple numerator (denominator * 2 ^ scale) := by
  rw [rankNearest, rounds]
  rfl

/-! ## Rounding intervals -/

theorem Interval.le_of_holds
    {interval : Interval}
    {scale point : Nat}
    (inside : interval.holds scale point = true) :
    interval.low * scale ≤ point ∧ point ≤ interval.high * scale := by
  unfold holds at inside
  split_ifs at inside <;> simp only [Bool.and_eq_true, decide_eq_true_eq] at inside <;> omega

theorem Interval.lt_of_holds
    {interval : Interval}
    {scale point : Nat}
    (inside : interval.holds scale point = true)
    (isOpen : interval.closed = false) :
    interval.low * scale < point ∧ point < interval.high * scale := by
  simpa [holds, isOpen] using inside

/-- The ends of the rounding interval of a rank, in halves of a unit. -/
theorem intervalOfRank_significand
    {scale significand : Nat}
    (positive : 0 < significand)
    (bounded : significand < 2 ^ 53)
    (normal : scale = 0 ∨ 2 ^ 52 < significand) :
    intervalOfRank (scale * 2 ^ 52 + significand) =
      { low := (2 * significand - 1) * 2 ^ scale
        high := (2 * significand + 1) * 2 ^ scale
        closed := significand % 2 == 0 } := by
  have below : scale * 2 ^ 52 + significand - 1 = scale * 2 ^ 52 + (significand - 1) := by omega
  have above : scale * 2 ^ 52 + significand + 1 = scale * 2 ^ 52 + (significand + 1) := by omega
  have parity : (scale * 2 ^ 52 + significand) % 2 = significand % 2 := by omega
  rw [intervalOfRank, below, above, parity,
    unitsOfRank_significand (by omega) (by omega),
    unitsOfRank_significand (by omega) (by omega),
    unitsOfRank_significand (by omega) (by omega), ← Nat.add_mul, ← Nat.add_mul]
  congr 2 <;> omega

/-- The first rank of a scale lies closer to the rank below it. -/
theorem intervalOfRank_least
    (scale : Nat) :
    intervalOfRank ((scale + 1) * 2 ^ 52 + 2 ^ 52) =
      { low := (2 ^ 54 - 1) * 2 ^ scale
        high := (2 ^ 53 + 1) * 2 ^ (scale + 1)
        closed := true } := by
  have below :
      (scale + 1) * 2 ^ 52 + 2 ^ 52 - 1 = scale * 2 ^ 52 + (2 ^ 53 - 1) := by omega
  have above :
      (scale + 1) * 2 ^ 52 + 2 ^ 52 + 1 = (scale + 1) * 2 ^ 52 + (2 ^ 52 + 1) := by omega
  have parity : ((scale + 1) * 2 ^ 52 + 2 ^ 52) % 2 = 0 := by omega
  rw [intervalOfRank, below, above, parity,
    unitsOfRank_significand (by omega) (by omega),
    unitsOfRank_significand (by omega) (by omega),
    unitsOfRank_significand (by omega) (by omega), ← Nat.add_mul, Nat.pow_succ]
  congr 1
  omega

/-- A ratio within half a step of a rank is rounded to it on the scale of the rank. -/
theorem rankNearest_of_significand
    {scale significand numerator denominator : Nat}
    (positive : 0 < denominator)
    (bounded : significand < 2 ^ 53)
    (reached : scale = 0 ∨ 2 ^ (52 + scale) ≤ numerator / denominator)
    (low :
      2 * (significand * (denominator * 2 ^ scale)) ≤
        2 * numerator + denominator * 2 ^ scale)
    (high :
      2 * numerator ≤
        2 * (significand * (denominator * 2 ^ scale)) + denominator * 2 ^ scale)
    (even :
      significand % 2 = 1 →
        2 * (significand * (denominator * 2 ^ scale)) <
            2 * numerator + denominator * 2 ^ scale ∧
          2 * numerator <
            2 * (significand * (denominator * 2 ^ scale)) + denominator * 2 ^ scale) :
    rankNearest numerator denominator = scale * 2 ^ 52 + significand := by
  have step : 0 < denominator * 2 ^ scale := by positivity
  have room :
      (significand + 1) * (denominator * 2 ^ scale) ≤ 2 ^ 53 * (denominator * 2 ^ scale) :=
    Nat.mul_le_mul_right _ bounded
  have next :
      (significand + 1) * (denominator * 2 ^ scale) =
        significand * (denominator * 2 ^ scale) + denominator * 2 ^ scale := by
    ring
  have below : numerator / denominator < 2 ^ (53 + scale) :=
    (div_lt_two_pow_iff positive 53).mpr (by omega)
  rw [rankNearest_eq (log2_sub_eq below reached), nearestMultiple_eq step low high even]

/-- A ratio in the rounding interval of an inner rank of a scale is rounded to it. -/
theorem rankNearest_of_inner
    {scale significand numerator denominator : Nat}
    (positive : 0 < denominator)
    (nonzero : 0 < significand)
    (bounded : significand < 2 ^ 53)
    (normal : scale = 0 ∨ 2 ^ 52 < significand)
    (inside :
      (intervalOfRank (scale * 2 ^ 52 + significand)).holds denominator
        (2 * numerator) = true) :
    rankNearest numerator denominator = scale * 2 ^ 52 + significand := by
  rw [intervalOfRank_significand nonzero bounded normal] at inside
  obtain ⟨low, high⟩ := Interval.le_of_holds inside
  obtain ⟨before, rfl⟩ : ∃ before, significand = before + 1 := ⟨significand - 1, by omega⟩
  have lowEnd :
      (2 * (before + 1) - 1) * 2 ^ scale * denominator =
        2 * (before * (denominator * 2 ^ scale)) + denominator * 2 ^ scale := by
    rw [show 2 * (before + 1) - 1 = 2 * before + 1 by omega]
    ring
  have highEnd :
      (2 * (before + 1) + 1) * 2 ^ scale * denominator =
        2 * ((before + 1) * (denominator * 2 ^ scale)) + denominator * 2 ^ scale := by
    ring
  have next :
      (before + 1) * (denominator * 2 ^ scale) =
        before * (denominator * 2 ^ scale) + denominator * 2 ^ scale := by
    ring
  simp only [lowEnd, highEnd] at low high
  refine rankNearest_of_significand positive bounded ?_ (by omega) (by omega) ?_
  · rcases normal with rfl | inner
    · exact .inl rfl
    · right
      rw [← not_lt, div_lt_two_pow_iff positive]
      have least : 2 ^ 52 * (denominator * 2 ^ scale) ≤ before * (denominator * 2 ^ scale) :=
        Nat.mul_le_mul_right _ (by omega)
      omega
  · intro odd
    have isOpen : ((before + 1) % 2 == 0) = false := by simp [odd]
    obtain ⟨strictlyLow, strictlyHigh⟩ := Interval.lt_of_holds inside isOpen
    simp only [lowEnd, highEnd] at strictlyLow strictlyHigh
    omega

/-- A ratio just below a scale is rounded up to it: the steps there are half as
wide, and the tie goes to an even rank. -/
theorem rankNearest_below_scale
    {scale numerator denominator : Nat}
    (positive : 0 < denominator)
    (low : (2 ^ 54 - 1) * (denominator * 2 ^ scale) ≤ 2 * numerator)
    (below : numerator < 2 ^ 53 * (denominator * 2 ^ scale)) :
    rankNearest numerator denominator = scale * 2 ^ 52 + 2 ^ 53 := by
  have step : 0 < denominator * 2 ^ scale := by positivity
  have quotientBelow : numerator / denominator < 2 ^ (53 + scale) :=
    (div_lt_two_pow_iff positive 53).mpr below
  have quotientAbove : 2 ^ (52 + scale) ≤ numerator / denominator := by
    rw [← not_lt, div_lt_two_pow_iff positive]
    omega
  have upward : nearestMultiple numerator (denominator * 2 ^ scale) = 2 ^ 53 :=
    nearestMultiple_eq step (by omega) (by omega) (by omega)
  rw [rankNearest_eq (log2_sub_eq quotientBelow (.inr quotientAbove)), upward]

/-- A ratio in the rounding interval of the first rank of a scale is rounded to it. -/
theorem rankNearest_of_least
    {scale numerator denominator : Nat}
    (positive : 0 < denominator)
    (inside :
      (intervalOfRank ((scale + 1) * 2 ^ 52 + 2 ^ 52)).holds denominator
        (2 * numerator) = true) :
    rankNearest numerator denominator = (scale + 1) * 2 ^ 52 + 2 ^ 52 := by
  rw [intervalOfRank_least] at inside
  obtain ⟨low, high⟩ := Interval.le_of_holds inside
  have lowEnd :
      (2 ^ 54 - 1) * 2 ^ scale * denominator = (2 ^ 54 - 1) * (denominator * 2 ^ scale) := by
    ring
  have highEnd :
      (2 ^ 53 + 1) * 2 ^ (scale + 1) * denominator =
        2 * ((2 ^ 53 + 1) * (denominator * 2 ^ scale)) := by
    rw [Nat.pow_succ]
    ring
  have grid : denominator * 2 ^ (scale + 1) = 2 * (denominator * 2 ^ scale) := by
    rw [Nat.pow_succ]
    ring
  simp only [lowEnd, highEnd] at low high
  by_cases below : numerator < 2 ^ 53 * (denominator * 2 ^ scale)
  · rw [rankNearest_below_scale positive low below]
    ring
  · have reached : 2 ^ (52 + (scale + 1)) ≤ numerator / denominator := by
      rw [← not_lt, div_lt_two_pow_iff positive, grid]
      omega
    refine rankNearest_of_significand positive (by omega) (.inr reached) ?_ ?_ (by omega)
    all_goals
      rw [grid]
      omega

/-- Rounding takes every ratio in the rounding interval of a rank to that rank. -/
theorem rankNearest_of_holds
    {rank numerator denominator : Nat}
    (positive : 0 < denominator)
    (nonzero : 0 < rank)
    (inside : (intervalOfRank rank).holds denominator (2 * numerator) = true) :
    rankNearest numerator denominator = rank := by
  obtain ⟨scale, significand, rfl, bounded, normal⟩ := exists_significand rank
  by_cases inner : scale = 0 ∨ 2 ^ 52 < significand
  · exact rankNearest_of_inner positive (by omega) bounded inner inside
  · obtain rfl : significand = 2 ^ 52 := by omega
    obtain ⟨before, rfl⟩ : ∃ before, scale = before + 1 := ⟨scale - 1, by omega⟩
    exact rankNearest_of_least positive inside

end GeoTables.Binary64
