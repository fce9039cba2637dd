import GeoTables.Proofs.Number.Nearest
import Mathlib.Data.Nat.Log

/-!
# Rounding keeps the order

Of two ratios with one denominator the smaller one is not rounded to the
greater rank: on one scale the nearest multiples of one grid are in order, and
a ratio on a lower scale is rounded to the first rank of the next scale at
most.  A greater integer therefore never becomes the smaller floating-point
number, though two integers may become the same one.
-/

namespace GeoTables.Binary64

/-! ## Ratios -/

theorem nearestMultiple_mono
    {number greater grid : Nat}
    (ordered : number ≤ greater) :
    nearestMultiple number grid ≤ nearestMultiple greater grid := by
  have quotients : number / grid ≤ greater / grid := Nat.div_le_div_right ordered
  have split : grid * (number / grid) + number % grid = number := Nat.div_add_mod number grid
  have greaterSplit : grid * (greater / grid) + greater % grid = greater :=
    Nat.div_add_mod greater grid
  unfold nearestMultiple
  dsimp only
  rcases Nat.lt_or_eq_of_le quotients with below | same
  · split_ifs <;> omega
  · rw [same] at split ⊢
    simp only [gt_iff_lt, Bool.or_eq_true, decide_eq_true_eq, Bool.and_eq_true, beq_iff_eq]
    split_ifs <;> omega

/-- A multiple of the grid bounds what is rounded below it. -/
theorem nearestMultiple_le
    {number grid bound : Nat}
    (positive : 0 < grid)
    (below : number ≤ bound * grid) :
    nearestMultiple number grid ≤ bound := by
  have exactly : nearestMultiple (bound * grid) grid = bound :=
    nearestMultiple_eq positive (by omega) (by omega) (by omega)
  exact exactly ▸ nearestMultiple_mono below

theorem le_nearestMultiple
    {number grid bound : Nat}
    (positive : 0 < grid)
    (above : bound * grid ≤ number) :
    bound ≤ nearestMultiple number grid := by
  have exactly : nearestMultiple (bound * grid) grid = bound :=
    nearestMultiple_eq positive (by omega) (by omega) (by omega)
  exact exactly ▸ nearestMultiple_mono above

/-- Where the scale on which a quotient is rounded begins and ends. -/
theorem scale_bounds
    {quotient scale : Nat}
    (rounds : Nat.log2 quotient - 52 = scale) :
    quotient < 2 ^ (53 + scale) ∧ (scale = 0 ∨ 2 ^ (52 + scale) ≤ quotient) := by
  rcases Nat.eq_zero_or_pos quotient with rfl | positive
  · exact ⟨by positivity, .inl (by simpa using rounds.symm)⟩
  · have nonzero : quotient ≠ 0 := Nat.pos_iff_ne_zero.mp positive
    constructor
    · exact (Nat.log2_lt nonzero).mp (by omega)
    · rcases Nat.eq_zero_or_pos scale with rfl | normal
      · exact .inl rfl
      · exact .inr ((Nat.le_log2 nonzero).mp (by omega))

/-- A smaller ratio is not rounded to a greater rank. -/
theorem rankNearest_mono
    {numerator greater denominator : Nat}
    (positive : 0 < denominator)
    (ordered : numerator ≤ greater) :
    rankNearest numerator denominator ≤ rankNearest greater denominator := by
  have scales :
      Nat.log2 (numerator / denominator) - 52 ≤ Nat.log2 (greater / denominator) - 52 := by
    rw [Nat.log2_eq_log_two, Nat.log2_eq_log_two]
    exact Nat.sub_le_sub_right (Nat.log_mono_right (Nat.div_le_div_right ordered)) 52
  obtain ⟨scale, rounds⟩ : ∃ scale, Nat.log2 (numerator / denominator) - 52 = scale := ⟨_, rfl⟩
  obtain ⟨upper, roundsUpper⟩ : ∃ upper, Nat.log2 (greater / denominator) - 52 = upper :=
    ⟨_, rfl⟩
  rw [rankNearest_eq rounds, rankNearest_eq roundsUpper]
  rw [rounds, roundsUpper] at scales
  rcases Nat.lt_or_eq_of_le scales with below | rfl
  · -- The lower scale ends where the next one begins.
    have grid : 0 < denominator * 2 ^ scale := by positivity
    have upperGrid : 0 < denominator * 2 ^ upper := by positivity
    have ends : nearestMultiple numerator (denominator * 2 ^ scale) ≤ 2 ^ 53 := by
      have inside := (scale_bounds rounds).1
      rw [div_lt_two_pow_iff positive] at inside
      exact nearestMultiple_le grid (Nat.le_of_lt inside)
    have begins : 2 ^ 52 ≤ nearestMultiple greater (denominator * 2 ^ upper) := by
      have reached := (scale_bounds roundsUpper).2.resolve_left (by omega)
      rw [← not_lt, div_lt_two_pow_iff positive, not_lt] at reached
      exact le_nearestMultiple upperGrid reached
    omega
  · exact Nat.add_le_add_left (nearestMultiple_mono ordered) _

/-! ## Integers -/

/-- The rank of the magnitude of an integer. -/
def rankOfMagnitude (magnitude : Nat) : Nat :=
  min (rankNearest (magnitude * unitsInOne) 1) infiniteRank

theorem rankOfMagnitude_mono
    {magnitude greater : Nat}
    (ordered : magnitude ≤ greater) :
    rankOfMagnitude magnitude ≤ rankOfMagnitude greater := by
  have ranks := rankNearest_mono Nat.one_pos (Nat.mul_le_mul_right unitsInOne ordered)
  unfold rankOfMagnitude
  omega

/-- Where an integer stands as a floating-point number. -/
def placeOfInt (value : Int) : Int :=
  if value < 0 then -(rankOfMagnitude value.natAbs : Int) else rankOfMagnitude value.natAbs

theorem place?_ofInt (value : Int) : (ofInt value).place? = some (placeOfInt value) := by
  unfold placeOfInt ofInt ofRatio ofRank place?
  by_cases negative : value < 0 <;> simp only [negative, decide_true, decide_false] <;> rfl

/-- A greater integer does not become a smaller floating-point number. -/
theorem placeOfInt_mono
    {left right : Int}
    (ordered : left ≤ right) :
    placeOfInt left ≤ placeOfInt right := by
  unfold placeOfInt
  split_ifs with leftNegative rightNegative rightNegative
  · have ranks : rankOfMagnitude right.natAbs ≤ rankOfMagnitude left.natAbs :=
      rankOfMagnitude_mono (by omega)
    omega
  · omega
  · omega
  · have ranks : rankOfMagnitude left.natAbs ≤ rankOfMagnitude right.natAbs :=
      rankOfMagnitude_mono (by omega)
    omega

end GeoTables.Binary64
