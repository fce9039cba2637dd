import GeoTables.Proofs.Number.Nearest
import GeoTables.Proofs.Text.Numeral
import Mathlib.Data.List.TakeWhile

/-!
# Shortest digits round to their number

A decimal rounds to a rank if it lies in the rounding interval of the rank.
Every decimal that the search finds does, and the search finds one: the steps
of the finest grid are not wider than the way from a magnitude to the end of
its interval, so the magnitude itself or the grid point above it lies in there.
Dropping trailing zeros does not change the decimal.
-/

namespace GeoTables

/-- The decimal lies in the rounding interval of the rank. -/
def DecimalDigits.RoundsTo (number : DecimalDigits) (rank : Nat) : Prop :=
  (Binary64.intervalOfRank rank).holds
    (10 ^ (-number.exponent).toNat)
    (number.digits * (2 * Binary64.unitsInOne * 10 ^ number.exponent.toNat)) = true

namespace Binary64

/-- A point and its scale may be multiplied by a common factor. -/
theorem Interval.holds_congr
    {interval : Interval}
    {scale point other otherPoint : Nat}
    (positive : 0 < scale)
    (otherPositive : 0 < other)
    (same : point * other = otherPoint * scale) :
    interval.holds scale point = interval.holds other otherPoint := by
  have atMost :
      ∀ bound, bound * scale ≤ point ↔ bound * other ≤ otherPoint := by
    intro bound
    rw [← Nat.mul_le_mul_right_iff otherPositive, same, Nat.mul_right_comm,
      Nat.mul_le_mul_right_iff positive]
  have atLeast :
      ∀ bound, point ≤ bound * scale ↔ otherPoint ≤ bound * other := by
    intro bound
    rw [← Nat.mul_le_mul_right_iff otherPositive, same, Nat.mul_right_comm,
      Nat.mul_le_mul_right_iff positive]
  unfold holds
  simp only [atMost, atLeast, ← Nat.not_le]

/-! ## Magnitudes of neighbouring ranks -/

theorem unitsInOne_pos : 0 < unitsInOne := by
  unfold unitsInOne
  positivity

theorem unitsOfRank_lt_succ (rank : Nat) : unitsOfRank rank < unitsOfRank (rank + 1) := by
  obtain ⟨scale, significand, rfl, bounded, normal⟩ := exists_significand rank
  rw [Nat.add_assoc, unitsOfRank_significand (by omega) normal,
    unitsOfRank_significand (by omega) (by omega)]
  exact Nat.mul_lt_mul_of_pos_right (by omega) (Nat.two_pow_pos scale)

theorem unitsOfRank_pred_lt
    {rank : Nat}
    (positive : 0 < rank) :
    unitsOfRank (rank - 1) < unitsOfRank rank := by
  have step := unitsOfRank_lt_succ (rank - 1)
  rwa [Nat.sub_add_cancel positive] at step

theorem unitsOfRank_pos
    {rank : Nat}
    (positive : 0 < rank) :
    0 < unitsOfRank rank :=
  Nat.zero_lt_of_lt (unitsOfRank_pred_lt positive)

/-! ## Points of a grid -/

theorem roundsTo_of_gridPoint?
    {rank : Nat}
    {exponent : Int}
    {number : DecimalDigits}
    (found : gridPoint? rank exponent = some number) :
    number.RoundsTo rank := by
  simp only [gridPoint?] at found
  split_ifs at found with below above
  · cases found
    simp only [Bool.and_eq_true] at below
    exact below.1
  · cases found
    exact above

/-- Of two points one step apart on either side of a value that is one step from
the upper end of an interval, one lies in the interval. -/
theorem Interval.holds_or_holds_next
    {interval : Interval}
    {scale step below rest : Nat}
    (small : rest < step)
    (low : interval.low * scale < below * step + rest)
    (high : below * step + rest + step ≤ interval.high * scale) :
    interval.holds scale (below * step) = true ∨
      interval.holds scale ((below + 1) * step) = true := by
  have next : (below + 1) * step = below * step + step := Nat.succ_mul below step
  unfold holds
  rw [next]
  rcases Nat.eq_zero_or_pos rest with rfl | beyond
  · left
    split_ifs <;> simp only [Bool.and_eq_true, decide_eq_true_eq] <;> omega
  · right
    split_ifs <;> simp only [Bool.and_eq_true, decide_eq_true_eq] <;> omega

/-- The upper half of an interval is as wide as the gap to the next rank. -/
theorem high_intervalOfRank (rank : Nat) :
    (intervalOfRank rank).high =
      2 * unitsOfRank rank + (unitsOfRank (rank + 1) - unitsOfRank rank) := by
  have upper := unitsOfRank_lt_succ rank
  simp only [intervalOfRank]
  omega

theorem low_intervalOfRank_pos
    {rank : Nat}
    (positive : 0 < rank) :
    0 < (intervalOfRank rank).low := by
  have := unitsOfRank_pos positive
  simp only [intervalOfRank]
  omega

theorem low_intervalOfRank_lt
    {rank : Nat}
    (positive : 0 < rank) :
    (intervalOfRank rank).low < 2 * unitsOfRank rank := by
  have lower := unitsOfRank_pred_lt positive
  simp only [intervalOfRank]
  omega

/-- A grid has a point in the interval if its steps are not wider than the way
to the end of the interval. -/
theorem isSome_gridPoint?
    {rank : Nat}
    {exponent : Int}
    (positive : 0 < rank)
    (fine :
      2 * unitsInOne * 10 ^ exponent.toNat ≤
        (unitsOfRank (rank + 1) - unitsOfRank rank) * 10 ^ (-exponent).toNat) :
    (gridPoint? rank exponent).isSome := by
  have stepPositive : 0 < 2 * unitsInOne * 10 ^ exponent.toNat :=
    Nat.mul_pos (Nat.mul_pos (by decide) unitsInOne_pos) (Nat.pow_pos (by decide))
  have scalePositive : 0 < 10 ^ (-exponent).toNat := Nat.pow_pos (by decide)
  simp only [gridPoint?]
  generalize 2 * unitsInOne * 10 ^ exponent.toNat = step at *
  generalize 10 ^ (-exponent).toNat = scale at *
  have value :
      2 * unitsOfRank rank * scale / step * step + 2 * unitsOfRank rank * scale % step =
        2 * unitsOfRank rank * scale :=
    Nat.div_add_mod' _ _
  have fits :
      (intervalOfRank rank).holds scale (2 * unitsOfRank rank * scale / step * step) = true ∨
        (intervalOfRank rank).holds scale ((2 * unitsOfRank rank * scale / step + 1) * step) =
          true := by
    apply Interval.holds_or_holds_next (Nat.mod_lt _ stepPositive)
    · rw [value]
      exact Nat.mul_lt_mul_of_pos_right (low_intervalOfRank_lt positive) scalePositive
    · rw [value, high_intervalOfRank, Nat.add_mul]
      exact Nat.add_le_add_left fine _
  split_ifs with first second
  · rfl
  · rfl
  · rcases fits with belowFits | aboveFits
    · simp [belowFits, eq_false_of_ne_true second] at first
    · exact absurd aboveFits second

/-! ## The finest grid -/

/-- The exponent of the finest grid for magnitudes between two powers of two. -/
def finestExponent (log : Nat) : Int :=
  ((log : Int) - 1074) * 30103 / 100000 + 1 - 18

/-- The finest grid of a scale has steps that are not wider than those of the scale. -/
def isFine (scale : Nat) : Bool :=
  let exponent := finestExponent (52 + scale)
  2 * unitsInOne * 10 ^ exponent.toNat ≤ 2 ^ scale * 10 ^ (-exponent).toNat

theorem isFine_of_finite : (List.range 2046).all isFine = true := by
  decide +kernel

theorem fine_of_scale
    {scale : Nat}
    (finite : scale < 2046) :
    2 * unitsInOne * 10 ^ (finestExponent (52 + scale)).toNat ≤
      2 ^ scale * 10 ^ (-finestExponent (52 + scale)).toNat := by
  have fine := List.all_eq_true.mp isFine_of_finite scale (List.mem_range.mpr finite)
  simpa only [isFine, decide_eq_true_eq] using fine

/-- Smaller magnitudes have finer grids. -/
theorem finestExponent_mono
    {log greater : Nat}
    (ordered : log ≤ greater) :
    finestExponent log ≤ finestExponent greater := by
  unfold finestExponent
  omega

theorem log2_significand
    {scale significand : Nat}
    (bounded : significand < 2 ^ 53)
    (normal : 2 ^ 52 ≤ significand) :
    Nat.log2 (significand * 2 ^ scale) = 52 + scale := by
  have positive : significand * 2 ^ scale ≠ 0 :=
    Nat.ne_of_gt (Nat.mul_pos (by omega) (Nat.two_pow_pos scale))
  have lower : 2 ^ (52 + scale) ≤ significand * 2 ^ scale := by
    rw [Nat.pow_add]
    exact Nat.mul_le_mul_right _ normal
  have upper : significand * 2 ^ scale < 2 ^ (52 + scale + 1) := by
    rw [Nat.add_right_comm, Nat.pow_add]
    exact Nat.mul_lt_mul_of_pos_right (by omega) (Nat.two_pow_pos scale)
  have least := (Nat.le_log2 positive).mpr lower
  have most := (Nat.log2_lt positive).mpr upper
  omega

/-- A grid that is finer than a fine one is fine. -/
theorem fine_mono
    {exponent bound : Int}
    {gap : Nat}
    (ordered : exponent ≤ bound)
    (fine : 2 * unitsInOne * 10 ^ bound.toNat ≤ gap * 10 ^ (-bound).toNat) :
    2 * unitsInOne * 10 ^ exponent.toNat ≤ gap * 10 ^ (-exponent).toNat := by
  calc
    2 * unitsInOne * 10 ^ exponent.toNat ≤ 2 * unitsInOne * 10 ^ bound.toNat :=
      Nat.mul_le_mul_left _ (Nat.pow_le_pow_right (by decide) (by omega))
    _ ≤ gap * 10 ^ (-bound).toNat := fine
    _ ≤ gap * 10 ^ (-exponent).toNat :=
      Nat.mul_le_mul_left _ (Nat.pow_le_pow_right (by decide) (by omega))

/-- Neighbouring magnitudes differ by a unit of their scale. -/
theorem unitsOfRank_succ_sub
    {scale significand : Nat}
    (bounded : significand < 2 ^ 53)
    (normal : scale = 0 ∨ 2 ^ 52 ≤ significand) :
    unitsOfRank (scale * 2 ^ 52 + significand + 1) - unitsOfRank (scale * 2 ^ 52 + significand) =
      2 ^ scale := by
  rw [Nat.add_assoc, unitsOfRank_significand (by omega) normal,
    unitsOfRank_significand (by omega) (by omega), ← Nat.sub_mul]
  simp

/-- The finest grid that is searched for a finite rank is fine enough. -/
theorem isSome_finest
    {rank : Nat}
    (positive : 0 < rank)
    (finite : rank < infiniteRank) :
    (gridPoint? rank (coarsestExponent rank - (18 : Nat))).isSome := by
  apply isSome_gridPoint? positive
  change
    2 * unitsInOne * 10 ^ (finestExponent (Nat.log2 (unitsOfRank rank))).toNat ≤
      (unitsOfRank (rank + 1) - unitsOfRank rank) *
        10 ^ (-finestExponent (Nat.log2 (unitsOfRank rank))).toNat
  obtain ⟨scale, significand, rfl, bounded, normal⟩ := exists_significand rank
  rw [unitsOfRank_succ_sub bounded normal, unitsOfRank_significand (by omega) normal]
  by_cases least : 2 ^ 52 ≤ significand
  · rw [log2_significand bounded least]
    apply fine_of_scale
    unfold infiniteRank at finite
    omega
  · obtain rfl : scale = 0 := by omega
    have small : Nat.log2 (significand * 2 ^ 0) ≤ 52 + 0 := by
      have below : significand * 2 ^ 0 < 2 ^ 53 := by omega
      have := (Nat.log2_lt (by omega)).mpr below
      omega
    have inRange : 0 < 2046 := by decide
    exact fine_mono (finestExponent_mono small) (fine_of_scale inRange)

end Binary64

/-! ## Trailing zeros -/

namespace DecimalDigits

/-- Zeros at the end of the digits may be moved to the exponent and back. -/
theorem roundsTo_shifted_iff
    {digits zeros rank : Nat}
    {exponent : Int} :
    RoundsTo ⟨digits, exponent + zeros⟩ rank ↔
      RoundsTo ⟨digits * 10 ^ zeros, exponent⟩ rank := by
  unfold RoundsTo
  rw [Binary64.Interval.holds_congr]
  · exact Nat.pow_pos (by decide)
  · exact Nat.pow_pos (by decide)
  · have powers :
        10 ^ (exponent + zeros).toNat * 10 ^ (-exponent).toNat =
          10 ^ zeros * 10 ^ exponent.toNat * 10 ^ (-(exponent + zeros)).toNat := by
      rw [← Nat.pow_add, ← Nat.pow_add, ← Nat.pow_add]
      congr 1
      omega
    calc
      digits * (2 * Binary64.unitsInOne * 10 ^ (exponent + zeros).toNat) *
            10 ^ (-exponent).toNat =
          digits * (2 * Binary64.unitsInOne) *
            (10 ^ (exponent + zeros).toNat * 10 ^ (-exponent).toNat) := by ring
      _ = digits * 10 ^ zeros * (2 * Binary64.unitsInOne * 10 ^ exponent.toNat) *
            10 ^ (-(exponent + zeros)).toNat := by
          rw [powers]
          ring

/-- The digits are those before the trailing zeros, followed by the zeros. -/
theorem digits_eq_of_trailing
    (value : Nat) :
    value =
      value / 10 ^ ((Text.natDigits value).reverse.takeWhile (· == '0')).length *
        10 ^ ((Text.natDigits value).reverse.takeWhile (· == '0')).length := by
  generalize zerosAre : (Text.natDigits value).reverse.takeWhile (· == '0') = zeros
  have isZeros : zeros = List.replicate zeros.length '0' := by
    rw [List.eq_replicate_iff]
    refine ⟨rfl, ?_⟩
    intro character member
    rw [← zerosAre] at member
    have isZero := List.mem_takeWhile_imp member
    simpa using isZero
  have split : Text.natDigits value =
      ((Text.natDigits value).reverse.dropWhile (· == '0')).reverse ++ zeros.reverse := by
    rw [← List.reverse_append, ← zerosAre, List.takeWhile_append_dropWhile,
      List.reverse_reverse]
  have valueOf :
      Text.digitsValue 0 ((Text.natDigits value).reverse.dropWhile (· == '0')).reverse *
        10 ^ zeros.length = value := by
    rw [← Text.digitsValue_append_zeros, ← List.reverse_replicate, ← isZeros, ← split,
      Text.digitsValue_natDigits]
  have divides : 10 ^ zeros.length ∣ value := ⟨_, by rw [Nat.mul_comm, valueOf]⟩
  exact (Nat.div_mul_cancel divides).symm

theorem RoundsTo.stripZeros
    {number : DecimalDigits}
    {rank : Nat}
    (rounds : number.RoundsTo rank) :
    number.stripZeros.RoundsTo rank := by
  unfold DecimalDigits.stripZeros
  dsimp only
  split_ifs
  · exact rounds
  · rw [roundsTo_shifted_iff, ← digits_eq_of_trailing]
    exact rounds

/-- A decimal that rounds to a positive rank is positive. -/
theorem RoundsTo.digits_pos
    {number : DecimalDigits}
    {rank : Nat}
    (rounds : number.RoundsTo rank)
    (positive : 0 < rank) :
    0 < number.digits := by
  by_contra zero
  have vanishes : number.digits = 0 := by omega
  have low := (Binary64.Interval.le_of_holds rounds).1
  have scalePositive : 0 < 10 ^ (-number.exponent).toNat := Nat.pow_pos (by decide)
  have beyond := Nat.mul_pos (Binary64.low_intervalOfRank_pos positive) scalePositive
  rw [vanishes, Nat.zero_mul] at low
  omega

end DecimalDigits

/-- The shortest digits of a positive finite rank round to it. -/
theorem Binary64.roundsTo_shortest
    {rank : Nat}
    (positive : 0 < rank)
    (finite : rank < infiniteRank) :
    (shortest rank).RoundsTo rank := by
  have some :
      ((List.range 19).findSome? fun (finer : Nat) =>
        gridPoint? rank (coarsestExponent rank - finer)).isSome := by
    rw [List.findSome?_isSome_iff]
    exact ⟨18, by simp, isSome_finest positive finite⟩
  obtain ⟨number, found⟩ := Option.isSome_iff_exists.mp some
  obtain ⟨finer, _, isPoint⟩ := List.exists_of_findSome?_eq_some found
  have rounds := roundsTo_of_gridPoint? isPoint
  simp only [shortest, found, Option.getD_some]
  exact rounds.stripZeros

end GeoTables
