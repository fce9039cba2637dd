import GeoTables.Proofs.Json.Spelling

/-!
# Numbers that are read

A number text denotes a number: whatever powers of ten its digits are scaled by,
what is read from it is never the value that is not a number.
-/

namespace GeoTables

namespace Binary64

/-- A positive number of at most `scale + 53` bits is rounded on that scale or below. -/
theorem rankNearest_bounds
    {number scale : Nat}
    (positive : 0 < number)
    (bounded : number < 2 ^ (scale + 53)) :
    0 < rankNearest number 1 ∧ rankNearest number 1 ≤ scale * 2 ^ 52 + 2 ^ 53 := by
  have nonzero : number ≠ 0 := Nat.ne_of_gt positive
  have bits : number.log2 < scale + 53 := (Nat.log2_lt nonzero).mpr bounded
  have rounds : Nat.log2 (number / 1) - 52 = number.log2 - 52 := by rw [Nat.div_one]
  rw [rankNearest_eq rounds, Nat.one_mul, nearestMultiple]
  have least : 2 ^ (number.log2 - 52) ≤ number :=
    (Nat.pow_le_pow_right (by decide) (Nat.sub_le _ _)).trans (Nat.log2_self_le nonzero)
  have reached : 0 < number / 2 ^ (number.log2 - 52) := Nat.div_pos least (Nat.two_pow_pos _)
  have below : number / 2 ^ (number.log2 - 52) < 2 ^ 53 := by
    rw [Nat.div_lt_iff_lt_mul (Nat.two_pow_pos _), ← Nat.pow_add]
    exact (Nat.log2_lt nonzero).mp (by omega)
  have scaled : (number.log2 - 52) * 2 ^ 52 ≤ scale * 2 ^ 52 :=
    Nat.mul_le_mul_right _ (by omega)
  split_ifs <;> omega

/-- A positive natural number of at most 1023 bits is rounded to a finite number above zero. -/
theorem units?_ofNat
    {value bits : Nat}
    (positive : 0 < value)
    (bounded : value < 2 ^ bits)
    (small : bits ≤ 1023) :
    ∃ units, (ofNat value).units? = some units ∧ units ≠ 0 := by
  have inOne (scale : Nat) (wide : bits + 1074 ≤ scale + 53) :
      value * unitsInOne < 2 ^ (scale + 53) := by
    calc value * unitsInOne < 2 ^ bits * unitsInOne :=
          (Nat.mul_lt_mul_right unitsInOne_pos).mpr bounded
      _ = 2 ^ (bits + 1074) := by rw [unitsInOne, Nat.pow_add]
      _ ≤ 2 ^ (scale + 53) := Nat.pow_le_pow_right (by decide) wide
  obtain ⟨least, most⟩ :=
    rankNearest_bounds (Nat.mul_pos positive unitsInOne_pos) (inOne 2044 (by omega))
  rw [ofNat, ofRatio, ofRank, units?]
  generalize rankNearest (value * unitsInOne) 1 = rank at least most
  have finite : rank < infiniteRank := by
    unfold infiniteRank
    omega
  refine ⟨unitsOfRank rank, ?_, ?_⟩
  · simp [finite, Nat.min_eq_left (Nat.le_of_lt finite)]
  · exact_mod_cast Nat.ne_of_gt (unitsOfRank_pos least)

theorem ofRank_ne_nan (negative : Bool) (rank : Nat) : ofRank negative rank ≠ .nan := nofun

theorem neg_ne_nan {value : Binary64} (isNumber : value ≠ .nan) : -value ≠ .nan := by
  cases value with
  | nan => exact absurd rfl isNumber
  | number negative rank => exact nofun

/-- A number divided by a finite number other than zero is a number. -/
theorem div_ne_nan
    {left right : Binary64}
    {units : Int}
    (isNumber : left ≠ .nan)
    (finite : right.units? = some units)
    (nonzero : units ≠ 0) :
    left / right ≠ .nan := by
  change left.div right ≠ .nan
  unfold div
  rw [finite]
  cases left.units? with
  | some leftUnits =>
      dsimp only
      rw [if_neg nonzero]
      exact ofRank_ne_nan _ _
  | none =>
      dsimp only
      rw [if_neg isNumber]
      exact ofRank_ne_nan _ _

end Binary64

namespace Json

/-- The powers of ten that are used in one step are finite and not zero. -/
theorem units?_powerOfTen
    {exponent : Nat}
    (small : exponent ≤ greatestStep) :
    ∃ units, (powerOfTen exponent).units? = some units ∧ units ≠ 0 := by
  rcases Nat.lt_or_eq_of_le small with below | rfl
  · have bounded : 10 ^ exponent < 2 ^ 1020 :=
      (Nat.pow_le_pow_right (by decide) (Nat.le_of_lt_succ below)).trans_lt
        (by decide +kernel : 10 ^ 307 < 2 ^ 1020)
    exact Binary64.units?_ofNat (Nat.pow_pos (by decide)) bounded (by decide)
  · refine ⟨((powerOfTen greatestStep).units?).getD 0, ?_, ?_⟩ <;> decide +kernel

theorem divideRepeatedly_ne_nan
    {value : Binary64}
    (isNumber : value ≠ .nan)
    (count : Nat) :
    divideRepeatedly value count ≠ .nan := by
  induction count generalizing value with
  | zero => exact isNumber
  | succ count induction =>
      rw [divideRepeatedly]
      split_ifs
      · exact isNumber
      · obtain ⟨units, finite, nonzero⟩ := units?_powerOfTen (Nat.le_refl greatestStep)
        exact induction (Binary64.div_ne_nan isNumber finite nonzero)

theorem scaleDown_ne_nan
    {value : Binary64}
    (isNumber : value ≠ .nan)
    (exponent : Nat) :
    scaleDown value exponent ≠ .nan := by
  have last : exponent - greatestStep * ((exponent - 1) / greatestStep) ≤ greatestStep := by
    unfold greatestStep
    omega
  obtain ⟨units, finite, nonzero⟩ := units?_powerOfTen last
  exact Binary64.div_ne_nan (divideRepeatedly_ne_nan isNumber _) finite nonzero

theorem ne_nan_of_scaleUp?
    {value scaled : Binary64}
    {exponent : Nat}
    (isNumber : value ≠ .nan)
    (found : scaleUp? value exponent = some scaled) :
    scaled ≠ .nan := by
  unfold scaleUp? at found
  dsimp only at found
  split_ifs at found with _ finite
  · cases found
    intro isNan
    rw [isNan] at finite
    cases finite
  · cases found
    exact isNumber

/-- The sign of a number leaves it a number. -/
theorem ne_nan_of_signed
    {magnitude : Option Binary64}
    {negative : Bool}
    {value : Binary64}
    (isNumber : ∀ found, magnitude = some found → found ≠ .nan)
    (found : (magnitude.bind fun found => some (if negative then -found else found)) = some value) :
    value ≠ .nan := by
  obtain ⟨magnitude, isMagnitude, isValue⟩ := Option.bind_eq_some_iff.mp found
  cases isValue
  split_ifs
  · exact Binary64.neg_ne_nan (isNumber magnitude isMagnitude)
  · exact isNumber magnitude isMagnitude

/-- Digits that are scaled by a power of ten, up or down, make a number. -/
theorem ne_nan_of_scaled
    {digits value : Binary64}
    {exponent : Int}
    {negative : Bool}
    (isNumber : digits ≠ .nan)
    (found :
      (match exponent with
        | .ofNat exponent =>
            (scaleUp? digits exponent).bind fun found =>
              some (if negative then -found else found)
        | .negSucc exponent =>
            (some (scaleDown digits (exponent + 1))).bind fun found =>
              some (if negative then -found else found)) = some value) :
    value ≠ .nan := by
  cases exponent with
  | ofNat exponent => exact ne_nan_of_signed (fun _ => ne_nan_of_scaleUp? isNumber) found
  | negSucc exponent =>
      refine ne_nan_of_signed (fun _ scaled => ?_) found
      cases scaled
      exact scaleDown_ne_nan isNumber _

/-- What a number text denotes as a floating-point number is a number. -/
theorem ne_nan_of_float?
    {text : NumberText}
    {value : Binary64}
    (found : text.float? = some value) :
    value ≠ .nan := by
  have digits (significand : Nat) : Binary64.ofNat significand ≠ .nan :=
    Binary64.ofRank_ne_nan _ _
  unfold NumberText.float? at found
  simp only [Option.bind_eq_bind, Option.pure_def] at found
  split at found
  · exact ne_nan_of_scaled (digits _) found
  · split at found
    · split at found
      · refine ne_nan_of_signed (fun _ isZero => ?_) found
        cases isZero
        exact Binary64.ofRank_ne_nan _ _
      · cases found
    · exact ne_nan_of_scaled (digits _) found

/-- What a number text denotes is a number. -/
theorem ne_nan_of_value?
    {text : NumberText}
    {number : Number}
    (found : text.value? = some number) :
    number.toBinary64 ≠ .nan := by
  unfold NumberText.value? at found
  dsimp only at found
  generalize (text.fraction.isNone && text.exponent.isNone && _) = isInteger at found
  cases isInteger with
  | true =>
      cases found
      exact Binary64.ofRank_ne_nan _ _
  | false =>
      obtain ⟨value, isFloat, rfl⟩ := Option.map_eq_some_iff.mp found
      exact ne_nan_of_float? isFloat

end Json

end GeoTables
