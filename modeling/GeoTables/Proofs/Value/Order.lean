import GeoTables.Proofs.Number.Monotone
import GeoTables.Proofs.Value.Comparison
import Mathlib.Algebra.Order.Ring.Int

/-!
# Following the order of values

Within most variants the order of values can be followed from one to the next.
Integers are compared with one another exactly and with floating-point numbers
after they were rounded.  Where two integers are rounded to one number the
order cannot be followed through it: it says that each of them is equal to this
number, and that one of them is less than the other.
-/

namespace GeoTables

/-! ## Transitive comparisons -/

instance : Std.TransCmp Date.compare :=
  inferInstanceAs <| Std.TransCmp <|
    compareLex (compareOn Date.year) <| compareLex (compareOn Date.month) (compareOn Date.day)

instance : Std.TransCmp TimeOfDay.compare :=
  inferInstanceAs <| Std.TransCmp <|
    compareLex (compareOn fun time : TimeOfDay => time.hour.val) <|
      compareLex (compareOn fun time : TimeOfDay => time.minute.val) <|
        compareLex (compareOn fun time : TimeOfDay => time.second.val)
          (compareOn fun time : TimeOfDay => time.nanosecond.val)

instance : Std.TransCmp DateTime.compare :=
  inferInstanceAs <| Std.TransCmp <|
    compareLex (Ordering.byKey DateTime.date Date.compare)
      (Ordering.byKey DateTime.time TimeOfDay.compare)

namespace Decimal

/-- The number of units of the last place that a decimal may have. -/
def units (value : Decimal) : Int :=
  value.coefficient * 10 ^ (maxScale - value.scale)

theorem units_mul_pow (value : Decimal) :
    value.units * 10 ^ value.scale = value.coefficient * 10 ^ maxScale := by
  rw [units, mul_assoc, ← pow_add, Nat.sub_add_cancel value.scale_le]

/-- Decimals are compared by their units. -/
theorem compare_eq_compareOn : compare = compareOn units := by
  funext left right
  have power (scale : Nat) : (0 : Int) < 10 ^ scale := by positivity
  have leftUnits :
      left.coefficient * 10 ^ right.scale * 10 ^ maxScale =
        left.units * (10 ^ left.scale * 10 ^ right.scale) := by
    rw [← mul_assoc, units_mul_pow]
    ring
  have rightUnits :
      right.coefficient * 10 ^ left.scale * 10 ^ maxScale =
        right.units * (10 ^ left.scale * 10 ^ right.scale) := by
    rw [mul_comm (10 ^ left.scale), ← mul_assoc, units_mul_pow]
    ring
  change Ord.compare (left.coefficient * 10 ^ right.scale) (right.coefficient * 10 ^ left.scale) =
    Ord.compare left.units right.units
  rw [← cmp_eq_compare, ← cmp_eq_compare, ← cmp_mul_pos_right (power maxScale), leftUnits,
    rightUnits, cmp_mul_pos_right (mul_pos (power _) (power _))]

instance : Std.TransCmp compare := by
  rw [compare_eq_compareOn]
  infer_instance

end Decimal

namespace Value

/-- The order does not put the first value behind the second. -/
def AtMost (left right : Value) : Prop :=
  left.compare? right ≠ some .gt

/-- A transitive comparison of contents can be followed from value to value. -/
theorem AtMost.trans_of_compares
    {α : Type}
    {compares : α → α → Ordering}
    [Std.TransCmp compares]
    {wrap : α → Value}
    (ordered : ∀ left right, (wrap left).compare? (wrap right) = some (compares left right))
    {first second third : α}
    (before : AtMost (wrap first) (wrap second))
    (after : AtMost (wrap second) (wrap third)) :
    AtMost (wrap first) (wrap third) := by
  simp only [AtMost, ordered, ne_eq, Option.some.injEq, ← Ordering.isLE_iff_ne_gt] at *
  exact Std.TransCmp.isLE_trans before after

/-! ## Integers and floating-point numbers -/

/-- Where an integer or a floating-point number stands among floating-point numbers. -/
def place? : Value → Option Int
  | .int value => some (Binary64.placeOfInt value)
  | .float value => value.place?
  | _ => none

/-- Where no float is no number, every float has its place. -/
theorem isSome_place?_of_mem
    {values : List Value}
    {number : Binary64}
    (ordinary : .float .nan ∉ values)
    (isValue : .float number ∈ values) :
    (Value.float number).place?.isSome := by
  cases number with
  | nan => exact absurd isValue ordinary
  | number => rfl

/-- Two integers, one less than the other, that both are equal to one floating-point number. -/
def Blurs (number : Binary64) (left right : Int) : Prop :=
  left < right ∧
    (Binary64.ofInt left).same number = true ∧ (Binary64.ofInt right).same number = true

instance (number : Binary64) (left right : Int) : Decidable (Blurs number left right) :=
  inferInstanceAs (Decidable (_ ∧ _ ∧ _))

/-- From `2 ^ 53` on there are integers that are rounded to their neighbours. -/
example : Blurs (Binary64.ofInt 9007199254740992) 9007199254740992 9007199254740993 := by
  decide +kernel

/-- Among the values two integers and a floating-point number are blurred. -/
def AreBlurred (values : List Value) : Prop :=
  ∃ number left right,
    .float number ∈ values ∧ .int left ∈ values ∧ .int right ∈ values ∧ Blurs number left right

end Value

theorem Binary64.compare?_of_place?
    {left right : Binary64}
    {leftPlace rightPlace : Int}
    (isLeft : left.place? = some leftPlace)
    (isRight : right.place? = some rightPlace) :
    left.compare? right = some (compare leftPlace rightPlace) := by
  rw [compare?, isLeft, isRight]
  rfl

namespace Value

/-- Numbers with places are two integers, or they are compared by their places. -/
theorem compare?_of_place?
    {left right : Value}
    {leftPlace rightPlace : Int}
    (isLeft : left.place? = some leftPlace)
    (isRight : right.place? = some rightPlace) :
    left.compare? right = some (compare leftPlace rightPlace) ∨
      ∃ leftValue rightValue, left = .int leftValue ∧ right = .int rightValue := by
  cases left <;> try cases isLeft
  case int.refl leftValue =>
      cases right <;> try cases isRight
      case int.refl rightValue => exact .inr ⟨leftValue, rightValue, rfl, rfl⟩
      case float =>
        exact .inl (Binary64.compare?_of_place? (Binary64.place?_ofInt leftValue) isRight)
  case float =>
      cases right <;> try cases isRight
      case int.refl rightValue =>
        exact .inl (Binary64.compare?_of_place? isLeft (Binary64.place?_ofInt rightValue))
      case float => exact .inl (Binary64.compare?_of_place? isLeft isRight)

/-- A number that is not put behind another one does not stand behind it. -/
theorem AtMost.place_le
    {left right : Value}
    {leftPlace rightPlace : Int}
    (atMost : left.AtMost right)
    (isLeft : left.place? = some leftPlace)
    (isRight : right.place? = some rightPlace) :
    leftPlace ≤ rightPlace := by
  rcases compare?_of_place? isLeft isRight with ordered | ⟨leftValue, rightValue, rfl, rfl⟩
  · rw [AtMost, ordered, ne_eq, Option.some.injEq, compare_gt_iff_gt] at atMost
    exact Int.not_lt.mp atMost
  · cases isLeft
    cases isRight
    rw [AtMost, compare?, ne_eq, Option.some.injEq, compare_gt_iff_gt] at atMost
    exact Binary64.placeOfInt_mono (Int.not_lt.mp atMost)

/-- Two numbers at one place of which the first is put behind the second are integers. -/
theorem exists_ints_of_not_atMost
    {left right : Value}
    {place : Int}
    (isLeft : left.place? = some place)
    (isRight : right.place? = some place)
    (behind : ¬left.AtMost right) :
    ∃ greater less, left = .int greater ∧ right = .int less ∧ less < greater := by
  rw [AtMost, not_not] at behind
  rcases compare?_of_place? isLeft isRight with ordered | ⟨greater, less, rfl, rfl⟩
  · simp [ordered] at behind
  · rw [compare?, Option.some.injEq, compare_gt_iff_gt] at behind
    exact ⟨greater, less, rfl, rfl, behind⟩

/-- An integer is equal to a floating-point number exactly if it stands where the number stands. -/
theorem same_ofInt_iff (value : Int) (number : Binary64) :
    (Binary64.ofInt value).same number = true ↔
      number.place? = some (Binary64.placeOfInt value) := by
  cases isPlace : number.place? with
  | none => simp [Binary64.same, Binary64.compare?, isPlace]
  | some place =>
      rw [Binary64.same, Binary64.compare?_of_place? (Binary64.place?_ofInt value) isPlace,
        beq_iff_eq, Option.some.injEq, Option.some.injEq, compare_eq_iff_eq, eq_comm]

/-- Among values that are not blurred the order of numbers can be followed. -/
theorem AtMost.trans_of_not_areBlurred
    {values : List Value}
    {first second third : Value}
    (clear : ¬AreBlurred values)
    (firstMember : first ∈ values)
    (secondMember : second ∈ values)
    (thirdMember : third ∈ values)
    (firstNumber : first.place?.isSome)
    (secondNumber : second.place?.isSome)
    (thirdNumber : third.place?.isSome)
    (before : first.AtMost second)
    (after : second.AtMost third) :
    first.AtMost third := by
  obtain ⟨firstPlace, isFirst⟩ := Option.isSome_iff_exists.mp firstNumber
  obtain ⟨secondPlace, isSecond⟩ := Option.isSome_iff_exists.mp secondNumber
  obtain ⟨thirdPlace, isThird⟩ := Option.isSome_iff_exists.mp thirdNumber
  by_contra behind
  have back : third.AtMost first := by
    rw [AtMost, compare?_swap first third, not_not.mp behind]
    decide
  -- The places go round in a circle, so they are one place.
  have climbs := before.place_le isFirst isSecond
  have climbsOn := after.place_le isSecond isThird
  have returns := back.place_le isThird isFirst
  obtain rfl : firstPlace = secondPlace := by omega
  obtain rfl : firstPlace = thirdPlace := by omega
  obtain ⟨greater, less, rfl, rfl, isLess⟩ := exists_ints_of_not_atMost isFirst isThird behind
  cases second with
  | int between =>
      simp only [AtMost, compare?, ne_eq, Option.some.injEq, compare_gt_iff_gt] at before after
      omega
  | float number =>
      refine clear
        ⟨number, less, greater, secondMember, thirdMember, firstMember, isLess, ?_, ?_⟩
      · rw [same_ofInt_iff]
        exact isSecond.trans isThird.symm
      · rw [same_ofInt_iff]
        exact isSecond.trans isFirst.symm
  | _ => cases isSecond

/-- The order cannot be followed through a number in which two integers are blurred. -/
theorem Blurs.not_trans
    {number : Binary64}
    {left right : Int}
    (blurs : Blurs number left right) :
    (Value.int right).AtMost (.float number) ∧
      (Value.float number).AtMost (.int left) ∧ ¬(Value.int right).AtMost (.int left) := by
  obtain ⟨less, leftSame, rightSame⟩ := blurs
  rw [Binary64.same, beq_iff_eq] at leftSame rightSame
  refine ⟨?_, ?_, ?_⟩
  · rw [AtMost, compare?, rightSame]
    decide
  · rw [AtMost, compare?, Binary64.compare?_swap, leftSame]
    decide
  · rw [AtMost, compare?, not_not, Option.some.injEq, compare_gt_iff_gt]
    exact less

end Value

end GeoTables
