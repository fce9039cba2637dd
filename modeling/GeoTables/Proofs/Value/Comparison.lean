import GeoTables.Proofs.Value.Durable
import GeoTables.Value.Comparison
import Mathlib.Order.Compare

/-!
# The order of values

The order of two values is turned round when the values change places.  Two
values of one type that is known, neither of them null nor the float that is
not a number, have an order, and they are equal exactly if that order says so:
values that fit one column never fall between equality and order.
-/

namespace GeoTables

/-! ## Orders turned round -/

theorem Decimal.compare_swap (left right : Decimal) :
    right.compare left = (left.compare right).swap := by
  unfold compare
  exact Std.OrientedCmp.eq_swap

theorem Date.compare_swap (left right : Date) :
    right.compare left = (left.compare right).swap := by
  simp only [compare, Ordering.swap_then]
  congr 1
  · exact Std.OrientedCmp.eq_swap
  · congr 1 <;> exact Std.OrientedCmp.eq_swap

theorem TimeOfDay.compare_swap (left right : TimeOfDay) :
    right.compare left = (left.compare right).swap := by
  simp only [compare, Ordering.swap_then]
  congr 1
  · exact Std.OrientedCmp.eq_swap
  · congr 1
    · exact Std.OrientedCmp.eq_swap
    · congr 1 <;> exact Std.OrientedCmp.eq_swap

theorem DateTime.compare_swap (left right : DateTime) :
    right.compare left = (left.compare right).swap := by
  simp only [compare, Ordering.swap_then, ← Date.compare_swap, ← TimeOfDay.compare_swap]

theorem Binary64.compare?_swap (left right : Binary64) :
    right.compare? left = (left.compare? right).map Ordering.swap := by
  cases left <;> cases right <;> try rfl
  exact congrArg some Std.OrientedCmp.eq_swap

/-! ## Orders that say equal -/

theorem Date.compare_eq_iff {left right : Date} :
    left.compare right = .eq ↔ left = right := by
  cases left
  cases right
  simp [compare, Ordering.then_eq_eq]

theorem TimeOfDay.compare_eq_iff {left right : TimeOfDay} :
    left.compare right = .eq ↔ left = right := by
  cases left
  cases right
  simp [compare, Ordering.then_eq_eq, Fin.ext_iff]

theorem DateTime.compare_eq_iff {left right : DateTime} :
    left.compare right = .eq ↔ left = right := by
  cases left
  cases right
  simp [compare, Ordering.then_eq_eq, Date.compare_eq_iff, TimeOfDay.compare_eq_iff]

namespace Value

/-- The order of two values is turned round with them. -/
theorem compare?_swap (left right : Value) :
    right.compare? left = (left.compare? right).map Ordering.swap := by
  cases left <;> cases right <;> try rfl
  case bool.bool => exact congrArg some Std.OrientedCmp.eq_swap
  case int.int => exact congrArg some Std.OrientedCmp.eq_swap
  case int.float => exact Binary64.compare?_swap _ _
  case int.decimal => simp [compare?]
  case float.int => exact Binary64.compare?_swap _ _
  case float.float => exact Binary64.compare?_swap _ _
  case float.decimal => simp [compare?, Function.comp_def]
  case decimal.decimal => exact congrArg some (Decimal.compare_swap _ _)
  case string.string => exact congrArg some Std.OrientedCmp.eq_swap
  case date.date => exact congrArg some (Date.compare_swap _ _)
  case date.dateTime => exact congrArg some (DateTime.compare_swap _ _)
  case dateTime.date => exact congrArg some (DateTime.compare_swap _ _)
  case dateTime.dateTime => exact congrArg some (DateTime.compare_swap _ _)
  case time.time => exact congrArg some (TimeOfDay.compare_swap _ _)

/-- The two values have an order, and they are equal exactly if it says so. -/
def AreComparable (left right : Value) : Prop :=
  ∃ order, left.compare? right = some order ∧ (left.equal right = true ↔ order = .eq)

/-- Whether a number is equal to a value is decided by their order. -/
theorem equal_eq_of_isNumber
    {left : Value}
    (isNumber : left.isNumber = true)
    (right : Value) :
    left.equal right = (left.compare? right == some .eq) := by
  unfold equal
  split
  · cases isNumber
  · cases isNumber
  · rw [if_pos isNumber]

/-- Values with an order are equal exactly if it says so. -/
theorem equal_iff_of_ordered
    {left right : Value}
    {order : Ordering}
    (ordered : left.compare? right = some order) :
    left.equal right = true ↔ order = .eq := by
  cases left with
  | int _ | float _ | decimal _ =>
      rw [equal_eq_of_isNumber rfl, ordered, beq_iff_eq, Option.some.injEq]
  | null | geometry _ | association _ => cases ordered
  | bool _ =>
      cases right with
      | bool _ =>
          cases ordered
          simp [equal, same, isNumber]
      | _ => cases ordered
  | string _ =>
      cases right with
      | string _ =>
          cases ordered
          simp [equal, same, isNumber]
      | _ => cases ordered
  | time _ =>
      cases right with
      | time _ =>
          cases ordered
          simp [equal, same, isNumber, TimeOfDay.compare_eq_iff]
      | _ => cases ordered
  | date _ =>
      cases right with
      | date _ =>
          cases ordered
          simp [equal, same, isNumber, Date.compare_eq_iff]
      | dateTime _ =>
          cases ordered
          rw [equal, beq_iff_eq, DateTime.compare_eq_iff, eq_comm]
      | _ => cases ordered
  | dateTime _ =>
      cases right with
      | date _ =>
          cases ordered
          rw [equal, beq_iff_eq, DateTime.compare_eq_iff]
      | dateTime _ =>
          cases ordered
          simp [equal, same, isNumber, DateTime.compare_eq_iff]
      | _ => cases ordered

/-- Values with an order are comparable. -/
theorem AreComparable.of_ordered
    {left right : Value}
    {order : Ordering}
    (ordered : left.compare? right = some order) :
    left.AreComparable right :=
  ⟨order, ordered, equal_iff_of_ordered ordered⟩

/-- Floats that are numbers are comparable. -/
theorem AreComparable.ofFloats
    {left right : Binary64}
    (leftNumeric : Value.float left ≠ .float .nan)
    (rightNumeric : Value.float right ≠ .float .nan) :
    (Value.float left).AreComparable (.float right) := by
  have ordered : (left.compare? right).isSome := by
    rw [Binary64.compare?_isSome_iff]
    exact ⟨fun same => leftNumeric (congrArg _ same), fun same => rightNumeric (congrArg _ same)⟩
  obtain ⟨order, isOrder⟩ := Option.isSome_iff_exists.mp ordered
  exact .of_ordered isOrder

/-- A value that has an order with itself is equal to itself. -/
theorem AreComparable.equal_self
    {value : Value}
    (comparable : value.AreComparable value) :
    value.equal value = true := by
  obtain ⟨order, ordered, isEqual⟩ := comparable
  have turned := compare?_swap value value
  rw [ordered, Option.map_some, Option.some.injEq] at turned
  refine isEqual.mpr ?_
  cases order with
  | eq => rfl
  | lt | gt => cases turned

/-- Two values of a column of one known type are comparable. -/
theorem Fits.areComparable
    {column : Column}
    {left right : Value}
    (leftFits : left.Fits column)
    (rightFits : right.Fits column)
    (own : column.isRelationship = false)
    (plain : column.isGeometry = false)
    (known : column.type ≠ .unknown)
    (leftPresent : left ≠ .null)
    (rightPresent : right ≠ .null)
    (leftNumeric : left ≠ .float .nan)
    (rightNumeric : right ≠ .float .nan) :
    left.AreComparable right := by
  cases leftFits with
  | null => exact absurd rfl leftPresent
  | association related => simp [own] at related
  | geometry _ geometric => simp [plain] at geometric
  | unknown _ type => exact absurd type known
  | bool _ type =>
      cases rightFits with
      | bool => exact .of_ordered rfl
      | _ => simp_all
  | int _ type =>
      cases rightFits with
      | int => exact .of_ordered rfl
      | _ => simp_all
  | decimal _ type exact_ =>
      cases rightFits with
      | decimal => exact .of_ordered rfl
      | _ => simp_all
  | float _ type inexact =>
      cases rightFits with
      | float => exact .ofFloats leftNumeric rightNumeric
      | _ => simp_all
  | string _ type =>
      cases rightFits with
      | string => exact .of_ordered rfl
      | _ => simp_all
  | date _ type =>
      cases rightFits with
      | date => exact .of_ordered rfl
      | _ => simp_all
  | dateTime _ type =>
      cases rightFits with
      | dateTime => exact .of_ordered rfl
      | _ => simp_all
  | time _ type =>
      cases rightFits with
      | time => exact .of_ordered rfl
      | _ => simp_all

end Value

end GeoTables
