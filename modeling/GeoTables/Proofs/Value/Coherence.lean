import GeoTables.Proofs.Value.Comparison

/-!
# Equality and order of values

Equality and order of two values are decided apart, each by cases on the two
variants, and numbers of different kinds are brought to one kind on the way.
They say the same of all pairs of values: the order is turned round when the
values change places, equality stays as it is, and where there is an order, the
values are equal exactly if it says so.  Values without an order are equal if they
have one variant with the same content, and then they are identical.

Numbers are identical when they are one number.  The two floating-point zeros
are, and so are decimals that differ in the zeros at their ends.  A value is
*reduced* when each number in it has the first of its spellings; identical
values are those that are reduced to one and the same value.
-/

namespace GeoTables

/-! ## Reduced numbers -/

namespace Binary64

/-- The number without the sign of a zero. -/
def reduced : Binary64 → Binary64
  | .nan => .nan
  | .number negative rank => .number (negative && rank.val != 0) rank

/-- Numbers that are equal differ at most by the sign of a zero. -/
theorem reduced_eq_of_same
    {left right : Binary64}
    (same : left.same right = true) :
    left.reduced = right.reduced := by
  cases left with
  | nan => cases same
  | number negative rank =>
      cases right with
      | nan => cases same
      | number negative' rank' =>
          simp only [Binary64.same, compare?, place?, beq_iff_eq] at same
          have places := compare_eq_iff_eq.mp (Option.some.inj same)
          have ranks : rank = rank' := by
            apply Fin.ext
            split_ifs at places <;> omega
          subst ranks
          simp only [reduced, number.injEq, and_true]
          by_cases zero : rank.val = 0
          · simp [zero]
          · cases negative <;> cases negative' <;> simp_all

theorem same_comm (left right : Binary64) : left.same right = right.same left := by
  rw [same, same, compare?_swap left right]
  cases left.compare? right with
  | none => rfl
  | some order => cases order <;> rfl

end Binary64

namespace Decimal

/-- Zeros at the end do not show in what is left of a decimal without them. -/
theorem stripZeros_mul_pow
    (coefficient : Int)
    (scale zeros : Nat) :
    stripZeros (coefficient * 10 ^ zeros) (scale + zeros) = stripZeros coefficient scale := by
  induction zeros with
  | zero => rw [pow_zero, Int.mul_one, Nat.add_zero]
  | succ zeros induction =>
      have split : coefficient * 10 ^ (zeros + 1) = coefficient * 10 ^ zeros * 10 := by
        rw [pow_succ, Int.mul_assoc]
      rw [split, ← Nat.add_assoc, stripZeros, if_pos (Int.mul_emod_left _ _),
        Int.mul_ediv_cancel _ (by decide), induction]

/-- Leaving zeros out makes neither the coefficient nor the scale greater. -/
theorem stripZeros_le (coefficient : Int) (scale : Nat) :
    (stripZeros coefficient scale).1.natAbs ≤ coefficient.natAbs ∧
      (stripZeros coefficient scale).2 ≤ scale := by
  induction scale generalizing coefficient with
  | zero => exact ⟨Nat.le_refl _, Nat.le_refl _⟩
  | succ scale induction =>
      rw [stripZeros]
      split
      · obtain ⟨coefficients, scales⟩ := induction (coefficient / 10)
        omega
      · exact ⟨Nat.le_refl _, Nat.le_refl _⟩

/-- The decimal without zeros at its end. -/
def reduced (value : Decimal) : Decimal where
  coefficient := (stripZeros value.coefficient value.scale).1
  scale := (stripZeros value.coefficient value.scale).2
  coefficient_lt := Nat.lt_of_le_of_lt (stripZeros_le _ _).1 value.coefficient_lt
  scale_le := Nat.le_trans (stripZeros_le _ _).2 value.scale_le

/-- Of two decimals with one value, the one with more places has zeros at its end. -/
theorem reduced_eq_of_le
    {left right : Decimal}
    (same : left.compare right = .eq)
    (ordered : left.scale ≤ right.scale) :
    left.reduced = right.reduced := by
  obtain ⟨zeros, places⟩ := Nat.exists_eq_add_of_le ordered
  have positive : (10 : Int) ^ left.scale ≠ 0 := pow_ne_zero _ (by decide)
  have values := compare_eq_iff_eq.mp same
  have longer : right.coefficient = left.coefficient * 10 ^ zeros := by
    rw [places, pow_add, Int.mul_comm (10 ^ left.scale), ← Int.mul_assoc] at values
    exact (Int.eq_of_mul_eq_mul_right positive values).symm
  have stripped :
      stripZeros right.coefficient right.scale = stripZeros left.coefficient left.scale := by
    rw [longer, places, stripZeros_mul_pow]
  simp only [reduced, stripped]

theorem compare_eq_comm {left right : Decimal} :
    left.compare right = .eq ↔ right.compare left = .eq := by
  rw [compare_swap right left]
  cases right.compare left <;> decide

/-- Decimals with one value differ at most by zeros at their ends. -/
theorem reduced_eq_of_compare
    {left right : Decimal}
    (same : left.compare right = .eq) :
    left.reduced = right.reduced := by
  rcases Nat.le_total left.scale right.scale with ordered | ordered
  · exact reduced_eq_of_le same ordered
  · exact (reduced_eq_of_le (compare_eq_comm.mp same) ordered).symm

end Decimal

/-! ## Geometries -/

section Lists

variable {Member Form : Type} {same : Member → Member → Bool}

theorem agree_comm
    (comm : ∀ left right, same left right = same right left)
    (lefts rights : List Member) :
    agree same lefts rights = agree same rights lefts := by
  induction lefts generalizing rights with
  | nil => cases rights <;> rfl
  | cons left lefts induction =>
      cases rights with
      | nil => rfl
      | cons right rights => rw [agree, agree, comm, induction]

/-- Members that agree pairwise have the same forms if members that agree have. -/
theorem map_eq_of_agree
    {form : Member → Form}
    (own : ∀ left right, same left right = true → form left = form right)
    {lefts rights : List Member}
    (agrees : agree same lefts rights = true) :
    lefts.map form = rights.map form := by
  induction lefts generalizing rights with
  | nil =>
      cases rights with
      | nil => rfl
      | cons _ _ => cases agrees
  | cons left lefts induction =>
      cases rights with
      | nil => cases agrees
      | cons right rights =>
          rw [agree, Bool.and_eq_true] at agrees
          rw [List.map_cons, List.map_cons, own left right agrees.1, induction agrees.2]

end Lists

namespace Coordinate

/-- The position without the signs of zeros. -/
def reduced (position : Coordinate) : Coordinate := ⟨position.x.reduced, position.y.reduced⟩

theorem same_comm (left right : Coordinate) : left.same right = right.same left := by
  rw [same, same, Binary64.same_comm left.x, Binary64.same_comm left.y]

theorem reduced_eq_of_same
    {left right : Coordinate}
    (same : left.same right = true) :
    left.reduced = right.reduced := by
  rw [Coordinate.same, Bool.and_eq_true] at same
  rw [reduced, reduced, Binary64.reduced_eq_of_same same.1, Binary64.reduced_eq_of_same same.2]

end Coordinate

namespace Path

/-- The path without the signs of zeros. -/
def reduced (path : Path) : Path := path.map Coordinate.reduced

theorem same_comm (left right : Path) : left.same right = right.same left :=
  agree_comm Coordinate.same_comm left right

theorem reduced_eq_of_same
    {left right : Path}
    (same : left.same right = true) :
    left.reduced = right.reduced :=
  map_eq_of_agree @Coordinate.reduced_eq_of_same same

end Path

namespace Polygon

/-- The polygon without the signs of zeros. -/
def reduced (area : Polygon) : Polygon :=
  ⟨Path.reduced area.exterior, area.interiors.map Path.reduced⟩

theorem same_comm (left right : Polygon) : left.same right = right.same left := by
  rw [same, same, Path.same_comm, agree_comm Path.same_comm]

theorem reduced_eq_of_same
    {left right : Polygon}
    (same : left.same right = true) :
    left.reduced = right.reduced := by
  rw [Polygon.same, Bool.and_eq_true] at same
  rw [reduced, reduced, Path.reduced_eq_of_same same.1,
    map_eq_of_agree @Path.reduced_eq_of_same same.2]

end Polygon

namespace Geometry

mutual

/-- The geometry without the signs of zeros. -/
def reduced : Geometry → Geometry
  | .point position => .point position.reduced
  | .segment start stop => .segment start.reduced stop.reduced
  | .lineString path => .lineString (Path.reduced path)
  | .polygon area => .polygon area.reduced
  | .multiPoint positions => .multiPoint (positions.map Coordinate.reduced)
  | .multiLineString paths => .multiLineString (paths.map Path.reduced)
  | .multiPolygon areas => .multiPolygon (areas.map Polygon.reduced)
  | .collection members => .collection (reducedMembers members)
  | .rectangle low high => .rectangle low.reduced high.reduced
  | .triangle first second third => .triangle first.reduced second.reduced third.reduced

/-- The geometries of a list without the signs of zeros. -/
def reducedMembers : List Geometry → List Geometry
  | [] => []
  | member :: rest => reduced member :: reducedMembers rest

end

mutual

theorem same_comm : ∀ left right : Geometry, left.same right = right.same left
  | .point _, right => by
      cases right <;> simp only [same, Coordinate.same_comm]
  | .segment _ _, right => by
      cases right <;> simp only [same, Coordinate.same_comm]
  | .lineString _, right => by
      cases right <;> simp only [same, Path.same_comm]
  | .polygon _, right => by
      cases right <;> simp only [same, Polygon.same_comm]
  | .multiPoint _, right => by
      cases right <;> simp only [same, agree_comm Coordinate.same_comm]
  | .multiLineString _, right => by
      cases right <;> simp only [same, agree_comm Path.same_comm]
  | .multiPolygon _, right => by
      cases right <;> simp only [same, agree_comm Polygon.same_comm]
  | .collection lefts, right => by
      cases right with
      | collection rights => exact sameMembers_comm lefts rights
      | _ => rfl
  | .rectangle _ _, right => by
      cases right <;> simp only [same, Coordinate.same_comm]
  | .triangle _ _ _, right => by
      cases right <;> simp only [same, Coordinate.same_comm]

theorem sameMembers_comm :
    ∀ lefts rights : List Geometry, sameMembers lefts rights = sameMembers rights lefts
  | [], rights => by cases rights <;> rfl
  | left :: lefts, rights => by
      cases rights with
      | nil => rfl
      | cons right rights =>
          rw [sameMembers, sameMembers, same_comm left right, sameMembers_comm lefts rights]

end

mutual

/-- Geometries with the same coordinates differ at most by the signs of zeros. -/
theorem reduced_eq_of_same :
    ∀ {left right : Geometry}, left.same right = true → left.reduced = right.reduced
  | .point _, right, same => by
      cases right with
      | point _ => exact congrArg point (Coordinate.reduced_eq_of_same same)
      | _ => cases same
  | .segment _ _, right, same => by
      cases right with
      | segment _ _ =>
          rw [Geometry.same, Bool.and_eq_true] at same
          rw [reduced, reduced, Coordinate.reduced_eq_of_same same.1,
            Coordinate.reduced_eq_of_same same.2]
      | _ => cases same
  | .lineString _, right, same => by
      cases right with
      | lineString _ => exact congrArg lineString (Path.reduced_eq_of_same same)
      | _ => cases same
  | .polygon _, right, same => by
      cases right with
      | polygon _ => exact congrArg polygon (Polygon.reduced_eq_of_same same)
      | _ => cases same
  | .multiPoint _, right, same => by
      cases right with
      | multiPoint _ =>
          exact congrArg multiPoint
            (map_eq_of_agree @Coordinate.reduced_eq_of_same same)
      | _ => cases same
  | .multiLineString _, right, same => by
      cases right with
      | multiLineString _ =>
          exact congrArg multiLineString
            (map_eq_of_agree @Path.reduced_eq_of_same same)
      | _ => cases same
  | .multiPolygon _, right, same => by
      cases right with
      | multiPolygon _ =>
          exact congrArg multiPolygon
            (map_eq_of_agree @Polygon.reduced_eq_of_same same)
      | _ => cases same
  | .collection _, right, same => by
      cases right with
      | collection _ => exact congrArg collection (reducedMembers_eq_of_same same)
      | _ => cases same
  | .rectangle _ _, right, same => by
      cases right with
      | rectangle _ _ =>
          rw [Geometry.same, Bool.and_eq_true] at same
          rw [reduced, reduced, Coordinate.reduced_eq_of_same same.1,
            Coordinate.reduced_eq_of_same same.2]
      | _ => cases same
  | .triangle _ _ _, right, same => by
      cases right with
      | triangle _ _ _ =>
          rw [Geometry.same, Bool.and_eq_true, Bool.and_eq_true] at same
          rw [reduced, reduced, Coordinate.reduced_eq_of_same same.1.1,
            Coordinate.reduced_eq_of_same same.1.2, Coordinate.reduced_eq_of_same same.2]
      | _ => cases same

theorem reducedMembers_eq_of_same :
    ∀ {lefts rights : List Geometry},
      sameMembers lefts rights = true → reducedMembers lefts = reducedMembers rights
  | [], rights, same => by
      cases rights with
      | nil => rfl
      | cons _ _ => cases same
  | left :: lefts, rights, same => by
      cases rights with
      | nil => cases same
      | cons right rights =>
          rw [sameMembers, Bool.and_eq_true] at same
          rw [reducedMembers, reducedMembers, reduced_eq_of_same same.1,
            reducedMembers_eq_of_same same.2]

end

end Geometry

/-! ## Values -/

namespace Value

mutual

/-- The value with reduced numbers: zeros have no sign, and decimals no zeros at the end. -/
def reduced : Value → Value
  | .float value => .float value.reduced
  | .decimal value => .decimal value.reduced
  | .geometry value => .geometry value.reduced
  | .association keys => .association (reducedKeys keys)
  | value => value

/-- The keys of a list with reduced numbers. -/
def reducedKeys : List (List Value) → List (List Value)
  | [] => []
  | key :: rest => reducedKey key :: reducedKeys rest

/-- The components of a key with reduced numbers. -/
def reducedKey : List Value → List Value
  | [] => []
  | component :: rest => reduced component :: reducedKey rest

end

@[simp]
theorem typeName_reduced (value : Value) : value.reduced.typeName = value.typeName := by
  cases value <;> rfl

mutual

theorem same_comm : ∀ left right : Value, left.same right = right.same left
  | .null, right | .bool _, right | .int _, right | .string _, right | .date _, right
  | .dateTime _, right | .time _, right => by
      cases right <;> simp only [same, Bool.beq_comm]
  | .float _, right => by
      cases right <;> simp only [same, Binary64.same_comm]
  | .decimal left, right => by
      cases right with
      | decimal right =>
          rw [same, same, Bool.eq_iff_iff, beq_iff_eq, beq_iff_eq, Decimal.compare_eq_comm]
      | _ => rfl
  | .geometry _, right => by
      cases right <;> simp only [same, Geometry.same_comm]
  | .association lefts, right => by
      cases right with
      | association rights => exact sameKeys_comm lefts rights
      | _ => rfl

theorem sameKeys_comm :
    ∀ lefts rights : List (List Value), sameKeys lefts rights = sameKeys rights lefts
  | [], rights => by cases rights <;> rfl
  | left :: lefts, rights => by
      cases rights with
      | nil => rfl
      | cons right rights =>
          rw [sameKeys, sameKeys, sameKey_comm left right, sameKeys_comm lefts rights]

theorem sameKey_comm :
    ∀ lefts rights : List Value, sameKey lefts rights = sameKey rights lefts
  | [], rights => by cases rights <;> rfl
  | left :: lefts, rights => by
      cases rights with
      | nil => rfl
      | cons right rights =>
          rw [sameKey, sameKey, same_comm left right, sameKey_comm lefts rights]

end

mutual

/-- Values of one variant with one content are reduced to one value. -/
theorem reduced_eq_of_same :
    ∀ {left right : Value}, left.same right = true → left.reduced = right.reduced
  | .null, right, same | .bool _, right, same | .int _, right, same | .string _, right, same
  | .date _, right, same | .dateTime _, right, same | .time _, right, same => by
      cases right <;> simp_all [Value.same]
  | .float _, right, same => by
      cases right with
      | float _ => exact congrArg float (Binary64.reduced_eq_of_same same)
      | _ => cases same
  | .decimal _, right, same => by
      cases right with
      | decimal _ =>
          rw [Value.same, beq_iff_eq] at same
          exact congrArg decimal (Decimal.reduced_eq_of_compare same)
      | _ => cases same
  | .geometry _, right, same => by
      cases right with
      | geometry _ => exact congrArg geometry (Geometry.reduced_eq_of_same same)
      | _ => cases same
  | .association _, right, same => by
      cases right with
      | association _ => exact congrArg association (reducedKeys_eq_of_same same)
      | _ => cases same

theorem reducedKeys_eq_of_same :
    ∀ {lefts rights : List (List Value)},
      sameKeys lefts rights = true → reducedKeys lefts = reducedKeys rights
  | [], rights, same => by
      cases rights with
      | nil => rfl
      | cons _ _ => cases same
  | left :: lefts, rights, same => by
      cases rights with
      | nil => cases same
      | cons right rights =>
          rw [sameKeys, Bool.and_eq_true] at same
          rw [reducedKeys, reducedKeys, reducedKey_eq_of_same same.1,
            reducedKeys_eq_of_same same.2]

theorem reducedKey_eq_of_same :
    ∀ {lefts rights : List Value},
      sameKey lefts rights = true → reducedKey lefts = reducedKey rights
  | [], rights, same => by
      cases rights with
      | nil => rfl
      | cons _ _ => cases same
  | left :: lefts, rights, same => by
      cases rights with
      | nil => cases same
      | cons right rights =>
          rw [sameKey, Bool.and_eq_true] at same
          rw [reducedKey, reducedKey, reduced_eq_of_same same.1, reducedKey_eq_of_same same.2]

end

/-! ## Equality and order -/

/-- Values without an order are equal exactly if they are the same. -/
theorem equal_eq_same_of_unordered
    {left right : Value}
    (unordered : left.compare? right = none) :
    left.equal right = left.same right := by
  cases left with
  | null | bool _ | string _ | time _ | geometry _ | association _ => rfl
  | date _ =>
      cases right with
      | dateTime _ => cases unordered
      | _ => rfl
  | dateTime _ =>
      cases right with
      | date _ => cases unordered
      | _ => rfl
  | int _ =>
      rw [equal_eq_of_isNumber rfl, unordered]
      cases right with
      | int _ => cases unordered
      | _ => rfl
  | decimal _ =>
      rw [equal_eq_of_isNumber rfl, unordered]
      cases right with
      | decimal _ => cases unordered
      | _ => rfl
  | float _ =>
      cases right with
      | float _ => rfl
      | _ =>
          rw [equal_eq_of_isNumber rfl, unordered]
          rfl

/-- Equality does not depend on which value comes first. -/
theorem equal_comm (left right : Value) : left.equal right = right.equal left := by
  have turned := compare?_swap left right
  cases ordered : left.compare? right with
  | none =>
      rw [ordered, Option.map_none] at turned
      rw [equal_eq_same_of_unordered ordered, equal_eq_same_of_unordered turned, same_comm]
  | some order =>
      rw [ordered, Option.map_some] at turned
      rw [Bool.eq_iff_iff, equal_iff_of_ordered ordered, equal_iff_of_ordered turned]
      cases order <;> decide

/-- The two values have one variant and, number by number, one content. -/
def AreIdentical (left right : Value) : Prop :=
  left.typeName = right.typeName ∧ left.reduced = right.reduced

/-- What equality and order of two values say of one another. -/
structure AreCoherent (left right : Value) : Prop where
  /-- The order is turned round with the values. -/
  turned : right.compare? left = (left.compare? right).map Ordering.swap
  /-- Either both ways round there is an order, or neither way. -/
  comparable : right.compare? left = none ↔ left.compare? right = none
  /-- Equality is the same both ways round. -/
  symmetric : right.equal left = left.equal right
  /-- Where there is an order, it decides equality. -/
  ordered :
    ∀ order, left.compare? right = some order → (left.equal right = true ↔ order = .eq)
  /-- Where there is none, values are equal if they have one variant with the same content. -/
  same : left.compare? right = none → left.equal right = left.same right
  /-- Such values are identical. -/
  unordered :
    left.compare? right = none → left.equal right = true → left.AreIdentical right

/-- Equality and order agree on all pairs of values. -/
theorem equality_coherent_with_order (left right : Value) : left.AreCoherent right where
  turned := compare?_swap left right
  comparable := by
    rw [compare?_swap left right, Option.map_eq_none_iff]
  symmetric := equal_comm right left
  ordered := fun _ ordered => equal_iff_of_ordered ordered
  same := equal_eq_same_of_unordered
  unordered := by
    intro unordered isEqual
    rw [equal_eq_same_of_unordered unordered] at isEqual
    have reduced := reduced_eq_of_same isEqual
    refine ⟨?_, reduced⟩
    rw [← typeName_reduced left, reduced, typeName_reduced]

end Value

end GeoTables
