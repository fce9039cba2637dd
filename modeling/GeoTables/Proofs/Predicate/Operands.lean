import GeoTables.Predicate.Basic

/-!
# Shape and operands of a predicate

The operands of a predicate are the values that its leaves compare with.  What
is left without them is its shape: the tree, the columns and operators, the
number of members of every list, and the reference systems and parts of the
spatial tests.  Shape and operands together determine the predicate, except for
the supplied geometries of tests, whose whole text is the operand.
-/

namespace GeoTables.Predicate

mutual

/-- The operands of the leaves, from left to right; patterns and geometries are texts. -/
def operands : Predicate → List Value
  | .and children | .or children => operandsOf children
  | .compare _ _ operand => [operand]
  | .like _ pattern => [.string pattern]
  | .isIn _ members => members
  | .isNull _ | .isNotNull _ => []
  | .spatial clause => [.string clause.wkt]

/-- The operands of a list of predicates. -/
def operandsOf : List Predicate → List Value
  | [] => []
  | child :: rest => operands child ++ operandsOf rest

end

mutual

/-- The shape of a predicate: the predicate with blanks in place of its operands. -/
def shape : Predicate → Predicate
  | .and children => .and (shapes children)
  | .or children => .or (shapes children)
  | .compare column comparison _ => .compare column comparison .null
  | .like column _ => .like column ""
  | .isIn column members => .isIn column (members.map fun _ => .null)
  | .isNull column => .isNull column
  | .isNotNull column => .isNotNull column
  | .spatial clause => .spatial { clause with geometry := default, wkt := "" }

/-- The shapes of a list of predicates. -/
def shapes : List Predicate → List Predicate
  | [] => []
  | child :: rest => shape child :: shapes rest

end

mutual

/-- The predicate with a blank in place of the supplied geometry of every test. -/
def withoutGeometries : Predicate → Predicate
  | .and children => .and (allWithoutGeometries children)
  | .or children => .or (allWithoutGeometries children)
  | .compare column comparison operand => .compare column comparison operand
  | .like column pattern => .like column pattern
  | .isIn column members => .isIn column members
  | .isNull column => .isNull column
  | .isNotNull column => .isNotNull column
  | .spatial clause => .spatial { clause with geometry := default }

/-- The predicates of a list without the supplied geometries. -/
def allWithoutGeometries : List Predicate → List Predicate
  | [] => []
  | child :: rest => withoutGeometries child :: allWithoutGeometries rest

end

mutual

/-- A shape has as many blanks as there are operands. -/
theorem length_operands_shape :
    ∀ predicate : Predicate, predicate.shape.operands.length = predicate.operands.length
  | .and children | .or children => by
      simpa only [shape, operands] using length_operandsOf_shapes children
  | .compare _ _ _ | .like _ _ | .isNull _ | .isNotNull _ | .spatial _ => rfl
  | .isIn _ members => by
      simp [shape, operands]

theorem length_operandsOf_shapes :
    ∀ children : List Predicate,
      (operandsOf (shapes children)).length = (operandsOf children).length
  | [] => rfl
  | child :: rest => by
      simp [shapes, operandsOf, length_operands_shape child, length_operandsOf_shapes rest]

end

/-- Predicates of the same shape have the same number of operands. -/
theorem length_operands_of_shape
    {left right : Predicate}
    (sameShape : left.shape = right.shape) :
    left.operands.length = right.operands.length := by
  rw [← length_operands_shape left, sameShape, length_operands_shape]

mutual

/-- Shape and operands determine a predicate up to the supplied geometries. -/
theorem withoutGeometries_eq_of_shape :
    ∀ {left right : Predicate},
      left.shape = right.shape →
      left.operands = right.operands →
      left.withoutGeometries = right.withoutGeometries
  | .and lefts, right, sameShape, sameOperands => by
      cases right with
      | and rights =>
          exact congrArg Predicate.and
            (allWithoutGeometries_eq_of_shapes (Predicate.and.inj sameShape) sameOperands)
      | _ => cases sameShape
  | .or lefts, right, sameShape, sameOperands => by
      cases right with
      | or rights =>
          exact congrArg Predicate.or
            (allWithoutGeometries_eq_of_shapes (Predicate.or.inj sameShape) sameOperands)
      | _ => cases sameShape
  | .compare _ _ _, right, sameShape, sameOperands => by
      cases right with
      | compare _ _ _ =>
          cases sameShape
          cases sameOperands
          rfl
      | _ => cases sameShape
  | .like _ _, right, sameShape, sameOperands => by
      cases right with
      | like _ _ =>
          cases sameShape
          cases sameOperands
          rfl
      | _ => cases sameShape
  | .isIn _ _, right, sameShape, sameOperands => by
      cases right with
      | isIn _ _ =>
          obtain ⟨rfl, _⟩ := Predicate.isIn.inj sameShape
          cases sameOperands
          rfl
      | _ => cases sameShape
  | .isNull _, right, sameShape, _ => by
      cases right with
      | isNull _ =>
          cases sameShape
          rfl
      | _ => cases sameShape
  | .isNotNull _, right, sameShape, _ => by
      cases right with
      | isNotNull _ =>
          cases sameShape
          rfl
      | _ => cases sameShape
  | .spatial _, right, sameShape, sameOperands => by
      cases right with
      | spatial _ =>
          simp only [shape, operands, Predicate.spatial.injEq, SpatialClause.mk.injEq,
            List.cons.injEq, Value.string.injEq, and_true] at sameShape sameOperands
          simp [withoutGeometries, sameShape, sameOperands]
      | _ => cases sameShape

theorem allWithoutGeometries_eq_of_shapes :
    ∀ {lefts rights : List Predicate},
      shapes lefts = shapes rights →
      operandsOf lefts = operandsOf rights →
      allWithoutGeometries lefts = allWithoutGeometries rights
  | [], rights, sameShapes, _ => by
      cases rights with
      | nil => rfl
      | cons _ _ => cases sameShapes
  | left :: lefts, rights, sameShapes, sameOperands => by
      cases rights with
      | nil => cases sameShapes
      | cons right rights =>
          obtain ⟨first, others⟩ := List.cons.inj sameShapes
          obtain ⟨own, further⟩ :=
            List.append_inj sameOperands (length_operands_of_shape first)
          rw [allWithoutGeometries, allWithoutGeometries,
            withoutGeometries_eq_of_shape first own,
            allWithoutGeometries_eq_of_shapes others further]

end

end GeoTables.Predicate
