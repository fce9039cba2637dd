import GeoTables.Proofs.Filter.Respelled
import GeoTables.Proofs.Predicate.AnyRelation

/-!
# Spatial clauses that entail each other

Clauses that differ in their spatial test alone become predicates that differ in
the test alone: they are split alike, and their supplied sides are the same.  A
record that satisfies such a clause satisfies it with every weaker test, whichever
way the clause is split, and whatever pairs of places two geometries are found to
meet in.  The latter is left open: predicates are evaluated here with any relation
between geometries, of which the one that is found on sample points is one.

A disjunction looks at its children only as far as it is open, so what is carried
through it is more than truth: where a child has an outcome at all, the child with
the weaker test has one too.
-/

namespace GeoTables

open Outcome (Carries)

/-- The clause with another test. -/
def SpatialClause.withTest (clause : SpatialClause) (test : SpatialTest) : SpatialClause :=
  { clause with test := test }

namespace Predicate

variable {relation : Geometry → Geometry → Relation} {record : Record}

theorem carries_holdsSpatiallyBy
    {stronger weaker : SpatialTest}
    (entails : stronger.Entails weaker)
    (clause : SpatialClause)
    (field : Value) :
    Carries (holdsSpatiallyBy relation (clause.withTest stronger) field)
      (holdsSpatiallyBy relation (clause.withTest weaker) field) := by
  intro outcome evaluated
  cases field with
  | geometry stored =>
      rw [holdsSpatiallyBy_geometry, Outcome.mapError_eq_ok] at evaluated
      obtain ⟨later, isLater, follows⟩ := Geometry.carries_relateBy entails outcome evaluated
      refine ⟨later, ?_, follows⟩
      rw [holdsSpatiallyBy_geometry, Outcome.mapError_eq_ok]
      exact isLater
  | _ => exact ⟨outcome, evaluated, id⟩

/-- A geometry that touches the supplied side does not lie within it. -/
theorem not_within_of_touches
    {clause : SpatialClause}
    {field : Value}
    (touches : holdsSpatiallyBy relation (clause.withTest .touches) field = .ok true) :
    holdsSpatiallyBy relation (clause.withTest .within) field = .ok false := by
  cases field with
  | geometry stored =>
      rw [holdsSpatiallyBy_geometry, Outcome.mapError_eq_ok] at touches ⊢
      exact Geometry.not_relateBy_within_of_touches touches
  | _ => rfl

/-- A disjunction of children with weaker tests has an outcome where one with stronger tests has,
    and holds where that one does. -/
theorem carries_someHoldBy
    {stronger weaker : List Predicate}
    (each : List.Forall₂ (fun left right =>
      Carries (left.holdsBy relation record) (right.holdsBy relation record)) stronger weaker) :
    Carries (someHoldBy relation stronger record) (someHoldBy relation weaker record) := by
  induction each with
  | nil => exact fun outcome isOutcome => ⟨outcome, isOutcome, id⟩
  | cons head tail induction =>
      intro outcome evaluated
      rw [someHoldBy, Outcome.bind_eq_ok] at evaluated
      obtain ⟨value, isValue, further⟩ := evaluated
      obtain ⟨later, isLater, follows⟩ := head value isValue
      rw [someHoldBy, isLater]
      cases value with
      | true =>
          rw [follows rfl]
          exact ⟨true, rfl, fun _ => rfl⟩
      | false =>
          cases later with
          | true => exact ⟨true, rfl, fun _ => rfl⟩
          | false => exact induction outcome further

end Predicate

/-! ## Clauses with a weaker test -/

@[simp]
theorem SpatialTest.ofSpelling?_spelling (test : SpatialTest) :
    ofSpelling? test.spelling = some test := by
  cases test <;> decide +kernel

namespace Clause

variable
  {relation : Geometry → Geometry → Relation}
  {record : Record}
  {column : Column}
  {srid : Int}
  {geometry : Geometry}

/-- Leaves of one clause with different tests differ in the test alone. -/
theorem exists_spatialLeaf_eq
    (column : Column)
    (srid : Int)
    (geometry : Geometry)
    (storedPart valuePart : Option Dimension) :
    ∃ clause : SpatialClause, ∀ test,
      spatialLeaf test column srid geometry storedPart valuePart =
        .spatial (clause.withTest test) :=
  ⟨⟨.within, column.name, srid, storedPart, valuePart, _, geometry.wkt⟩, fun _ => rfl⟩

theorem carries_spatialLeaf
    {stronger weaker : SpatialTest}
    (entails : stronger.Entails weaker)
    (storedPart valuePart : Option Dimension) :
    Carries
      ((spatialLeaf stronger column srid geometry storedPart valuePart).holdsBy relation record)
      ((spatialLeaf weaker column srid geometry storedPart valuePart).holdsBy relation record) := by
  obtain ⟨clause, leaves⟩ := exists_spatialLeaf_eq column srid geometry storedPart valuePart
  rw [leaves, leaves]
  exact Predicate.carries_holdsSpatiallyBy entails clause (record.get clause.column)

/-- However the clause is split, weaker leaves make a weaker clause. -/
theorem carries_splitLeaves
    {stronger weaker : Option Dimension → Option Dimension → Predicate}
    (each : ∀ storedPart valuePart,
      Carries ((stronger storedPart valuePart).holdsBy relation record)
        ((weaker storedPart valuePart).holdsBy relation record))
    (case : GeometryCase) :
    Carries ((splitLeaves case stronger).holdsBy relation record)
      ((splitLeaves case weaker).holdsBy relation record) := by
  have parts (stored supplied : Dimension → Option Dimension) :
      Carries
        (Predicate.someHoldBy relation
          (Dimension.all.map fun part => stronger (stored part) (supplied part)) record)
        (Predicate.someHoldBy relation
          (Dimension.all.map fun part => weaker (stored part) (supplied part)) record) := by
    apply Predicate.carries_someHoldBy
    rw [List.forall₂_map_left_iff, List.forall₂_map_right_iff, List.forall₂_same]
    exact fun part _ => each (stored part) (supplied part)
  cases case with
  | direct => exact each none none
  | storedCollection => exact parts some fun _ => none
  | suppliedCollection => exact parts (fun _ => none) some
  | bothCollections => exact parts some some

variable {operators : OperatorTable} {table : Table} {text : String}

/-- If a clause compiles with one test, it does with each of them, and only the test differs. -/
theorem exists_leaves_of_compile
    (found : table.column? column.name = some column)
    (geometric : column.isGeometry = true)
    {test : SpatialTest}
    {predicate : Predicate}
    (compiled :
      (supplying column test.spelling text).compile operators table = .ok predicate) :
    ∃ srid geometry case,
      GeometryCase.classify? column text = some case ∧
        ∀ other : SpatialTest,
          (supplying column other.spelling text).compile operators table =
            .ok (splitLeaves case (spatialLeaf other column srid geometry)) := by
  obtain ⟨_, _, srid, geometry, own, _, operand, located, supplied, _⟩ :=
    (becomes_of_compile compiled).exists_supplied found geometric
  cases operand
  refine ⟨srid, geometry, _, if_pos geometric, fun other => ?_⟩
  have becomes : Becomes operators table (supplying column other.spelling text) _ :=
    .spatial found own geometric other.ofSpelling?_spelling rfl located supplied
  exact becomes.compile_eq_ok

/--
On a column of geometries a text that compiles with one spatial test compiles with
all of them.  On every record, and by whatever relation between geometries the
tests are decided, a clause that holds with WITHIN holds with COVERED_BY, and one
that holds with COVERED_BY or TOUCHES holds with INTERSECTS; unless the clause is
split, it does not hold with both TOUCHES and WITHIN.  The relation that is found
on sample points is one of these.
-/
theorem spatial_tests_ordered
    (found : table.column? column.name = some column)
    (geometric : column.isGeometry = true)
    {test : SpatialTest}
    {predicate : Predicate}
    (compiled :
      (supplying column test.spelling text).compile operators table = .ok predicate) :
    ∃ leaf : SpatialTest → Predicate,
      (∀ other, (supplying column other.spelling text).compile operators table =
        .ok (leaf other)) ∧
      (∀ (relation : Geometry → Geometry → Relation) (record : Record),
        ((leaf .within).holdsBy relation record = .ok true →
          (leaf .coveredBy).holdsBy relation record = .ok true) ∧
        ((leaf .coveredBy).holdsBy relation record = .ok true →
          (leaf .intersects).holdsBy relation record = .ok true) ∧
        ((leaf .touches).holdsBy relation record = .ok true →
          (leaf .intersects).holdsBy relation record = .ok true) ∧
        (GeometryCase.classify? column text = some .direct →
          ¬((leaf .touches).holdsBy relation record = .ok true ∧
            (leaf .within).holdsBy relation record = .ok true))) ∧
      ∀ other record, (leaf other).holdsBy Relation.of record = (leaf other).holds record := by
  obtain ⟨srid, geometry, case, classified, leaves⟩ :=
    exists_leaves_of_compile found geometric compiled
  refine ⟨_, leaves, fun relation record => ?_, fun other record => Predicate.holdsBy_of record _⟩
  have carries {stronger weaker : SpatialTest} (entails : stronger.Entails weaker) :=
    @carries_splitLeaves relation record _ _
      (@carries_spatialLeaf relation record column srid geometry _ _ entails) case
  refine ⟨(carries .within_coveredBy).eq_ok_true, (carries .coveredBy_intersects).eq_ok_true,
    (carries .touches_intersects).eq_ok_true, ?_⟩
  rintro direct ⟨touches, within⟩
  rw [classified] at direct
  cases direct
  obtain ⟨clause, single⟩ := exists_spatialLeaf_eq column srid geometry none none
  rw [splitLeaves, single] at touches within
  have outside := Predicate.not_within_of_touches touches
  exact Bool.noConfusion (Except.ok.inj (outside.symm.trans within))

/-- An area, with the reference system of the parcels in front of it. -/
def square : String :=
  "srid=2056; Polygon((0 0, 4 0, 4 4, 0 4))"

theorem spatial_tests_ordered_square :
    ∃ leaf : SpatialTest → Predicate,
      (∀ test, (supplying parcelsTable.columns[2] test.spelling square).compile .standard
        parcelsTable = .ok (leaf test)) ∧
      ∀ record,
        ((leaf .within).holds record = .ok true → (leaf .intersects).holds record = .ok true) ∧
        ¬((leaf .touches).holds record = .ok true ∧ (leaf .within).holds record = .ok true) := by
  have compiles :
      ((supplying parcelsTable.columns[2] SpatialTest.within.spelling square).compile .standard
        parcelsTable).toOption.isSome = true := by
    decide +kernel
  have direct : GeometryCase.classify? parcelsTable.columns[2] square = some .direct := by
    decide +kernel
  obtain ⟨predicate, compiled⟩ := Outcome.exists_eq_ok_of_isSome compiles
  obtain ⟨leaf, leaves, ordered, own⟩ := spatial_tests_ordered rfl rfl compiled
  refine ⟨leaf, leaves, fun record => ?_⟩
  obtain ⟨covered, intersects, _, apart⟩ := ordered Relation.of record
  simp only [own] at covered intersects apart
  exact ⟨fun within => intersects (covered within), apart direct⟩

end Clause

end GeoTables
