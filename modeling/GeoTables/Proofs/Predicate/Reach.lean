import GeoTables.Proofs.Geometry.Finite
import GeoTables.Proofs.Predicate.Tests

/-!
# Tests that an evaluation comes to

Children of a junction are looked at from left to right, and only as far as the
value is open.  A predicate therefore comes to a test on a record if every
conjunct before it holds there and no disjunct before it does.  Its evaluation
fails exactly if it comes to a test that fails.
-/

namespace GeoTables

namespace Predicate

/-- Evaluating the predicate on the record comes to the test. -/
inductive ComesTo (record : Record) : Predicate → SpatialClause → Prop where
  | test (clause : SpatialClause) : ComesTo record (.spatial clause) clause
  | conjunct
      {before after : List Predicate}
      {child : Predicate}
      {clause : SpatialClause}
      (open_ : ∀ earlier ∈ before, earlier.holds record = .ok true)
      (reached : ComesTo record child clause) :
      ComesTo record (.and (before ++ child :: after)) clause
  | disjunct
      {before after : List Predicate}
      {child : Predicate}
      {clause : SpatialClause}
      (open_ : ∀ earlier ∈ before, earlier.holds record = .ok false)
      (reached : ComesTo record child clause) :
      ComesTo record (.or (before ++ child :: after)) clause

variable {record : Record}

/-- A test that an evaluation comes to is one of the tests of the predicate. -/
theorem ComesTo.mem_tests
    {predicate : Predicate}
    {clause : SpatialClause}
    (reached : ComesTo record predicate clause) :
    clause ∈ predicate.tests := by
  induction reached with
  | test clause => simp [tests]
  | conjunct _ _ induction => simp [tests, testsOf_eq_flatMap, induction]
  | disjunct _ _ induction => simp [tests, testsOf_eq_flatMap, induction]

/-! ## Failures of junctions -/

/-- A conjunction fails with the first child that does not hold, if that fails. -/
theorem allHold_append
    {before rest : List Predicate}
    (open_ : ∀ earlier ∈ before, earlier.holds record = .ok true) :
    allHold (before ++ rest) record = allHold rest record := by
  induction before with
  | nil => rfl
  | cons earlier before induction =>
      have first : earlier.holds record = .ok true := open_ earlier (by simp)
      have others :=
        induction fun other member => open_ other (List.mem_cons_of_mem earlier member)
      rw [List.cons_append, allHold, first]
      exact others

theorem someHold_append
    {before rest : List Predicate}
    (open_ : ∀ earlier ∈ before, earlier.holds record = .ok false) :
    someHold (before ++ rest) record = someHold rest record := by
  induction before with
  | nil => rfl
  | cons earlier before induction =>
      have first : earlier.holds record = .ok false := open_ earlier (by simp)
      have others :=
        induction fun other member => open_ other (List.mem_cons_of_mem earlier member)
      rw [List.cons_append, someHold, first]
      exact others

/-- An evaluation that comes to a failing test fails with it. -/
theorem ComesTo.holds_eq_error
    {predicate : Predicate}
    {clause : SpatialClause}
    (reached : ComesTo record predicate clause)
    {failure : Failure}
    (fails : holdsSpatially clause (record.get clause.column) = .error failure) :
    predicate.holds record = .error failure := by
  induction reached with
  | test clause => exact fails
  | conjunct open_ _ induction =>
      rw [holds, allHold_append open_, allHold, induction fails]
      rfl
  | disjunct open_ _ induction =>
      rw [holds, someHold_append open_, someHold, induction fails]
      rfl

mutual

/-- An evaluation that fails has come to a failing test. -/
theorem exists_comesTo_of_holds_eq_error
    {failure : Failure} :
    ∀ {predicate : Predicate},
      predicate.holds record = .error failure →
      ∃ clause,
        ComesTo record predicate clause ∧
          holdsSpatially clause (record.get clause.column) = .error failure
  | .and children, fails => by
      obtain ⟨before, child, after, clause, rfl, open_, reached, own⟩ :=
        exists_conjunct_of_allHold_eq_error fails
      exact ⟨clause, .conjunct open_ reached, own⟩
  | .or children, fails => by
      obtain ⟨before, child, after, clause, rfl, open_, reached, own⟩ :=
        exists_disjunct_of_someHold_eq_error fails
      exact ⟨clause, .disjunct open_ reached, own⟩
  | .spatial clause, fails => ⟨clause, .test clause, fails⟩
  | .compare _ _ _, fails | .like _ _, fails | .isIn _ _, fails | .isNull _, fails
  | .isNotNull _, fails => by
      cases fails

theorem exists_conjunct_of_allHold_eq_error
    {failure : Failure} :
    ∀ {children : List Predicate},
      allHold children record = .error failure →
      ∃ before child after clause,
        children = before ++ child :: after ∧
          (∀ earlier ∈ before, earlier.holds record = .ok true) ∧
          ComesTo record child clause ∧
          holdsSpatially clause (record.get clause.column) = .error failure
  | [], fails => by
      cases fails
  | child :: rest, fails => by
      rw [allHold, Outcome.bind_eq_error] at fails
      rcases fails with own | ⟨value, holds, later⟩
      · obtain ⟨clause, reached, own⟩ := exists_comesTo_of_holds_eq_error own
        exact ⟨[], child, rest, clause, rfl, by simp, reached, own⟩
      · cases value with
        | false => cases later
        | true =>
            obtain ⟨before, found, after, clause, rfl, open_, reached, own⟩ :=
              exists_conjunct_of_allHold_eq_error later
            refine ⟨child :: before, found, after, clause, rfl, ?_, reached, own⟩
            simpa using ⟨holds, open_⟩

theorem exists_disjunct_of_someHold_eq_error
    {failure : Failure} :
    ∀ {children : List Predicate},
      someHold children record = .error failure →
      ∃ before child after clause,
        children = before ++ child :: after ∧
          (∀ earlier ∈ before, earlier.holds record = .ok false) ∧
          ComesTo record child clause ∧
          holdsSpatially clause (record.get clause.column) = .error failure
  | [], fails => by
      cases fails
  | child :: rest, fails => by
      rw [someHold, Outcome.bind_eq_error] at fails
      rcases fails with own | ⟨value, holds, later⟩
      · obtain ⟨clause, reached, own⟩ := exists_comesTo_of_holds_eq_error own
        exact ⟨[], child, rest, clause, rfl, by simp, reached, own⟩
      · cases value with
        | true => cases later
        | false =>
            obtain ⟨before, found, after, clause, rfl, open_, reached, own⟩ :=
              exists_disjunct_of_someHold_eq_error later
            refine ⟨child :: before, found, after, clause, rfl, ?_, reached, own⟩
            simpa using ⟨holds, open_⟩

end

end Predicate

/-! ## Tests that fail -/

/-- The stored side of a test, narrowed to the part that is tested. -/
def SpatialClause.storedSide (clause : SpatialClause) (stored : Geometry) : Geometry :=
  match clause.storedPart with
  | some dimension => stored.extract dimension
  | none => stored

/-- The supplied side of a test has a point and a coordinate that is not finite. -/
def SpatialClause.IsUnbounded (clause : SpatialClause) : Prop :=
  clause.geometry.isEmpty = false ∧ clause.geometry.isFinite = false

/-- The record has a geometry for the test, and the tested part of it has a point. -/
def Record.Offers (record : Record) (clause : SpatialClause) : Prop :=
  ∃ stored,
    record.get clause.column = .geometry stored ∧
      (clause.storedSide stored).isEmpty = false

/-- All geometries of the record have finite coordinates. -/
def Record.IsFinite (record : Record) : Prop :=
  ∀ name geometry, record.get name = .geometry geometry → geometry.isFinite = true

theorem SpatialClause.isFinite_storedSide
    {clause : SpatialClause}
    {stored : Geometry}
    (finite : stored.isFinite = true) :
    (clause.storedSide stored).isFinite = true := by
  unfold storedSide
  split
  · exact Geometry.isFinite_extract finite _
  · exact finite

namespace Predicate

theorem holdsSpatially_geometry
    {clause : SpatialClause}
    {stored : Geometry} :
    holdsSpatially clause (.geometry stored) =
      (Geometry.relate clause.test (clause.storedSide stored) clause.geometry).mapError
        fun fault => .spatial clause.column none fault := by
  unfold holdsSpatially SpatialClause.storedSide
  cases clause.storedPart with
  | none =>
      dsimp only [Value.geometry?]
      cases Geometry.relate clause.test stored clause.geometry <;> rfl
  | some dimension =>
      dsimp only [Value.geometry?]
      cases Geometry.relate clause.test (stored.extract dimension) clause.geometry <;> rfl

/-- A test of a field without a geometry has an outcome. -/
theorem holdsSpatially_of_ne_geometry
    {clause : SpatialClause}
    {field : Value}
    (other : ∀ stored, field ≠ .geometry stored) :
    holdsSpatially clause field = .ok false := by
  cases field with
  | geometry stored => exact (other stored rfl).elim
  | _ => rfl

/-- On finite records a test fails exactly if it meets an unbounded supplied side. -/
theorem holdsSpatially_fails_iff
    {record : Record}
    (finite : record.IsFinite)
    {clause : SpatialClause} :
    (∃ failure, holdsSpatially clause (record.get clause.column) = .error failure) ↔
      record.Offers clause ∧ clause.IsUnbounded := by
  constructor
  · rintro ⟨failure, fails⟩
    by_cases offered : ∃ stored, record.get clause.column = .geometry stored
    · obtain ⟨stored, found⟩ := offered
      rw [found, holdsSpatially_geometry] at fails
      cases related : Geometry.relate clause.test (clause.storedSide stored) clause.geometry with
      | ok outcome =>
          rw [related] at fails
          cases fails
      | error fault =>
          obtain ⟨storedPoint, suppliedPoint, unbounded, _⟩ :=
            Geometry.relate_eq_error.mp related
          have storedFinite : (clause.storedSide stored).isFinite = true :=
            SpatialClause.isFinite_storedSide (finite _ _ found)
          refine ⟨⟨stored, found, storedPoint⟩, suppliedPoint, ?_⟩
          simpa [storedFinite] using unbounded
    · rw [holdsSpatially_of_ne_geometry (not_exists.mp offered)] at fails
      cases fails
  · rintro ⟨⟨stored, found, storedPoint⟩, suppliedPoint, unbounded⟩
    have refused :
        Geometry.relate clause.test (clause.storedSide stored) clause.geometry =
          .error ⟨clause.test⟩ :=
      Geometry.relate_eq_error.mpr
        ⟨storedPoint, suppliedPoint, by simp [unbounded], rfl⟩
    rw [found, holdsSpatially_geometry, refused]
    exact ⟨_, rfl⟩

/-- On finite records an evaluation fails exactly if it comes to such a test. -/
theorem holds_fails_iff
    {record : Record}
    (finite : record.IsFinite)
    {predicate : Predicate} :
    (∃ failure, predicate.holds record = .error failure) ↔
      ∃ clause,
        ComesTo record predicate clause ∧ record.Offers clause ∧ clause.IsUnbounded := by
  constructor
  · rintro ⟨failure, fails⟩
    obtain ⟨clause, reached, own⟩ := exists_comesTo_of_holds_eq_error fails
    exact ⟨clause, reached, (holdsSpatially_fails_iff finite).mp ⟨failure, own⟩⟩
  · rintro ⟨clause, reached, meets⟩
    obtain ⟨failure, own⟩ := (holdsSpatially_fails_iff finite).mpr meets
    exact ⟨failure, reached.holds_eq_error own⟩

end Predicate

end GeoTables
