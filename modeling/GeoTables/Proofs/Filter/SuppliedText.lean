import GeoTables.Predicate.Sql
import GeoTables.Proofs.Filter.Operands
import GeoTables.Proofs.Filter.WellFormed
import GeoTables.Proofs.Geometry.Filled

/-!
# The two forms of a supplied geometry

A spatial test carries the supplied side twice: as the geometry that records
are compared with, narrowed to a part where the clause is split, and as the text
of the whole geometry, which is bound in SQL.  If the geometry that the clause
supplies is finite and has no empty members, the bound text is read, without a
reference system, as a geometry whose part is the one that records are compared
with.
-/

namespace GeoTables

/-- The test carries the geometry, narrowed to a part, and the text of the whole of it. -/
structure SpatialClause.Carries (clause : SpatialClause) (whole : Geometry) : Prop where
  wkt : clause.wkt = whole.wkt
  geometry :
    clause.geometry =
      match clause.valuePart with
      | some dimension => whole.extract dimension
      | none => whole

/-- SQL is given the geometry that records are compared with. -/
def SpatialClause.IsBoundAlike (clause : SpatialClause) : Prop :=
  ∃ text whole,
    (∀ table bound, (Sql.condition table bound (.spatial clause)).values = [.string text]) ∧
      LocatedGeometry.ofText text = .ok ⟨whole, none⟩ ∧
      clause.geometry =
        match clause.valuePart with
        | some dimension => whole.extract dimension
        | none => whole

/-- A durable geometry that a test carries is read from the text that is bound. -/
theorem SpatialClause.Carries.isBoundAlike
    {clause : SpatialClause}
    {whole : Geometry}
    (carries : clause.Carries whole)
    (durable : whole.IsDurable) :
    clause.IsBoundAlike := by
  refine ⟨clause.wkt, whole, fun _ _ => rfl, ?_, carries.geometry⟩
  rw [carries.wkt, durable.ofText_wkt]

namespace Clause

variable {operators : OperatorTable} {table : Table} {condition : Clause} {leaf : Predicate}

/-- Every test that a clause becomes carries the geometry of its operand. -/
theorem carries_of_compile
    (compiled : condition.compile operators table = .ok leaf)
    {text : String}
    {located : LocatedGeometry}
    (supplied : condition.operand = some (.string text))
    (read : LocatedGeometry.ofText text = .ok located)
    {clause : SpatialClause}
    (member : clause ∈ leaf.tests) :
    clause.Carries located.geometry := by
  cases becomes_of_compile compiled with
  | scalar _ _ _ _ made =>
      rw [made.tests_eq_nil] at member
      cases member
  | spatial _ _ _ _ operand _ isSupplied =>
      obtain ⟨other, isRead, rfl⟩ := ofText_of_suppliedGeometry isSupplied
      cases supplied.symm.trans operand
      cases read.symm.trans isRead
      obtain ⟨storedPart, valuePart, isLeaf⟩ := exists_parts_of_mem_tests member
      cases isLeaf
      exact ⟨rfl, rfl⟩

/--
A clause whose operand is the text of a finite geometry without empty members
becomes tests for which SQL is given the very geometry that records are compared
with, whichever sides are narrowed.
-/
theorem supplied_geometry_bound_alike
    (compiled : condition.compile operators table = .ok leaf)
    {text : String}
    {located : LocatedGeometry}
    (supplied : condition.operand = some (.string text))
    (read : LocatedGeometry.ofText text = .ok located)
    (finite : located.geometry.isFinite = true)
    (filled : located.geometry.IsFilled) :
    ∀ clause ∈ leaf.tests, clause.IsBoundAlike := by
  intro clause member
  have carries := carries_of_compile compiled supplied read member
  have spelled := LocatedGeometry.isSpelled_of_ofText read
  exact carries.isBoundAlike
    (Geometry.isDurable_of_isFilled spelled (Geometry.isFinite_iff.mp finite) filled)

/-! ## A collection within a collection -/

/-- A triangle of positions as an area and, one collection deeper, a corner and an empty line. -/
def areaAndCorner : Geometry :=
  .collection [
    .polygon ⟨[⟨.ofNat 0, .ofNat 0⟩, ⟨.ofNat 2, .ofNat 0⟩, ⟨.ofNat 2, .ofNat 1⟩,
      ⟨.ofNat 0, .ofNat 0⟩], []⟩,
    .collection [.point ⟨.ofNat 2, .ofNat 1⟩, .lineString []]]

theorem isFinite_areaAndCorner : areaAndCorner.isFinite = true := by decide +kernel

theorem isFilled_areaAndCorner : areaAndCorner.IsFilled := by
  simp [areaAndCorner, Geometry.IsFilled, Geometry.AreFilled, Polygon.IsFilled]

theorem isSpelled_areaAndCorner : areaAndCorner.IsSpelled := by
  have closed :
      (⟨[⟨.ofNat 0, .ofNat 0⟩, ⟨.ofNat 2, .ofNat 0⟩, ⟨.ofNat 2, .ofNat 1⟩,
          ⟨.ofNat 0, .ofNat 0⟩], []⟩ : Polygon) =
        .ofRings [⟨.ofNat 0, .ofNat 0⟩, ⟨.ofNat 2, .ofNat 0⟩, ⟨.ofNat 2, .ofNat 1⟩] [] := by
    decide +kernel
  exact ⟨⟨_, _, closed⟩, ⟨trivial, trivial, trivial⟩, trivial⟩

/-- A clause that asks whether a parcel meets the collection. -/
def meetsAreaAndCorner : Clause :=
  ⟨"site", "INTERSECTS", some (.string areaAndCorner.wkt)⟩

theorem supplied_geometry_bound_alike_areaAndCorner :
    ∃ leaf,
      meetsAreaAndCorner.compile .standard parcelsTable = .ok leaf ∧
        leaf.tests.length = 3 ∧
        LocatedGeometry.ofText areaAndCorner.wkt = .ok ⟨areaAndCorner, none⟩ ∧
        areaAndCorner.isFinite = true ∧ areaAndCorner.IsFilled ∧
        ∀ clause ∈ leaf.tests, clause.IsBoundAlike := by
  have durable := Geometry.isDurable_of_isFilled isSpelled_areaAndCorner
    (Geometry.isFinite_iff.mp isFinite_areaAndCorner) isFilled_areaAndCorner
  have read := durable.ofText_wkt
  have found : parcelsTable.column? "site" = some parcelsTable.columns[2] := rfl
  have spelled : SpatialTest.ofSpelling? "INTERSECTS" = some .intersects := by decide +kernel
  have several : GeometryCase.namesSeveralParts areaAndCorner.wkt = true := by decide +kernel
  have becomes : Becomes .standard parcelsTable meetsAreaAndCorner _ :=
    .spatial found rfl rfl spelled rfl rfl (Filter.suppliedGeometry_wkt _ 2056 durable)
  rw [several] at becomes
  have compiled := becomes.compile_eq_ok
  exact ⟨_, compiled, rfl, read, isFinite_areaAndCorner, isFilled_areaAndCorner,
    supplied_geometry_bound_alike compiled rfl read isFinite_areaAndCorner isFilled_areaAndCorner⟩

end Clause

end GeoTables
