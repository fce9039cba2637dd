import GeoTables.Proofs.Filter.Leaves
import GeoTables.Proofs.Filter.Meaning
import GeoTables.Proofs.Predicate.Reach

/-!
# Where the supplied sides of tests come from

Every spatial test of a compiled filter stands for one of the clauses of the
filter: it is about the column of that clause, and its supplied side is the
geometry that the operand of the clause is the text of, or a part of it.
-/

namespace GeoTables

/-- The operand of the clause is the text of the geometry. -/
def Clause.Supplies (condition : Clause) (geometry : Geometry) : Prop :=
  ∃ text located,
    condition.operand = some (.string text) ∧
      LocatedGeometry.ofText text = .ok located ∧ located.geometry = geometry

/-- The test is about the column of the clause and what the clause supplies. -/
def SpatialClause.StandsFor (clause : SpatialClause) (condition : Clause) : Prop :=
  clause.column = condition.column ∧
    ∃ geometry,
      condition.Supplies geometry ∧
        clause.geometry =
          match clause.valuePart with
          | some dimension => geometry.extract dimension
          | none => geometry

/-- The geometry behind an unbounded test is not finite itself. -/
theorem SpatialClause.StandsFor.exists_unbounded
    {clause : SpatialClause}
    {condition : Clause}
    (stands : clause.StandsFor condition)
    (unbounded : clause.IsUnbounded) :
    ∃ geometry, condition.Supplies geometry ∧ geometry.isFinite = false := by
  obtain ⟨_, geometry, supplied, narrowed⟩ := stands
  refine ⟨geometry, supplied, ?_⟩
  by_contra bounded
  have finite : geometry.isFinite = true := by simpa using bounded
  have sideFinite : clause.geometry.isFinite = true := by
    rw [narrowed]
    split
    · exact Geometry.isFinite_extract finite _
    · exact finite
  rw [unbounded.2] at sideFinite
  cases sideFinite

/-- Operators on scalars test nothing that is spatial. -/
theorem ScalarOperator.Makes.tests_eq_nil
    {column : Column}
    {operator : ScalarOperator}
    {operand : Option Json}
    {leaf : Predicate}
    (made : operator.Makes column operand leaf) :
    leaf.tests = [] := by
  cases made <;> rfl

namespace Clause

theorem ofText_of_suppliedGeometry
    {column : Column}
    {srid : Int}
    {text : String}
    {geometry : Geometry}
    (supplied : suppliedGeometry column srid text = .ok geometry) :
    ∃ located,
      LocatedGeometry.ofText text = .ok located ∧ located.geometry = geometry := by
  unfold suppliedGeometry at supplied
  split at supplied
  · cases supplied
  · rename_i located read
    refine ⟨located, read, ?_⟩
    split at supplied
    · simpa using supplied
    · split_ifs at supplied
      simpa using supplied

/-- Every test that a clause is split into is the same one but for the parts. -/
theorem exists_parts_of_mem_tests
    {case : GeometryCase}
    {test : SpatialTest}
    {column : Column}
    {srid : Int}
    {geometry : Geometry}
    {clause : SpatialClause}
    (member :
      clause ∈ (splitLeaves case (spatialLeaf test column srid geometry)).tests) :
    ∃ storedPart valuePart,
      Predicate.spatial clause =
        spatialLeaf test column srid geometry storedPart valuePart := by
  cases case with
  | direct =>
      have single := List.mem_singleton.mp member
      exact ⟨none, none, congrArg Predicate.spatial single⟩
  | storedCollection | suppliedCollection | bothCollections =>
      simp only [splitLeaves, Predicate.tests, Predicate.testsOf_eq_flatMap,
        List.mem_flatMap, List.mem_map] at member
      obtain ⟨_, ⟨part, _, rfl⟩, inLeaf⟩ := member
      have single := List.mem_singleton.mp inLeaf
      exact ⟨_, _, congrArg Predicate.spatial single⟩

/-- Every test of the leaf of a clause stands for the clause. -/
theorem standsFor_of_compile
    {condition : Clause}
    {operators : OperatorTable}
    {table : Table}
    {leaf : Predicate}
    (compiled : condition.compile operators table = .ok leaf)
    {clause : SpatialClause}
    (member : clause ∈ leaf.tests) :
    clause.StandsFor condition := by
  cases becomes_of_compile compiled with
  | scalar _ _ _ _ made =>
      rw [made.tests_eq_nil] at member
      cases member
  | @spatial column test text srid geometry found _ _ _ operand _ supplied =>
      obtain ⟨located, read, same⟩ := ofText_of_suppliedGeometry supplied
      obtain ⟨storedPart, valuePart, leaf⟩ := exists_parts_of_mem_tests member
      cases leaf
      exact ⟨(Table.mem_of_column? found).2, geometry, ⟨text, located, operand, read, same⟩, rfl⟩

end Clause

namespace Filter

variable {operators : OperatorTable} {table : Table}

theorem inductive_standsFor :
    Inductive operators table fun filter result =>
      ∀ predicate clause,
        result = some predicate →
        clause ∈ predicate.tests →
        ∃ condition ∈ filter.clauses, clause.StandsFor condition := by
  constructor
  · rintro condition leaf own predicate clause equal member
    cases equal
    exact ⟨condition, by simp [clauses], Clause.standsFor_of_compile own member⟩
  · rintro mode children results result sources joined predicate clause rfl member
    rw [tests_of_join joined, Predicate.testsOf_eq_flatMap, List.mem_flatMap] at member
    obtain ⟨kept, isKept, member⟩ := member
    have isResult : some kept ∈ results := by simpa using isKept
    obtain ⟨child, isChild, source⟩ := Outcome.exists_partner sources.flip isResult
    obtain ⟨condition, inChild, stands⟩ := source kept clause rfl member
    refine ⟨condition, ?_, stands⟩
    rw [clauses, clausesOf_eq_flatMap, List.mem_flatMap]
    exact ⟨child, isChild, inChild⟩

/-- Every test of a compiled filter stands for a clause of the filter. -/
theorem exists_standsFor_of_compile
    {filter : Filter}
    {predicate : Predicate}
    (compiled : filter.compile operators table = .ok (some predicate))
    {clause : SpatialClause}
    (member : clause ∈ predicate.tests) :
    ∃ condition ∈ filter.clauses, clause.StandsFor condition :=
  compile_induction inductive_standsFor compiled predicate clause rfl member

end Filter

end GeoTables
