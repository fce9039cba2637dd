import GeoTables.Filter.Compilation
import GeoTables.Proofs.Outcome
import Mathlib.Tactic.SplitIfs

/-!
# What a clause becomes

A clause that compiles was found fit in every respect that is checked: its
column is there and stands for no relationship, its operator applies to the
column, and its operand is a value of the column or, for a column of
geometries, the text of a geometry in the reference system of the column.  The
two relations of this file say what is left of the clause in each case, so that
later proofs distinguish cases and unfold no check.
-/

namespace GeoTables

namespace ScalarOperator

/-- What an operator makes of a column and an operand. -/
inductive Makes (column : Column) : ScalarOperator → Option Json → Predicate → Prop where
  | compare
      {comparison : Comparison}
      {operand : Json}
      {value : Value}
      (coerced : Value.coerce column operand = .ok value) :
      Makes column (.compare comparison) (some operand)
        (.compare column.name comparison value)
  | like
      {operand : Json}
      {pattern : String}
      (worded : operandText? operand = some pattern) :
      Makes column .like (some operand) (.like column.name pattern)
  | isIn
      {operand : Json}
      {text : String}
      {members : List Value}
      (worded : operandText? operand = some text)
      (each :
        List.Forall₂ (fun part value => member column part = .ok value)
          (text.toList.splitOnP (· == ',')) members) :
      Makes column .isIn (some operand) (.isIn column.name members)
  | isNull {operand : Option Json} :
      Makes column .isNull operand (.isNull column.name)
  | isNotNull {operand : Option Json} :
      Makes column .isNotNull operand (.isNotNull column.name)

/-- An operator that was given an operand has got it. -/
theorem required_eq_ok
    {column : Column}
    {operand : Option Json}
    {json : Json}
    (given : required column operand = .ok json) :
    operand = some json := by
  unfold required at given
  split at given
  · cases given
    rfl
  · cases given

section

variable {column : Column} {operand : Json} {leaf : Predicate}

/-- A leaf that takes an operand is made of the one that is there. -/
theorem exists_operand_of_required
    {given : Option Json}
    {make : Json → Except Failure Predicate}
    (compiled : (required column given >>= make) = .ok leaf) :
    ∃ json, given = some json ∧ make json = .ok leaf := by
  obtain ⟨json, isGiven, made⟩ := Outcome.bind_eq_ok.mp compiled
  exact ⟨json, required_eq_ok isGiven, made⟩

theorem makes_of_compareLeaf
    {comparison : Comparison}
    (compiled : compareLeaf column comparison operand = .ok leaf) :
    Makes column (.compare comparison) (some operand) leaf := by
  unfold compareLeaf at compiled
  split at compiled
  · rename_i value coerced
    cases compiled
    exact .compare coerced
  · cases compiled

theorem makes_of_likeLeaf
    (compiled : likeLeaf column operand = .ok leaf) :
    Makes column .like (some operand) leaf := by
  unfold likeLeaf at compiled
  split at compiled
  · rename_i pattern worded
    cases compiled
    exact .like worded
  · cases compiled

theorem makes_of_inLeaf
    (compiled : inLeaf column operand = .ok leaf) :
    Makes column .isIn (some operand) leaf := by
  unfold inLeaf at compiled
  split at compiled
  · rename_i text worded
    obtain ⟨members, each, made⟩ := Outcome.bind_eq_ok.mp compiled
    cases made
    exact .isIn worded (Outcome.mapM_eq_ok.mp each)
  · cases compiled

end

theorem makes_of_leaf
    {column : Column}
    {operator : ScalarOperator}
    {operand : Option Json}
    {leaf : Predicate}
    (compiled : operator.leaf column operand = .ok leaf) :
    Makes column operator operand leaf := by
  cases operator with
  | isNull =>
      cases compiled
      exact .isNull
  | isNotNull =>
      cases compiled
      exact .isNotNull
  | compare comparison =>
      obtain ⟨json, rfl, made⟩ := exists_operand_of_required compiled
      exact makes_of_compareLeaf made
  | like =>
      obtain ⟨json, rfl, made⟩ := exists_operand_of_required compiled
      exact makes_of_likeLeaf made
  | isIn =>
      obtain ⟨json, rfl, made⟩ := exists_operand_of_required compiled
      exact makes_of_inLeaf made

/-- An operator makes its leaf of an operand that it needs and of nothing else. -/
theorem Makes.leaf_eq_ok
    {column : Column}
    {operator : ScalarOperator}
    {operand : Option Json}
    {leaf : Predicate}
    (made : Makes column operator operand leaf) :
    operator.leaf column operand = .ok leaf ∧
      (operator.needsOperand = true → operand.isSome) := by
  cases made with
  | compare coerced => simp [ScalarOperator.leaf, required, compareLeaf, coerced]
  | like worded => simp [ScalarOperator.leaf, required, likeLeaf, worded]
  | isIn worded each =>
      simp [ScalarOperator.leaf, required, inLeaf, worded, Outcome.mapM_eq_ok.mpr each]
  | isNull => simp [ScalarOperator.leaf, needsOperand]
  | isNotNull => simp [ScalarOperator.leaf, needsOperand]

end ScalarOperator

namespace Clause

/-- What a clause becomes on a table. -/
inductive Becomes
    (operators : OperatorTable)
    (table : Table)
    (condition : Clause) :
    Predicate → Prop where
  | scalar
      {column : Column}
      {operator : ScalarOperator}
      {leaf : Predicate}
      (found : table.column? condition.column = some column)
      (own : column.isRelationship = false)
      (plain : column.isGeometry = false)
      (known : operators.get? condition.operator = some operator)
      (made : operator.Makes column condition.present? leaf) :
      Becomes operators table condition leaf
  | spatial
      {column : Column}
      {test : SpatialTest}
      {text : String}
      {srid : Int}
      {geometry : Geometry}
      (found : table.column? condition.column = some column)
      (own : column.isRelationship = false)
      (geometric : column.isGeometry = true)
      (spelled : SpatialTest.ofSpelling? condition.operator = some test)
      (operand : condition.operand = some (.string text))
      (located : column.srid = some srid)
      (supplied : suppliedGeometry column srid text = .ok geometry) :
      Becomes operators table condition
        (splitLeaves
          (.ofSides column.isCollection (GeometryCase.namesSeveralParts text))
          (spatialLeaf test column srid geometry))

/-- An operand that is there is not null. -/
theorem isNull_of_present
    {condition : Clause}
    {operand : Json}
    (present : condition.present? = some operand) :
    operand.isNull = false := by
  simpa using (Option.filter_eq_some_iff.mp present).2

/-- The text of a geometry is the operand itself. -/
theorem geometryText_eq_ok
    {condition : Clause}
    {column : Column}
    {text : String} :
    condition.geometryText column = .ok text ↔ condition.operand = some (.string text) := by
  unfold geometryText
  constructor
  · intro found
    split at found
    · cases found
    · rename_i present
      cases found
      exact (Option.filter_eq_some_iff.mp present).1
    · cases found
  · intro operand
    have present : condition.present? = some (.string text) := by
      rw [present?, operand]
      rfl
    rw [present]

section

variable
    {operators : OperatorTable}
    {table : Table}
    {condition : Clause}
    {column : Column}
    {leaf : Predicate}

/-- What a clause on a column of geometries becomes if it compiles. -/
theorem becomes_of_compileSpatial
    (found : table.column? condition.column = some column)
    (own : column.isRelationship = false)
    (geometric : column.isGeometry = true)
    (compiled : condition.compileSpatial table column = .ok leaf) :
    Becomes operators table condition leaf := by
  unfold compileSpatial at compiled
  split at compiled
  · cases compiled
  · rename_i test spelled
    obtain ⟨text, worded, compiled⟩ := Outcome.bind_eq_ok.mp compiled
    split at compiled
    · cases compiled
    · rename_i srid located
      obtain ⟨geometry, supplied, compiled⟩ := Outcome.bind_eq_ok.mp compiled
      rw [GeometryCase.classify?, if_pos geometric] at compiled
      cases compiled
      exact .spatial found own geometric spelled (geometryText_eq_ok.mp worded) located supplied

/-- What a clause on any other column of the table becomes if it compiles. -/
theorem becomes_of_compileScalar
    (found : table.column? condition.column = some column)
    (own : column.isRelationship = false)
    (plain : column.isGeometry = false)
    (compiled : condition.compileScalar operators column = .ok leaf) :
    Becomes operators table condition leaf := by
  unfold compileScalar at compiled
  split at compiled
  · cases compiled
  · rename_i operator known
    split_ifs at compiled
    exact .scalar found own plain known (ScalarOperator.makes_of_leaf compiled)

theorem becomes_of_compile
    (compiled : condition.compile operators table = .ok leaf) :
    Becomes operators table condition leaf := by
  unfold compile at compiled
  split at compiled
  · cases compiled
  · rename_i column found
    split_ifs at compiled with relates geometric
    · exact becomes_of_compileSpatial found (by simpa using relates) geometric compiled
    · exact becomes_of_compileScalar found (by simpa using relates) (by simpa using geometric)
        compiled

end

/-- On a column of geometries a clause becomes tests of the geometry that it supplies. -/
theorem Becomes.exists_supplied
    {operators : OperatorTable}
    {table : Table}
    {condition : Clause}
    {column : Column}
    {leaf : Predicate}
    (becomes : Becomes operators table condition leaf)
    (found : table.column? condition.column = some column)
    (geometric : column.isGeometry = true) :
    ∃ test text srid geometry,
      column.isRelationship = false ∧
      SpatialTest.ofSpelling? condition.operator = some test ∧
      condition.operand = some (.string text) ∧
      column.srid = some srid ∧
      suppliedGeometry column srid text = .ok geometry ∧
      leaf = splitLeaves
        (.ofSides column.isCollection (GeometryCase.namesSeveralParts text))
        (spatialLeaf test column srid geometry) := by
  cases becomes with
  | scalar isFound _ plain =>
      cases found.symm.trans isFound
      rw [geometric] at plain
      cases plain
  | spatial isFound own _ spelled operand located supplied =>
      cases found.symm.trans isFound
      exact ⟨_, _, _, _, own, spelled, operand, located, supplied, rfl⟩

/-- A clause that is fit in every respect compiles. -/
theorem Becomes.compile_eq_ok
    {operators : OperatorTable}
    {table : Table}
    {condition : Clause}
    {leaf : Predicate}
    (becomes : Becomes operators table condition leaf) :
    condition.compile operators table = .ok leaf := by
  cases becomes with
  | scalar found own plain known made =>
      obtain ⟨compiled, supplied⟩ := made.leaf_eq_ok
      rw [compile, found]
      dsimp only
      rw [own, if_neg (by decide), plain, if_neg (by decide), compileScalar, known]
      dsimp only
      rw [if_neg, compiled]
      rw [Bool.and_eq_true, Option.isNone_iff_eq_none]
      rintro ⟨needed, missing⟩
      simp [missing] at supplied
      simp [supplied] at needed
  | spatial found own geometric spelled operand located supplied =>
      rw [compile, found]
      dsimp only
      rw [own, if_neg (by decide), if_pos geometric, compileSpatial, spelled]
      dsimp only
      rw [geometryText_eq_ok.mpr operand]
      dsimp only [bind, Except.bind]
      rw [located]
      dsimp only
      rw [supplied, GeometryCase.classify?, if_pos geometric]
      rfl

end Clause

end GeoTables
