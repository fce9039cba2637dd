import GeoTables.Proofs.Filter.Leaves
import GeoTables.Proofs.Filter.Tree
import GeoTables.Proofs.Geometry.Durable
import GeoTables.Proofs.Predicate.WellFormed
import GeoTables.Proofs.Table.Columns

/-!
# What compilation guarantees

Whatever filter is compiled, the predicate is well formed on the table.  Its
leaves are those of the clauses, in their order: a clause becomes one leaf, or
three if it is compared dimension by dimension, all of them about the column of
the clause.
-/

namespace GeoTables

/-! ## Operands -/

namespace Value

/-- Only null is taken as null. -/
theorem isNull_scalar
    {json : Json}
    (present : json.isNull = false) :
    (scalar json).isNull = false := by
  cases json with
  | null => cases present
  | number number => cases found : number.signed? <;> simp [scalar, found, isNull]
  | _ => rfl

/-- A scalar that is not null is read as a value that is not null. -/
theorem isNull_ofScalar
    {type : LogicalType}
    {isExact : Bool}
    {json : Json}
    {value : Value}
    (present : json.isNull = false)
    (read : ofScalar type isExact json = .ok value) :
    value.isNull = false := by
  unfold ofScalar at read
  cases type <;> simp only [Outcome.map_eq_ok] at read
  case float =>
    split_ifs at read
    all_goals
      obtain ⟨_, _, rfl⟩ := Outcome.map_eq_ok.mp read
      rfl
  case string =>
    cases read
    rfl
  case geometry => cases read
  case unknown =>
    cases read
    exact isNull_scalar present
  all_goals
    obtain ⟨_, _, rfl⟩ := read
    rfl

theorem isNull_coerce
    {column : Column}
    {json : Json}
    {value : Value}
    (present : json.isNull = false)
    (read : coerce column json = .ok value) :
    value.isNull = false := by
  unfold coerce at read
  rw [present, if_neg (by decide)] at read
  split_ifs at read
  exact isNull_ofScalar present read

/-- A text is never read as null, not even an empty one. -/
theorem isNull_coerceText
    {column : Column}
    {text : String}
    {value : Value}
    (read : coerceText column text = .ok value) :
    value.isNull = false := by
  unfold coerceText at read
  split at read
  · cases read
    rfl
  · cases read
    rfl
  · exact isNull_coerce rfl read

end Value

/-! ## Clauses -/

namespace ScalarOperator

theorem isNull_member
    {column : Column}
    {text : List Char}
    {value : Value}
    (read : member column text = .ok value) :
    value.isNull = false := by
  unfold member at read
  split at read
  · rename_i coerced
    cases read
    exact Value.isNull_coerceText coerced
  · cases read

/-- An operator makes one leaf, about its column. -/
theorem Makes.leafColumns_eq
    {column : Column}
    {operator : ScalarOperator}
    {operand : Option Json}
    {leaf : Predicate}
    (made : operator.Makes column operand leaf) :
    leaf.leafColumns = [column.name] := by
  cases made <;> rfl

theorem Makes.wellFormed
    {table : Table}
    {column : Column}
    {operator : ScalarOperator}
    {operand : Option Json}
    {leaf : Predicate}
    (made : operator.Makes column operand leaf)
    (scalar : table.HasScalar column.name)
    (present : ∀ json ∈ operand, json.isNull = false) :
    leaf.WellFormed table := by
  cases made with
  | compare coerced => exact .compare scalar (Value.isNull_coerce (present _ rfl) coerced)
  | like => exact .like scalar
  | isNull => exact .isNull scalar
  | isNotNull => exact .isNotNull scalar
  | isIn worded each =>
      refine .isIn scalar ?_ ?_
      · rintro rfl
        -- Cutting a text at its commas leaves at least one part.
        exact List.splitOnP_ne_nil _ _ (List.forall₂_nil_right_iff.mp each)
      · intro value isMember
        obtain ⟨part, _, read⟩ := Outcome.exists_partner each.flip isMember
        exact isNull_member read

end ScalarOperator

namespace Clause

/-- How a clause on a column of geometries is compared. -/
def case? (table : Table) (condition : Clause) : Option GeometryCase :=
  match table.column? condition.column, condition.operand with
  | some column, some (.string text) => GeometryCase.classify? column text
  | _, _ => none

/-- The number of leaves of a clause: three if it is compared by dimension. -/
def leafCount (table : Table) (condition : Clause) : Nat :=
  match condition.case? table with
  | none | some .direct => 1
  | some _ => 3

theorem leafCount_pos (table : Table) (condition : Clause) :
    0 < condition.leafCount table := by
  unfold leafCount
  split <;> decide

theorem leafColumns_splitLeaves
    (case : GeometryCase)
    (test : SpatialTest)
    (column : Column)
    (srid : Int)
    (geometry : Geometry) :
    (splitLeaves case (spatialLeaf test column srid geometry)).leafColumns =
      List.replicate case.comparisons column.name := by
  cases case <;> rfl

theorem wellFormed_splitLeaves
    {table : Table}
    {column : Column}
    {srid : Int}
    (case : GeometryCase)
    (test : SpatialTest)
    (geometry : Geometry)
    (geometric : table.HasGeometry column.name srid) :
    (splitLeaves case (spatialLeaf test column srid geometry)).WellFormed table := by
  have leaf :
      ∀ storedPart valuePart,
        (spatialLeaf test column srid geometry storedPart valuePart).WellFormed table :=
    fun _ _ => .spatial geometric
  cases case with
  | direct => exact leaf none none
  | storedCollection | suppliedCollection | bothCollections =>
      refine .or (Nat.le_add_left 2 1) ?_
      intro child member
      obtain ⟨part, _, rfl⟩ := List.mem_map.mp member
      exact leaf _ _

variable {operators : OperatorTable} {table : Table} {condition : Clause} {leaf : Predicate}

theorem Becomes.wellFormed (becomes : Becomes operators table condition leaf) :
    leaf.WellFormed table := by
  cases becomes with
  | scalar found own plain _ made =>
      obtain ⟨_, named⟩ := Table.mem_of_column? found
      have scalar : table.HasScalar _ := ⟨_, named ▸ found, own, plain⟩
      exact made.wellFormed scalar fun json present => isNull_of_present present
  | spatial found own geometric _ _ located _ =>
      obtain ⟨_, named⟩ := Table.mem_of_column? found
      exact wellFormed_splitLeaves _ _ _ ⟨_, named ▸ found, own, geometric, located⟩

/-- The leaves of a clause are about its column, as many as are counted for it. -/
theorem Becomes.leafColumns_eq (becomes : Becomes operators table condition leaf) :
    leaf.leafColumns = List.replicate (condition.leafCount table) condition.column := by
  cases becomes with
  | @scalar column operator leaf found own plain known made =>
      have undivided : condition.case? table = none := by
        unfold case?
        rw [found]
        split
        · rename_i equal _
          cases equal
          rw [GeometryCase.classify?, plain, if_neg (by decide)]
        · rfl
      rw [made.leafColumns_eq, (Table.mem_of_column? found).2, leafCount, undivided]
      rfl
  | @spatial column test text srid geometry found own geometric spelled operand located supplied =>
      have divided :
          condition.case? table =
            some (.ofSides column.isCollection (GeometryCase.namesSeveralParts text)) := by
        rw [case?, found, operand]
        dsimp only
        rw [GeometryCase.classify?, if_pos geometric]
      rw [leafColumns_splitLeaves, (Table.mem_of_column? found).2, leafCount, divided]
      cases column.isCollection <;> cases GeometryCase.namesSeveralParts text <;> rfl

end Clause

/-! ## Filters -/

namespace Filter

variable {operators : OperatorTable} {table : Table}

theorem inductive_wellFormed :
    Inductive operators table fun _ result =>
      ∀ predicate, result = some predicate → predicate.WellFormed table := by
  constructor
  · rintro condition leaf own predicate equal
    cases equal
    exact (Clause.becomes_of_compile own).wellFormed
  · rintro mode children results result fit joined predicate rfl
    have each : ∀ kept ∈ results.filterMap id, kept.WellFormed table := by
      intro kept isKept
      have isResult : some kept ∈ results := by simpa using isKept
      obtain ⟨child, _, fits⟩ := Outcome.exists_partner fit.flip isResult
      exact fits kept rfl
    rcases join_eq_some.mp joined with single | ⟨several, ⟨_, rfl⟩ | ⟨_, rfl⟩⟩
    · exact each predicate (single ▸ List.mem_singleton_self predicate)
    · exact .and several each
    · exact .or several each

theorem wellFormed_of_compile
    {filter : Filter}
    {predicate : Predicate}
    (compiled : filter.compile operators table = .ok (some predicate)) :
    predicate.WellFormed table :=
  compile_induction inductive_wellFormed compiled predicate rfl

/-- The columns of the leaves that a filter is to have. -/
def expectedColumns (table : Table) (filter : Filter) : List String :=
  filter.clauses.flatMap fun condition =>
    List.replicate (condition.leafCount table) condition.column

/-- Joining keeps the leaves. -/
theorem leafColumns_of_join
    {mode : String}
    {predicates : List Predicate}
    {result : Option Predicate}
    (joined : join mode predicates = .ok result) :
    result.toList.flatMap Predicate.leafColumns =
      predicates.flatMap Predicate.leafColumns := by
  cases result with
  | none =>
      rw [join_eq_none] at joined
      rw [joined]
      rfl
  | some predicate =>
      rcases join_eq_some.mp joined with rfl | ⟨_, ⟨_, rfl⟩ | ⟨_, rfl⟩⟩
      · rfl
      all_goals simp [Predicate.leafColumns, Predicate.leafColumnsOf_eq_flatMap]

theorem inductive_leafColumns :
    Inductive operators table fun filter result =>
      result.toList.flatMap Predicate.leafColumns = filter.expectedColumns table := by
  constructor
  · intro condition leaf own
    simp [expectedColumns, clauses, (Clause.becomes_of_compile own).leafColumns_eq]
  · intro mode children results result agree joined
    rw [leafColumns_of_join joined, expectedColumns, clauses, clausesOf_eq_flatMap]
    clear joined
    induction agree with
    | nil => rfl
    | @cons child result children results head tail induction =>
        rw [expectedColumns] at head
        rw [List.flatMap_cons, List.flatMap_append, ← induction, ← head]
        cases result <;> simp

/-- The leaves of a predicate are those of the clauses. -/
theorem leafColumns_of_compile
    {filter : Filter}
    {predicate : Predicate}
    (compiled : filter.compile operators table = .ok (some predicate)) :
    predicate.leafColumns = filter.expectedColumns table := by
  simpa using compile_induction inductive_leafColumns compiled

/-- The first uses of the columns do not depend on the number of leaves. -/
theorem firstUses_expectedColumns
    (table : Table)
    (conditions : List Clause) :
    Predicate.firstUses
        (conditions.flatMap fun condition =>
          List.replicate (condition.leafCount table) condition.column) =
      Predicate.firstUses (conditions.map Clause.column) := by
  induction conditions with
  | nil => rfl
  | cons condition rest induction =>
      rw [List.flatMap_cons, Predicate.firstUses_replicate (condition.leafCount_pos table),
        List.map_cons, Predicate.firstUses, Predicate.firstUses, induction]

/--
A filter compiles to a well-formed predicate.  It has one leaf for every clause,
or three for a clause that is compared by dimension, and its columns are those
of the clauses at their first use.
-/
theorem compile_wellFormed
    {operators : OperatorTable}
    {table : Table}
    {filter : Filter}
    {predicate : Predicate}
    (compiled : filter.compile operators table = .ok (some predicate)) :
    predicate.WellFormed table ∧
      predicate.leafCount = (filter.clauses.map (Clause.leafCount table)).sum ∧
      predicate.columns = Predicate.firstUses (filter.clauses.map Clause.column) := by
  refine ⟨?_, ?_, ?_⟩
  · exact wellFormed_of_compile compiled
  · rw [Predicate.leafCount, leafColumns_of_compile compiled, expectedColumns,
      List.length_flatMap]
    simp
  · rw [Predicate.columns_eq_firstUses, leafColumns_of_compile compiled, expectedColumns,
      firstUses_expectedColumns]

/-! ## A filter with a clause that is compared by dimension -/

/-- Two points, which a column of points is compared with by dimension. -/
def twoPoints : Geometry :=
  .multiPoint [⟨.zero, .zero⟩, ⟨.zero, .zero⟩]

/-- A durable geometry is supplied by its own text. -/
theorem suppliedGeometry_wkt
    (column : Column)
    (srid : Int)
    {geometry : Geometry}
    (durable : geometry.IsDurable) :
    Clause.suppliedGeometry column srid geometry.wkt = .ok geometry := by
  rw [Clause.suppliedGeometry, durable.ofText_wkt]

/-- A clause that asks whether a parcel is at one of the points. -/
def atTwoPoints : Clause :=
  ⟨"site", "INTERSECTS", some (.string twoPoints.wkt)⟩

/-- The leaves of the clause, one for each dimension. -/
def atTwoPointsLeaves : Predicate :=
  Clause.splitLeaves .suppliedCollection
    (Clause.spatialLeaf .intersects parcelsTable.columns[2] 2056 twoPoints)

theorem compile_atTwoPoints :
    atTwoPoints.compile .standard parcelsTable = .ok atTwoPointsLeaves := by
  have several : GeometryCase.namesSeveralParts twoPoints.wkt = true := by decide +kernel
  have readable : Wkt.IsReadable .zero := by decide +kernel
  have durable : twoPoints.IsDurable := by
    simp [twoPoints, Geometry.IsDurable, Coordinate.IsReadable, readable]
  have found : parcelsTable.column? "site" = some parcelsTable.columns[2] := rfl
  have spelled : SpatialTest.ofSpelling? "INTERSECTS" = some .intersects := by decide +kernel
  have becomes : Clause.Becomes .standard parcelsTable atTwoPoints _ :=
    .spatial found rfl rfl spelled rfl rfl (suppliedGeometry_wkt _ 2056 durable)
  rw [several] at becomes
  exact becomes.compile_eq_ok

/-- The clause within blocks, next to others and to a block without clauses. -/
def atTwoPointsOrListed : Filter :=
  .block "AND" [
    .block "OR" [
      .clause atTwoPoints,
      .block "XOR" [],
      .clause ⟨"id", "IN", some (.string "7,8")⟩],
    .block "XOR" [.clause ⟨"id", "NOT_NULL", none⟩],
    .clause ⟨"area", "LIKE", some (.string "1%")⟩]

/-- The predicate of that filter. -/
def nearOrListed : Predicate :=
  .and [
    .or [atTwoPointsLeaves, .isIn "id" [.int 7, .int 8]],
    .isNotNull "id",
    .like "area" "1%"]

theorem compile_atTwoPointsOrListed :
    atTwoPointsOrListed.compile .standard parcelsTable = .ok (some nearOrListed) := by
  have listed :
      Clause.compile ⟨"id", "IN", some (.string "7,8")⟩ .standard parcelsTable =
        .ok (.isIn "id" [.int 7, .int 8]) := by
    rfl
  simp only [atTwoPointsOrListed, compile, compileChildren, compile_atTwoPoints, listed]
  rfl

theorem compile_wellFormed_atTwoPointsOrListed :
    ∃ predicate,
      parcels.describe = .ok parcelsTable ∧
      atTwoPointsOrListed.compile .standard parcelsTable = .ok (some predicate) ∧
      predicate.WellFormed parcelsTable ∧
      predicate.leafCount = 6 ∧
      predicate.columns = ["site", "id", "area"] := by
  obtain ⟨wellFormed, counted, listed⟩ := compile_wellFormed compile_atTwoPointsOrListed
  refine ⟨_, describe_parcels, compile_atTwoPointsOrListed, wellFormed, rfl, ?_⟩
  rw [listed]
  decide +kernel

end Filter

end GeoTables
