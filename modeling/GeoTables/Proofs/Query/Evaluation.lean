import GeoTables.Proofs.Filter.Operands
import GeoTables.Proofs.Geometry.Durable
import GeoTables.Proofs.Json.RoundTrip
import GeoTables.Query.Execution

/-!
# When a query cannot be evaluated

Selecting and counting look at every record of the table, so both fail exactly
if the predicate fails on some record.  On records with finite coordinates it
fails exactly if its evaluation comes to a test whose supplied side has a point
and a coordinate that is not finite, while the record offers the test a point.
Such a side is the work of the client: some clause has an operand that is the
text of a geometry with an ordinate beyond all finite numbers.
-/

namespace GeoTables.Query

variable {table : Table}

theorem accepts_eq_error
    (table : Table)
    {predicate : Predicate}
    {record : Record} :
    (∃ failure, accepts table predicate record = .error failure) ↔
      ∃ failure, predicate.holds record = .error failure := by
  unfold accepts
  cases predicate.holds record <;> simp [Except.mapError]

/-- Selection fails exactly if the predicate fails on a record. -/
theorem selected_fails_iff
    {predicate : Predicate}
    {records : List Record} :
    (∃ failure, selected table predicate records = .error failure) ↔
      ∃ record ∈ records, ∃ failure, predicate.holds record = .error failure := by
  induction records with
  | nil => simp [selected]
  | cons record rest induction =>
      rw [List.exists_mem_cons_iff, ← induction, ← accepts_eq_error table]
      simp only [selected, Outcome.bind_eq_error, Outcome.pure_ne_error, and_false,
        exists_const, or_false]
      cases accepts table predicate record <;> simp

/-- Counting fails exactly if the predicate fails on a record. -/
theorem countSelected_fails_iff
    (table : Table)
    {predicate : Predicate}
    (counted : Nat)
    {records : List Record} :
    (∃ failure, countSelected table predicate counted records = .error failure) ↔
      ∃ record ∈ records, ∃ failure, predicate.holds record = .error failure := by
  induction records generalizing counted with
  | nil => simp [countSelected]
  | cons record rest induction =>
      rw [List.exists_mem_cons_iff, ← accepts_eq_error table]
      rw [countSelected]
      cases outcome : accepts table predicate record with
      | error failure => simp
      | ok accepted =>
          cases accepted with
          | true => simpa using induction (counted + 1)
          | false => simpa using induction counted

/-- The evaluation comes to an unbounded test on one of the records. -/
def Stumbles (result : Option Predicate) (records : List Record) : Prop :=
  ∃ predicate,
    result = some predicate ∧
      ∃ record ∈ records, ∃ clause,
        predicate.ComesTo record clause ∧ record.Offers clause ∧ clause.IsUnbounded

/-- On finite records a predicate fails somewhere exactly if it stumbles. -/
theorem stumbles_iff
    {predicate : Predicate}
    {records : List Record}
    (finite : ∀ record ∈ records, record.IsFinite) :
    Stumbles (some predicate) records ↔
      ∃ record ∈ records, ∃ failure, predicate.holds record = .error failure := by
  simp only [Stumbles, Option.some.injEq, exists_eq_left']
  constructor
  · rintro ⟨record, member, clause, meets⟩
    exact ⟨record, member,
      (Predicate.holds_fails_iff (finite record member)).mpr ⟨clause, meets⟩⟩
  · rintro ⟨record, member, fails⟩
    exact ⟨record, member, (Predicate.holds_fails_iff (finite record member)).mp fails⟩

theorem matching_fails_iff
    (table : Table)
    {result : Option Predicate}
    {records : List Record}
    (finite : ∀ record ∈ records, record.IsFinite) :
    (∃ failure, matching table result records = .error failure) ↔
      Stumbles result records := by
  cases result with
  | none => simp [matching, Stumbles]
  | some predicate => rw [stumbles_iff finite, matching, selected_fails_iff]

variable {session : Session} {records : List Record}

/-- A query fails by its sort key or by its predicate, however rows are sorted. -/
theorem execute_fails_iff
    (sorter : Sorter)
    {query : ReadQuery}
    (scanned : session.scan table = .ok records)
    (finite : ∀ record ∈ records, record.IsFinite) :
    (∃ failure, execute sorter session table query = .error failure) ↔
      (∃ failure, checkSort table query.sort = .error failure) ∨
        Stumbles query.predicate records := by
  rw [← matching_fails_iff table finite, execute, scanned]
  cases checkSort table query.sort with
  | error failure => simp
  | ok _ => cases rows : matching table query.predicate records <;> simp [rows]

theorem count_fails_iff
    {result : Option Predicate}
    (scanned : session.scan table = .ok records)
    (finite : ∀ record ∈ records, record.IsFinite) :
    (∃ failure, count session table result = .error failure) ↔
      Stumbles result records := by
  rw [count, scanned]
  cases result with
  | none => simp [Stumbles]
  | some predicate =>
      rw [stumbles_iff finite, ← countSelected_fails_iff table 0]
      simp

/-- A compiled filter stumbles over an operand that is not finite. -/
theorem exists_unbounded_of_stumbles
    {operators : OperatorTable}
    {filter : Filter}
    {result : Option Predicate}
    (compiled : filter.compile operators table = .ok result)
    (stumbles : Stumbles result records) :
    ∃ condition ∈ filter.clauses, ∃ geometry,
      condition.Supplies geometry ∧ geometry.isFinite = false := by
  obtain ⟨predicate, rfl, record, _, clause, reached, _, unbounded⟩ := stumbles
  obtain ⟨condition, member, stands⟩ :=
    Filter.exists_standsFor_of_compile compiled reached.mem_tests
  exact ⟨condition, member, stands.exists_unbounded unbounded⟩

/--
On a table with finite coordinates, reading and counting with a compiled filter
fail in evaluation exactly if the evaluation stumbles over an unbounded test;
then the operand of some clause is the text of a geometry that is not finite.
-/
theorem evaluation_fails_iff_stumbles
    {operators : OperatorTable}
    {filter : Filter}
    {result : Option Predicate}
    (compiled : filter.compile operators table = .ok result)
    (scanned : session.scan table = .ok records)
    (finite : ∀ record ∈ records, record.IsFinite) :
    (∀ sorter sort paging,
      (∃ failure, execute sorter session table ⟨result, sort, paging⟩ = .error failure) ↔
        (∃ failure, checkSort table sort = .error failure) ∨ Stumbles result records) ∧
    ((∃ failure, count session table result = .error failure) ↔
      Stumbles result records) ∧
    (Stumbles result records →
      ∃ condition ∈ filter.clauses, ∃ geometry,
        condition.Supplies geometry ∧ geometry.isFinite = false) := by
  refine ⟨?_, ?_, ?_⟩
  · intro sorter sort paging
    exact execute_fails_iff sorter scanned finite
  · exact count_fails_iff scanned finite
  · exact exists_unbounded_of_stumbles compiled

/-! ## An operand beyond all finite numbers -/

/-- A body with an ordinate that is rounded to infinity. -/
def overflowing : List Char :=
  "\x7b\"column_name\":\"site\",\"operator\":\"INTERSECTS\",\"value\":\"POINT(1e400 1)\"\x7d".toList

/-- The filter of that body. -/
def overflowingFilter : Filter :=
  .clause ⟨"site", "INTERSECTS", some (.string "POINT(1e400 1)")⟩

theorem ofBody_overflowing : Filter.ofBody overflowing = .ok (some overflowingFilter) := by
  have text :
      overflowing =
        (Json.object [("column_name", .string "site"), ("operator", .string "INTERSECTS"),
          ("value", .string "POINT(1e400 1)")]).characters := by
    decide +kernel
  have visible : overflowing.all Filter.isBodyBlank = false := by decide +kernel
  rw [Filter.ofBody, visible, if_neg (by decide), text, Json.ofText?_characters]
  · rfl
  · exact ⟨by decide, by decide +kernel, trivial, trivial, trivial, trivial⟩

/-- The test that the filter becomes. -/
def overflowingTest : SpatialClause where
  test := .intersects
  column := "site"
  srid := 2056
  storedPart := none
  valuePart := none
  geometry := overflowingPoint
  wkt := overflowingPoint.wkt

theorem compile_overflowing :
    overflowingFilter.compile .standard parcelsTable =
      .ok (some (.spatial overflowingTest)) := by
  have found : parcelsTable.column? "site" = some parcelsTable.columns[2] := rfl
  have spelled : SpatialTest.ofSpelling? "INTERSECTS" = some .intersects := by decide +kernel
  have single : GeometryCase.namesSeveralParts "POINT(1e400 1)" = false := by decide +kernel
  have supplied :
      Clause.suppliedGeometry parcelsTable.columns[2] 2056 "POINT(1e400 1)" =
        .ok overflowingPoint := by
    rw [Clause.suppliedGeometry, LocatedGeometry.ofText_overflowingPoint]
  have becomes :
      Clause.Becomes .standard parcelsTable
        ⟨"site", "INTERSECTS", some (.string "POINT(1e400 1)")⟩ _ :=
    .spatial found rfl rfl spelled rfl rfl supplied
  rw [single] at becomes
  rw [overflowingFilter, Filter.compile, becomes.compile_eq_ok]
  rfl

/-- A parcel at the origin. -/
def parcelAtOrigin : Record :=
  .ofFields [("id", .int 1), ("site", .geometry (.point ⟨.zero, .zero⟩))]

/-- A session that sees this parcel in every table. -/
def parcelSession : Session :=
  ⟨fun _ => .ok [parcelAtOrigin]⟩

theorem get_parcelAtOrigin (name : String) :
    parcelAtOrigin.get name =
      if name = "site" then .geometry (.point ⟨.zero, .zero⟩)
      else if name = "id" then .int 1
      else .null := by
  simp [parcelAtOrigin, Record.ofFields]

theorem isFinite_parcelAtOrigin : ∀ record ∈ [parcelAtOrigin], record.IsFinite := by
  intro record member name geometry found
  rw [List.mem_singleton.mp member, get_parcelAtOrigin] at found
  split_ifs at found
  cases found
  decide +kernel

theorem stumbles_overflowing :
    Stumbles (some (.spatial overflowingTest)) [parcelAtOrigin] := by
  refine ⟨_, rfl, parcelAtOrigin, by simp, overflowingTest, .test overflowingTest, ?_, ?_⟩
  · refine ⟨.point ⟨.zero, .zero⟩, ?_, by decide +kernel⟩
    rw [get_parcelAtOrigin, if_pos (by decide +kernel)]
  · exact ⟨by decide +kernel, by decide +kernel⟩

/-- Counting the parcels fails, and the clause supplies a point that is not finite. -/
theorem evaluation_fails_iff_stumbles_overflowing :
    (∃ failure,
      count parcelSession parcelsTable (some (.spatial overflowingTest)) = .error failure) ∧
    ∃ condition ∈ overflowingFilter.clauses, ∃ geometry,
      condition.Supplies geometry ∧ geometry.isFinite = false := by
  have scanned : parcelSession.scan parcelsTable = .ok [parcelAtOrigin] := rfl
  obtain ⟨_, counting, blame⟩ :=
    evaluation_fails_iff_stumbles compile_overflowing scanned isFinite_parcelAtOrigin
  exact ⟨counting.mpr stumbles_overflowing, blame stumbles_overflowing⟩

/-- A filter that is read and compiled can still fail on finite records. -/
theorem evaluation_not_total :
    ¬∀ (declaration : TableDeclaration) (table : Table) (body : List Char) (filter : Filter)
        (result : Option Predicate) (session : Session) (records : List Record),
      declaration.describe = .ok table →
      Filter.ofBody body = .ok (some filter) →
      filter.compile .standard table = .ok result →
      session.scan table = .ok records →
      (∀ record ∈ records, record.IsFinite) →
      (∀ failure paging,
        execute .insertion session table ⟨result, none, paging⟩ ≠ .error failure) ∧
        ∀ failure, count session table result ≠ .error failure := by
  intro total
  have scanned : parcelSession.scan parcelsTable = .ok [parcelAtOrigin] := rfl
  have counts :=
    (total parcels parcelsTable overflowing overflowingFilter
      (some (.spatial overflowingTest)) parcelSession [parcelAtOrigin] describe_parcels
      ofBody_overflowing compile_overflowing scanned isFinite_parcelAtOrigin).2
  obtain ⟨failure, fails⟩ :=
    (count_fails_iff scanned isFinite_parcelAtOrigin).mpr stumbles_overflowing
  exact counts failure fails

end GeoTables.Query
