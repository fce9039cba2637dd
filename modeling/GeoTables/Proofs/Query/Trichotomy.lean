import GeoTables.Proofs.Filter.WellFormed
import GeoTables.Proofs.Store.Scanned
import GeoTables.Proofs.Value.Comparison
import GeoTables.Query.Execution

/-!
# Comparisons of stored fields

A field that a scan finds and an operand that was read for its column are
values of one type.  If this type is known, neither is null and neither is the
float that is not a number, they have an order: of the clauses that compare the
column with the operand, one of less, equal and greater matches the record, and
the other three follow from it.
-/

namespace GeoTables

/-! ## Outcomes of the six comparisons -/

namespace Comparison

/-- One of less, equal and greater comes out, and the other comparisons follow from these. -/
structure AreTrichotomous (outcome : Comparison → Bool) : Prop where
  one : ∃! comparison, comparison ∈ [lt, eq, gt] ∧ outcome comparison = true
  le : outcome le = (outcome lt || outcome eq)
  ge : outcome ge = (outcome gt || outcome eq)
  ne : outcome ne = !outcome eq

/-- What comes out for two values in an order. -/
def ofOrder : Ordering → Comparison
  | .lt => lt
  | .eq => eq
  | .gt => gt

/-- Comparable values have their order and no other one. -/
theorem areTrichotomous
    {left right : Value}
    (comparable : left.AreComparable right) :
    AreTrichotomous fun comparison => comparison.holds left right := by
  obtain ⟨order, ordered, isEqual⟩ := comparable
  have equal : left.equal right = (order == .eq) := by
    rw [Bool.eq_iff_iff, isEqual, beq_iff_eq]
  constructor
  · refine ⟨ofOrder order, ?_, ?_⟩
    · cases order <;> simp [ofOrder, holds, ordered, equal]
    · rintro comparison ⟨strict, outcome⟩
      cases order <;> cases comparison <;> simp_all [ofOrder, holds]
  · simp [holds, ordered, equal]
  · simp [holds, ordered, equal]
  · rfl

end Comparison

namespace Clause

/-- The clause that compares a column with an operand. -/
def comparing (name : String) (comparison : Comparison) (operand : Json) : Clause :=
  ⟨name, comparison.sign, some operand⟩

theorem get?_sign (comparison : Comparison) :
    OperatorTable.standard.get? comparison.sign = some (.compare comparison) := by
  cases comparison <;> decide +kernel

/-- No test of geometries is spelled like a comparison. -/
theorem ofSpelling?_sign (comparison : Comparison) :
    SpatialTest.ofSpelling? comparison.sign = none := by
  cases comparison <;> decide +kernel

variable {table : Table} {column : Column} {name : String} {operand : Json}

/-- If one comparison with an operand compiles, its column is one of scalars with a value for it. -/
theorem exists_value_of_comparing
    {comparison : Comparison}
    {leaf : Predicate}
    (found : table.column? name = some column)
    (compiled : (comparing name comparison operand).compile .standard table = .ok leaf) :
    column.isRelationship = false ∧
      column.isGeometry = false ∧
        operand.isNull = false ∧
          ∃ value, Value.coerce column operand = .ok value := by
  cases becomes_of_compile compiled with
  | spatial _ _ _ spelled =>
      rw [comparing, ofSpelling?_sign] at spelled
      cases spelled
  | scalar isColumn own plain known made =>
      cases found.symm.trans isColumn
      cases (get?_sign comparison).symm.trans known
      cases supplied : (comparing name comparison operand).present? with
      | none =>
          rw [supplied] at made
          cases made
      | some json =>
          rw [supplied] at made
          cases made with
          | compare coerced =>
              cases (Option.filter_eq_some_iff.mp supplied).1
              exact ⟨own, plain, isNull_of_present supplied, _, coerced⟩

/-- An operand with a value makes a leaf for every comparison. -/
theorem compile_comparing
    {value : Value}
    (found : table.column? name = some column)
    (own : column.isRelationship = false)
    (plain : column.isGeometry = false)
    (present : operand.isNull = false)
    (coerced : Value.coerce column operand = .ok value)
    (comparison : Comparison) :
    (comparing name comparison operand).compile .standard table =
      .ok (.compare column.name comparison value) := by
  have supplied : (comparing name comparison operand).present? = some operand := by
    simp [present?, comparing, Option.filter, present]
  apply Becomes.compile_eq_ok
  refine .scalar found own plain (get?_sign comparison) ?_
  rw [supplied]
  exact .compare coerced

end Clause

/-! ## Stored fields -/

namespace RowStore

/-- All rows of the name were submitted for the table itself. -/
def Owns (table : Table) (submissions : List Submission) : Prop :=
  ∀ submission ∈ submissions,
    submission.table.qualifiedName = table.qualifiedName → submission.table = table

/-- In rows of its own a scanned table finds no float that is not a number. -/
theorem ne_nan_of_scan
    {table : Table}
    {column : Column}
    {submissions : List Submission}
    {records : List Record}
    {record : Record}
    (nodup : (table.columns.map Column.name).Nodup)
    (owns : Owns table submissions)
    (scanned : (replay submissions).scan table = .ok records)
    (member : record ∈ records)
    (isColumn : column ∈ table.columns)
    (known : column.type ≠ .unknown) :
    record.get column.name ≠ .float .nan := by
  obtain ⟨row, isRow, accepted, read⟩ := exists_row_of_scan scanned member
  obtain ⟨submission, submitted, sameName, sameTable, _⟩ :=
    Ledger.exists_submission_of_mem isRow
  have own : row.2.table = table := sameTable.trans (owns submission submitted sameName)
  exact ne_nan_of_storedRecord nodup accepted own read isColumn known

end RowStore

namespace Query

open RowStore (replay Owns)

/--
A column of a described table, neither of geometries nor a relationship and of
a known type, is compared with an operand that its equality takes.  In a record
that a scan finds, a field that is not null has an order with the value of the
operand, and the six comparisons come out as this order says.

The rows are those of any sequence of submissions for any tables.  A table that
shares the qualified name of the scanned one may have written texts where that
one has floats, and the text `nan` among them; apart from this value such rows
are compared like all others.
-/
theorem comparisons_trichotomous
    {declaration : TableDeclaration}
    {table : Table}
    {column : Column}
    {name : String}
    {operand : Json}
    {leaf : Predicate}
    {submissions : List Submission}
    {records : List Record}
    {record : Record}
    (described : declaration.describe = .ok table)
    (found : table.column? name = some column)
    (known : column.type ≠ .unknown)
    (compiled : (Clause.comparing name .eq operand).compile .standard table = .ok leaf)
    (numeric : Value.coerce column operand ≠ .ok (.float .nan))
    (scanned : (replay submissions).scan table = .ok records)
    (member : record ∈ records)
    (present : record.get name ≠ .null)
    (ordinary : Owns table submissions ∨ record.get name ≠ .float .nan) :
    ∃ value,
      Value.coerce column operand = .ok value ∧
        (record.get name).AreComparable value ∧
          ∃ outcome : Comparison → Bool,
            Comparison.AreTrichotomous outcome ∧
              ∀ comparison, ∃ test,
                (Clause.comparing name comparison operand).compile .standard table = .ok test ∧
                  test.holds record = .ok (outcome comparison) := by
  have nodup := TableDeclaration.nodup_columns_of_describe described
  obtain ⟨isColumn, rfl⟩ := Table.mem_of_column? found
  obtain ⟨own, plain, supplied, value, coerced⟩ :=
    Clause.exists_value_of_comparing found compiled
  have fieldFits : (record.get column.name).Fits column := by
    obtain ⟨_, _, _, read⟩ := RowStore.exists_row_of_scan scanned member
    exact RowStore.fits_of_storedRecord nodup read isColumn
  have fieldNumeric : record.get column.name ≠ .float .nan := by
    rcases ordinary with owns | numeric
    · exact RowStore.ne_nan_of_scan nodup owns scanned member isColumn known
    · exact numeric
  have valuePresent : value ≠ .null := by
    rintro rfl
    exact absurd (Value.isNull_coerce supplied coerced) (by decide)
  have valueNumeric : value ≠ .float .nan := by
    rintro rfl
    exact numeric coerced
  have comparable : (record.get column.name).AreComparable value :=
    fieldFits.areComparable (Value.fits_of_coerce own coerced) own plain known present
      valuePresent fieldNumeric valueNumeric
  refine ⟨value, coerced, comparable, _, Comparison.areTrichotomous comparable, ?_⟩
  intro comparison
  refine ⟨_, Clause.compile_comparing found own plain supplied coerced comparison, ?_⟩
  have notNull : (record.get column.name).isNull = false := by
    cases value : record.get column.name <;> simp_all [Value.isNull]
  rw [Predicate.holds, notNull]
  rfl

/-- The bare parcel as a scan finds it. -/
def scannedParcel : Record :=
  .ofFields [("id", .int 1), ("area", .null), ("site", .null)]

/-- The number of the bare parcel is less than two, and so neither equal to it nor greater. -/
theorem comparisons_trichotomous_bareParcel :
    (replay [RowStore.bareParcel]).scan parcelsTable = .ok [scannedParcel] ∧
      ∃ outcome : Comparison → Bool,
        Comparison.AreTrichotomous outcome ∧
          outcome .lt = true ∧
            ∀ comparison, ∃ test,
              (Clause.comparing "id" comparison (.ofInt 2)).compile .standard parcelsTable =
                  .ok test ∧
                test.holds scannedParcel = .ok (outcome comparison) := by
  have scanned : (replay [RowStore.bareParcel]).scan parcelsTable = .ok [scannedParcel] := rfl
  have compiled (comparison : Comparison) :
      (Clause.comparing "id" comparison (.ofInt 2)).compile .standard parcelsTable =
        .ok (.compare "id" comparison (.int 2)) := by
    cases comparison <;> rfl
  have found : parcelsTable.column? "id" = some parcelsTable.columns[0] := rfl
  have numeric : Value.coerce parcelsTable.columns[0] (.ofInt 2) ≠ .ok (.float .nan) := nofun
  have own : Owns parcelsTable [RowStore.bareParcel] := by
    intro submission submitted _
    rw [List.mem_singleton.mp submitted]
    rfl
  obtain ⟨_, _, _, outcome, trichotomous, each⟩ :=
    comparisons_trichotomous describe_parcels found (by decide) (compiled .eq) numeric scanned
      (List.mem_singleton.mpr rfl) nofun (.inl own)
  refine ⟨scanned, outcome, trichotomous, ?_, each⟩
  obtain ⟨test, isTest, holds⟩ := each .lt
  cases (compiled .lt).symm.trans isTest
  exact (Except.ok.inj holds).symm

end Query

end GeoTables
