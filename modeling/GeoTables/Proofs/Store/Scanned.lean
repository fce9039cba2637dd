import GeoTables.Proofs.Json.Numbers
import GeoTables.Proofs.Store.Replay

/-!
# What a scan finds

A record that a scan finds was read from the text of a kept row, and that row
was submitted for a table with the qualified name of the scanned one.  Each of
its values fits its column.  No text of a number denotes the value that is not
a number, so this value is found only where the text of a string was written
for another table.
-/

namespace GeoTables

/-- A value of a column whose type is known is not read back as the float that is no number. -/
theorem Value.Fits.ne_nan_of_reread
    {column : Column}
    {value found : Value}
    {json : Json}
    (fits : value.Fits column)
    (known : column.type ≠ .unknown)
    (reread : value.toStored.reread? = some json)
    (read : ofStored column json = .ok found) :
    found ≠ .float .nan := by
  rintro rfl
  cases fits_of_ofStored read with
  | unknown _ type => exact known type
  | float own type inexact =>
      cases fits with
      | null =>
          cases reread
          cases read
      | unknown _ type => exact known type
      | float =>
          rw [toStored, Json.ofBinary64] at reread
          split_ifs at reread
          · obtain ⟨number, spelled, rfl⟩ := Option.map_eq_some_iff.mp reread
            rw [ofStored_eq_ofScalar own type rfl rfl rfl, inexact] at read
            have isNan : number.toBinary64 = .nan := by
              injection read with same
              injection same
            exact Json.ne_nan_of_value? spelled isNan
          · cases reread
            cases read
      | geometry _ geometric => simp [Column.isGeometry, type, LogicalType.isGeometry] at geometric
      | _ => simp_all

/-- A scalar that is read back from its text is not the float that is no number. -/
theorem Value.scalar_ne_nan_of_reread
    {source json : Json}
    (reread : source.reread? = some json) :
    scalar json ≠ .float .nan := by
  cases json with
  | number number =>
      cases source <;> simp only [Json.reread?, Option.map_eq_some_iff, Option.some.injEq,
        reduceCtorEq, and_false, exists_false] at reread
      case number value =>
        obtain ⟨_, spelled, ⟨⟩⟩ := reread
        cases signed : number.signed? with
        | none =>
            simp only [scalar, signed, ne_eq, float.injEq]
            exact Json.ne_nan_of_value? spelled
        | some _ => simp [scalar, signed]
  | _ => simp [scalar]

namespace RowStore

/-- A record that a scan finds was read from the text of an accepted row. -/
theorem exists_row_of_scan
    {table : Table}
    {submissions : List Submission}
    {records : List Record}
    {record : Record}
    (scanned : (replay submissions).scan table = .ok records)
    (member : record ∈ records) :
    ∃ row ∈ (Ledger.after table.qualifiedName submissions).rows,
      row.2.IsAccepted ∧ storedRecord table row.2.text = .ok record := by
  have mirrors := mirrors_replay table.qualifiedName submissions
  rw [scan, mirrors.entries, Outcome.mapM_eq_ok, List.forall₂_map_left_iff] at scanned
  obtain ⟨row, isRow, read⟩ := Outcome.exists_partner scanned.flip member
  exact ⟨row, isRow, mirrors.accepted row isRow, read⟩

variable {table : Table} {record : Record}

/-- The values of a record that is read from a stored row fit their columns. -/
theorem fits_of_storedRecord
    {row : List Char}
    {column : Column}
    (nodup : (table.columns.map Column.name).Nodup)
    (read : storedRecord table row = .ok record)
    (isColumn : column ∈ table.columns) :
    (record.get column.name).Fits column := by
  obtain ⟨_, _, each⟩ := exists_fields_of_storedRecord nodup read
  exact Value.fits_of_ofStored (each column isColumn)

/-- A row that was written for its own table has no float that is no number. -/
theorem ne_nan_of_storedRecord
    {row : KeptRow}
    {column : Column}
    (nodup : (table.columns.map Column.name).Nodup)
    (accepted : row.IsAccepted)
    (own : row.table = table)
    (read : storedRecord table row.text = .ok record)
    (isColumn : column ∈ table.columns)
    (known : column.type ≠ .unknown) :
    record.get column.name ≠ .float .nan := by
  obtain ⟨written, isText, _, fits, absent⟩ := accepted.exists_record
  rw [isText, own] at read
  rw [own] at fits absent
  obtain ⟨_, each⟩ :=
    exists_reread_of_storedRecord nodup nodup fits (fun column _ => absent column.name) read
  obtain ⟨json, reread, isRead⟩ := each column isColumn
  exact (fits column isColumn).ne_nan_of_reread known reread isRead

/-- No row has a float that is no number in a column whose type is not known. -/
theorem ne_nan_of_unknown
    {row : KeptRow}
    {column : Column}
    (nodup : (table.columns.map Column.name).Nodup)
    (accepted : row.IsAccepted)
    (read : storedRecord table row.text = .ok record)
    (isColumn : column ∈ table.columns)
    (own : column.isRelationship = false)
    (unknown : column.type = .unknown) :
    record.get column.name ≠ .float .nan := by
  obtain ⟨written, isText, _, fits, absent⟩ := accepted.exists_record
  rw [isText] at read
  obtain ⟨_, each⟩ :=
    exists_reread_of_storedRecord nodup accepted.distinct fits
      (fun column _ => absent column.name) read
  obtain ⟨json, reread, isRead⟩ := each column isColumn
  intro isNan
  rw [isNan] at isRead
  have plainColumn : column.isGeometry = false := by rw [Column.isGeometry, unknown]; rfl
  cases isNull : json.isNull with
  | true => simp [Value.ofStored, isNull] at isRead
  | false =>
      cases nested : Value.isNested json with
      | true => simp [Value.ofStored, Value.coerce, isNull, own, plainColumn, nested] at isRead
      | false =>
          rw [Value.ofStored_eq_ofScalar own unknown rfl isNull nested] at isRead
          exact Value.scalar_ne_nan_of_reread reread (Except.ok.inj isRead)

section

variable {column : Column} {submissions : List Submission} {records : List Record}

/-- The values that a scan finds in a column fit it. -/
theorem fits_of_scan
    (nodup : (table.columns.map Column.name).Nodup)
    (scanned : (replay submissions).scan table = .ok records)
    (member : record ∈ records)
    (isColumn : column ∈ table.columns) :
    (record.get column.name).Fits column := by
  obtain ⟨_, _, _, read⟩ := exists_row_of_scan scanned member
  exact fits_of_storedRecord nodup read isColumn

/-- In a column whose type is not known a scan finds no float that is not a number. -/
theorem ne_nan_of_scan_of_unknown
    (nodup : (table.columns.map Column.name).Nodup)
    (scanned : (replay submissions).scan table = .ok records)
    (member : record ∈ records)
    (isColumn : column ∈ table.columns)
    (own : column.isRelationship = false)
    (unknown : column.type = .unknown) :
    record.get column.name ≠ .float .nan := by
  obtain ⟨_, _, accepted, read⟩ := exists_row_of_scan scanned member
  exact ne_nan_of_unknown nodup accepted read isColumn own unknown

end

end RowStore

end GeoTables
