import GeoTables.Output.Reading
import GeoTables.Proofs.Output.Texts
import GeoTables.Proofs.Store.Rows
import GeoTables.Proofs.Table.Single

/-!
# Plain texts that are read back

The plain text of records is read back record by record and column by column,
geometries and relationships left out.  A field comes back exactly if its form
outlasts the text: a floating-point number has to be the one that its own
spelling denotes, and a decimal has to be one that can be read from the
spelling of the floating-point number it is written as.  The fields that are
left out still have to be read as JSON, since one that is nested too deeply or
holds a number out of range makes the whole text unreadable.
-/

namespace GeoTables

open Json (Outline IsRegular)

/-! ## Reading a text row by row -/

/-- The depth to which the fields of a row may be nested. -/
def fieldDepth : Nat := Json.maxDepth - 2

/-- The fields of a row as a reader of the text has them. -/
def fieldsOfRow? (row : List (String × Json)) : Option (List (String × Json)) :=
  Outline.memberValues? fieldDepth (Json.fieldOutlines row)

section

variable {rows : List (List (String × Json))}

/-- The values of the rows of an array are read one by one. -/
theorem itemValues?_rows (rows : List (List (String × Json))) :
    Outline.itemValues? (fieldDepth + 1) (rows.map fun row => .object (Json.fieldOutlines row)) =
      (rows.mapM fieldsOfRow?).map (List.map Json.ofFields) := by
  induction rows with
  | nil => rfl
  | cons row rest induction =>
      rw [List.map_cons, Outline.itemValues?, induction, List.mapM_cons, Outline.value?,
        if_neg (Nat.succ_ne_zero fieldDepth)]
      change ((fieldsOfRow? row).map Json.ofFields).bind _ = _
      cases fieldsOfRow? row with
      | none => rfl
      | some fields => cases rest.mapM fieldsOfRow? <;> rfl

/-- The value of a text of rows is an array of objects, if each row has its fields. -/
theorem value?_arrayOf_rowText
    (regular : ∀ row ∈ rows, ∀ entry ∈ row, entry.2.IsRegular) :
    Json.ofText? (Json.arrayOf (rows.map rowText)) =
      (rows.mapM fieldsOfRow?).map fun found => .array (found.map Json.ofFields) := by
  have read := itemValues?_rows rows
  have depth : Json.maxDepth - 1 = fieldDepth + 1 := rfl
  rw [Json.ofText?, ofText?_arrayOf_rowText regular]
  change Outline.value? Json.maxDepth (.array _) = _
  rw [Outline.value?, if_neg (by decide), depth, read, Option.map_map]
  rfl

/-- Objects of fields are taken as objects. -/
theorem objectsOf?_map_ofFields (found : List (List (String × Json))) :
    objectsOf? (.array (found.map Json.ofFields)) = some (found.map Json.sortedFields) := by
  rw [objectsOf?]
  induction found with
  | nil => rfl
  | cons fields rest induction =>
      rw [List.map_cons, List.mapM_cons, induction]
      rfl

/-- A text of rows is read as records exactly if each row is read as its record. -/
theorem readRecords_eq_ok
    {table : Table}
    {decoded : List Record}
    (regular : ∀ row ∈ rows, ∀ entry ∈ row, entry.2.IsRegular) :
    readRecords table (Json.arrayOf (rows.map rowText)) = .ok decoded ↔
      List.Forall₂
        (fun row record =>
          ∃ fields,
            fieldsOfRow? row = some fields ∧
              Record.ofObject table (Json.sortedFields fields) = .ok record)
        rows decoded := by
  have found :
      readRecords table (Json.arrayOf (rows.map rowText)) = .ok decoded ↔
        ∃ found,
          rows.mapM fieldsOfRow? = some found ∧
            (found.map Json.sortedFields).mapM (Record.ofObject table) = .ok decoded := by
    rw [readRecords, value?_arrayOf_rowText regular]
    cases rows.mapM fieldsOfRow? with
    | none => simp
    | some found => simp [objectsOf?_map_ofFields]
  rw [found, ← Outcome.exists_forall₂_iff]
  simp only [Outcome.mapM_eq_some, Outcome.mapM_eq_ok, List.forall₂_map_left_iff]

end

/-! ## Fields that come back -/

/-- The column is one of those whose fields are read back. -/
def Column.isReadBack (column : Column) : Bool :=
  !column.isGeometry && !column.isRelationship

namespace Value

/-- A value is read back as itself, and a decimal as the one that is read from the number it is
written as. -/
def IsReadAs (value again : Value) : Prop :=
  match value with
  | .decimal number =>
      ∃ other, again = .decimal other ∧ decimalOf (Json.ofBinary64 number.toBinary64) = .ok other
  | _ => again = value

/-- The form of the value is read back, for the column, as it is to be. -/
def Returns (column : Column) (value : Value) : Prop :=
  ∃ form json again,
    value.formatted column.name = .ok form ∧ form.reread? = some json ∧
      coerce column json = .ok again ∧ value.IsReadAs again

/-- The form of the value does not keep a text from being read, and in a column that is read back
it has to be read as the value: a floating-point number has to be the one that its spelling
denotes, and a decimal one that the spelling of its floating-point number can be read as, before
this number is read itself and after. -/
def OutlastsText (column : Column) (value : Value) : Prop :=
  if column.isReadBack then
    match value with
    | .float number => number.IsDurable
    | .decimal number =>
        ∃ json other,
          (Json.ofBinary64 number.toBinary64).reread? = some json ∧
            decimalOf json = .ok other ∧
            decimalOf (Json.ofBinary64 number.toBinary64) = .ok other
    | _ => True
  else
    ∀ form,
      value.formatted column.name = .ok form →
      form.IsPlain fieldDepth ∧ form.reread?.isSome

/-- On columns that are read back stored forms are read like all others. -/
theorem ofStored_eq_coerce
    {column : Column}
    (readBack : column.isReadBack = true)
    (json : Json) :
    ofStored column json = coerce column json := by
  simp only [Column.isReadBack, Bool.and_eq_true, Bool.not_eq_true'] at readBack
  unfold ofStored
  by_cases null : json.isNull = true
  · rw [coerce, if_pos null, if_pos null]
  · rw [if_neg null, readBack.1, readBack.2]
    rfl

section

variable {column : Column} {value : Value}

/-- All values but decimals are written in the form in which they are stored. -/
theorem Fits.formatted_eq_toStored
    (readBack : column.isReadBack = true)
    (fits : Fits column value)
    (notDecimal : ∀ number, value ≠ .decimal number) :
    value.formatted column.name = .ok value.toStored := by
  simp only [Column.isReadBack, Bool.and_eq_true, Bool.not_eq_true'] at readBack
  cases fits with
  | association related _ => rw [readBack.2] at related; cases related
  | geometry _ geometric => rw [readBack.1] at geometric; cases geometric
  | decimal => exact absurd rfl (notDecimal _)
  | unknown _ _ isScalar => cases isScalar <;> rfl
  | _ => rfl

/-- A decimal comes back if the spelling of its floating-point number is read as it is to be. -/
theorem returns_decimal_iff
    {number : Decimal}
    (readBack : column.isReadBack = true)
    (type : column.type = .float)
    (exact_ : column.isExact = true) :
    (Value.decimal number).Returns column ↔ (Value.decimal number).OutlastsText column := by
  have read (json : Json) (other : Decimal) :
      coerce column json = .ok (.decimal other) ↔ decimalOf json = .ok other := by
    cases json <;> simp [coerce, Json.isNull, isNested, type, exact_, ofScalar, decimalOf]
  rw [OutlastsText, if_pos readBack]
  constructor
  · rintro ⟨_, json, _, ⟨⟩, isRead, isValue, other, rfl, isWritten⟩
    exact ⟨json, other, isRead, (read json other).mp isValue, isWritten⟩
  · rintro ⟨json, other, isRead, isValue, isWritten⟩
    exact ⟨_, json, _, rfl, isRead, (read json other).mpr isValue, other, rfl, isWritten⟩

/-- A value that fits a column comes back exactly if it outlasts its text. -/
theorem Fits.returns_iff
    (readBack : column.isReadBack = true)
    (fits : Fits column value) :
    value.Returns column ↔ value.OutlastsText column := by
  by_cases isDecimal : ∃ number, value = .decimal number
  · obtain ⟨number, rfl⟩ := isDecimal
    cases fits with
    | decimal _ type exact_ => exact returns_decimal_iff readBack type exact_
    | unknown _ _ isScalar => cases isScalar
  have notDecimal : ∀ number, value ≠ .decimal number := not_exists.mp isDecimal
  have same (again : Value) : value.IsReadAs again ↔ again = value := by
    cases value with
    | decimal number => exact absurd rfl (notDecimal number)
    | _ => exact Iff.rfl
  have returns : value.Returns column ↔ value.ReadsBack column := by
    have form := fits.formatted_eq_toStored readBack notDecimal
    simp only [Returns, ReadsBack, form, same, ofStored_eq_coerce readBack]
    constructor
    · rintro ⟨_, json, _, ⟨⟩, isRead, isValue, rfl⟩
      exact ⟨json, isRead, isValue⟩
    · rintro ⟨json, isRead, isValue⟩
      exact ⟨_, json, _, rfl, isRead, isValue, rfl⟩
  rw [returns, fits.readsBack_iff]
  unfold OutlastsText
  rw [if_pos readBack]
  simp only [Column.isReadBack, Bool.and_eq_true, Bool.not_eq_true'] at readBack
  cases fits with
  | association related _ => rw [readBack.2] at related; cases related
  | geometry _ geometric => rw [readBack.1] at geometric; cases geometric
  | decimal => exact absurd rfl (notDecimal _)
  | unknown _ _ isScalar => cases isScalar <;> exact Iff.rfl
  | _ => exact Iff.rfl

/-- Some JSON value is read as a durable value that fits a column which is read back. -/
theorem Fits.exists_coerce
    (readBack : column.isReadBack = true)
    (fits : Fits column value)
    (durable : value.IsDurable) :
    ∃ json, coerce column json = .ok value := by
  obtain ⟨json, _, read⟩ := fits.readsBack_iff.mpr durable
  exact ⟨json, (ofStored_eq_coerce readBack json).symm.trans read⟩

/-- A decimal outlasts its text if its floating-point number is durable and can be read. -/
theorem outlastsText_decimal
    {number other : Decimal}
    (readBack : column.isReadBack = true)
    (durable : number.toBinary64.IsDurable)
    (read : decimalOf (Json.ofBinary64 number.toBinary64) = .ok other) :
    (Value.decimal number).OutlastsText column := by
  have written : Json.ofBinary64 number.toBinary64 = .number (.float number.toBinary64) :=
    if_pos durable.1
  have comesBack :
      ∃ json,
        (Json.ofBinary64 number.toBinary64).reread? = some json ∧
          json = .number (.float number.toBinary64) :=
    (exists_reread?_ofBinary64_iff (by simp) nofun).mpr durable
  obtain ⟨json, isRead, rfl⟩ := comesBack
  rw [OutlastsText, if_pos readBack]
  exact ⟨_, other, isRead, written ▸ read, read⟩

/-- A point outlasts its text if its coordinates can be read. -/
theorem outlastsText_point
    {position : Coordinate}
    (geometric : column.isReadBack = false)
    (east : (Json.ofBinary64 position.x).reread?.isSome)
    (north : (Json.ofBinary64 position.y).reread?.isSome) :
    (Value.geometry (.point position)).OutlastsText column := by
  unfold OutlastsText
  rw [geometric, if_neg Bool.false_ne_true]
  rintro form ⟨⟩
  refine ⟨⟨by decide, isPlain_ofBinary64 _ _, isPlain_ofBinary64 _ _, trivial⟩, ?_⟩
  rw [Geometry.positionCoordinates, Json.reread?, Option.isSome_map, Json.isSome_rereadItems?_iff]
  exact List.forall_mem_cons.mpr ⟨east, List.forall_mem_singleton.mpr north⟩

/-- A value that is to come back does not keep its text from being read. -/
theorem OutlastsText.isReadable
    {form : Json}
    (outlasts : value.OutlastsText column)
    (fits : column.isReadBack = true → Fits column value)
    (isForm : value.formatted column.name = .ok form) :
    form.IsPlain fieldDepth ∧ form.reread?.isSome := by
  by_cases readBack : column.isReadBack = true
  · have isFit := fits readBack
    obtain ⟨other, json, _, isOther, isRead, _⟩ := (isFit.returns_iff readBack).mpr outlasts
    cases isForm.symm.trans isOther
    refine ⟨?_, Option.isSome_of_eq_some isRead⟩
    by_cases isDecimal : ∃ number, value = .decimal number
    · obtain ⟨number, rfl⟩ := isDecimal
      cases isForm
      exact isPlain_ofBinary64 number.toBinary64 fieldDepth
    · cases isForm.symm.trans
        (isFit.formatted_eq_toStored readBack (not_exists.mp isDecimal))
      exact isFit.isPlain 123
  · unfold OutlastsText at outlasts
    rw [if_neg readBack] at outlasts
    exact outlasts form isForm

end

end Value

/-! ## Records that come back -/

namespace Record

/-- The fields that are read back hold values that can be read for their columns. -/
def IsProducible (table : Table) (record : Record) : Prop :=
  ∀ column ∈ table.columns,
    column.isReadBack = true →
    ∃ json, Value.coerce column json = .ok (record.get column.name)

/-- The fields that are read back are so as they are to be. -/
def IsReadAs (table : Table) (record decoded : Record) : Prop :=
  ∀ column ∈ table.columns,
    column.isReadBack = true →
    (record.get column.name).IsReadAs (decoded.get column.name)

theorem name_of_readField
    {column : Column}
    {fields : List (String × Json)}
    {entry : String × Value}
    (read : column.readField fields = .ok entry) :
    entry.1 = column.name := by
  unfold Column.readField at read
  split at read
  · cases read
    rfl
  · split at read
    · cases read
      rfl
    · cases read

theorem names_of_readFields
    {columns : List Column}
    {fields : List (String × Json)}
    {entries : List (String × Value)}
    (paired : List.Forall₂
      (fun column entry => column.readField fields = .ok entry) columns entries) :
    entries.map Prod.fst = columns.map Column.name := by
  induction paired with
  | nil => rfl
  | cons own _ induction => rw [List.map_cons, List.map_cons, name_of_readField own, induction]

/-- The field of a column that an object has is read by the column. -/
theorem readField_eq_ok
    {column : Column}
    {fields : List (String × Json)}
    {json : Json}
    {value : Value}
    (found : Json.field? fields column.name = some json) :
    column.readField fields = .ok (column.name, value) ↔
      Value.coerce column json = .ok value := by
  unfold Column.readField
  rw [found]
  dsimp only
  split
  · rename_i read
    rw [read]
    simp
  · rename_i fails
    rw [fails]
    simp

/-- A record of read entries is read as another one exactly if every entry is, name and value. -/
theorem isReadAs_ofFields_iff
    {table : Table}
    (nodup : (table.columns.map Column.name).Nodup)
    {fields : List (String × Json)}
    {entries : List (String × Value)}
    (record : Record)
    (paired : List.Forall₂ (fun column entry => column.readField fields = .ok entry)
      (table.columns.filter Column.isReadBack) entries) :
    record.IsReadAs table (ofFields entries) ↔
      List.Forall₂
        (fun column entry =>
          entry.1 = column.name ∧ (record.get column.name).IsReadAs entry.2)
        (table.columns.filter Column.isReadBack) entries := by
  have distinct : (entries.map Prod.fst).Nodup := by
    rw [names_of_readFields paired]
    exact nodup.sublist (List.filter_sublist.map Column.name)
  have get {entry : String × Value} (member : entry ∈ entries) :
      (ofFields entries).get entry.1 = entry.2 := by
    rw [get_ofFields distinct, Entries.lookup_of_mem distinct member, Option.getD_some]
  constructor
  · intro isRead
    rw [List.forall₂_iff_zip] at paired ⊢
    refine ⟨paired.1, fun {column entry} together => ?_⟩
    obtain ⟨isColumn, isEntry⟩ := List.of_mem_zip together
    have named : entry.1 = column.name := name_of_readField (paired.2 together)
    have isReadBack := List.mem_filter.mp isColumn
    have value := isRead column isReadBack.1 isReadBack.2
    rw [← named, get isEntry, named] at value
    exact ⟨named, value⟩
  · intro isWanted column isColumn isReadBack
    obtain ⟨entry, member, named, isRead⟩ :=
      Outcome.exists_partner isWanted (List.mem_filter.mpr ⟨isColumn, isReadBack⟩)
    rw [← named, get member, named]
    exact isRead

/-- An object is read as the record exactly if each of the fields is read as it is to be. -/
theorem exists_ofObject_iff
    {table : Table}
    (nodup : (table.columns.map Column.name).Nodup)
    (fields : List (String × Json))
    (record : Record) :
    (∃ decoded, ofObject table fields = .ok decoded ∧ record.IsReadAs table decoded) ↔
      ∀ column ∈ table.columns,
        column.isReadBack = true →
        ∃ again,
          column.readField fields = .ok (column.name, again) ∧
            (record.get column.name).IsReadAs again := by
  let readBack := table.columns.filter Column.isReadBack
  have step : (∃ decoded, ofObject table fields = .ok decoded ∧ record.IsReadAs table decoded) ↔
      ∃ entries,
        readBack.mapM (fun column => column.readField fields) = .ok entries ∧
          List.Forall₂
            (fun column entry =>
              entry.1 = column.name ∧ (record.get column.name).IsReadAs entry.2)
            readBack entries := by
    simp only [ofObject, Outcome.bind_eq_ok, Outcome.pure_eq_ok]
    constructor
    · rintro ⟨_, ⟨entries, read, rfl⟩, isRead⟩
      exact ⟨entries, read,
        (isReadAs_ofFields_iff nodup record (Outcome.mapM_eq_ok.mp read)).mp isRead⟩
    · rintro ⟨entries, read, isWanted⟩
      exact ⟨_, ⟨entries, read, rfl⟩,
        (isReadAs_ofFields_iff nodup record (Outcome.mapM_eq_ok.mp read)).mpr isWanted⟩
  rw [step, Outcome.exists_mapM_eq_ok_iff]
  simp only [readBack, List.mem_filter, and_imp]
  refine forall₃_congr fun column _ _ => ?_
  constructor
  · rintro ⟨⟨name, again⟩, read, rfl, isRead⟩
    exact ⟨again, read, isRead⟩
  · rintro ⟨again, read, isRead⟩
    exact ⟨(column.name, again), read, rfl, isRead⟩

section

variable
    {declaration : TableDeclaration}
    {table : Table}
    {record : Record}
    {row fields : List (String × Json)}

theorem IsProducible.fits
    (producible : record.IsProducible table)
    {column : Column}
    (member : column ∈ table.columns)
    (readBack : column.isReadBack = true) :
    (record.get column.name).Fits column := by
  obtain ⟨json, read⟩ := producible column member readBack
  simp only [Column.isReadBack, Bool.and_eq_true, Bool.not_eq_true'] at readBack
  exact Value.fits_of_coerce readBack.2 read

/-- What the form of a field is read back as is found under the name of its column. -/
theorem field?_of_row
    (described : declaration.describe = .ok table)
    (isRow : record.formatted table table.columns = .ok row)
    (read : Json.rereadFields? row = some fields)
    {column : Column}
    (member : column ∈ table.columns) :
    ∃ form,
      (record.get column.name).formatted column.name = .ok form ∧
        (column.name, form) ∈ row ∧
        Json.field? (Json.sortedFields fields) column.name = form.reread? := by
  have nodup := TableDeclaration.nodup_columns_of_describe described
  obtain ⟨form, isForm, found⟩ := lookup_of_formatted nodup isRow member
  refine ⟨form, isForm, Entries.mem_of_lookup found, ?_⟩
  have distinct : (fields.map Prod.fst).Nodup := by
    rw [Json.names_of_rereadFields? read, names_of_formatted isRow]
    exact nodup
  have reread := Json.field?_of_rereadFields? read column.name
  rw [Json.field?, Json.field?, found, Option.bind_some] at reread
  rw [Json.field?_sortedFields distinct, reread]

/-- If a row is read as its record, all fields of the record outlast the text. -/
theorem outlastsText_of_read_row
    {decoded : Record}
    (described : declaration.describe = .ok table)
    (producible : record.IsProducible table)
    (isRow : record.formatted table table.columns = .ok row)
    (found : fieldsOfRow? row = some fields)
    (isObject : ofObject table (Json.sortedFields fields) = .ok decoded)
    (isRead : record.IsReadAs table decoded) :
    ∀ column ∈ table.columns, (record.get column.name).OutlastsText column := by
  intro column member
  have nodup := TableDeclaration.nodup_columns_of_describe described
  obtain ⟨plain, read⟩ := (Json.memberValues?_eq_some_iff (isRegular_formatted isRow)).mp found
  have isSome := Json.isSome_rereadFields?_iff.mp (Option.isSome_of_eq_some read)
  obtain ⟨form, isForm, inRow, isField⟩ := field?_of_row described isRow read member
  obtain ⟨json, isJson⟩ := Option.isSome_iff_exists.mp (isSome _ inRow)
  by_cases readBack : column.isReadBack = true
  · obtain ⟨again, isValue, comesBack⟩ :=
      (exists_ofObject_iff nodup _ record).mp ⟨decoded, isObject, isRead⟩ column member readBack
    have coerced := (readField_eq_ok (isField.trans isJson)).mp isValue
    exact ((producible.fits member readBack).returns_iff readBack).mp
      ⟨form, json, again, isForm, isJson, coerced, comesBack⟩
  · unfold Value.OutlastsText
    rw [if_neg readBack]
    intro other isOther
    cases isForm.symm.trans isOther
    exact ⟨Json.isPlain_of_mem_fields plain _ inRow, isSome _ inRow⟩

/-- If all its fields outlast the text, the row of a record can be read. -/
theorem exists_fieldsOfRow
    (producible : record.IsProducible table)
    (isRow : record.formatted table table.columns = .ok row)
    (outlasts : ∀ column ∈ table.columns, (record.get column.name).OutlastsText column) :
    ∃ fields, fieldsOfRow? row = some fields ∧ Json.rereadFields? row = some fields := by
  have readable : ∀ entry ∈ row, entry.2.IsPlain fieldDepth ∧ entry.2.reread?.isSome := by
    intro entry inRow
    obtain ⟨column, member, _, isForm⟩ :=
      Outcome.exists_partner (formatted_eq_ok.mp isRow).flip inRow
    exact (outlasts column member).isReadable (producible.fits member) isForm
  have plain := Json.fieldsArePlain_of_forall fun entry inRow => (readable entry inRow).1
  obtain ⟨fields, read⟩ := Option.isSome_iff_exists.mp
    (Json.isSome_rereadFields?_iff.mpr fun entry inRow => (readable entry inRow).2)
  exact ⟨fields, (Json.memberValues?_eq_some_iff (isRegular_formatted isRow)).mpr ⟨plain, read⟩,
    read⟩

/-- A row is read as its record exactly if all fields of the record outlast the text. -/
theorem exists_read_row_iff
    (described : declaration.describe = .ok table)
    (producible : record.IsProducible table)
    (isRow : record.formatted table table.columns = .ok row) :
    (∃ decoded,
      (∃ fields,
        fieldsOfRow? row = some fields ∧
          ofObject table (Json.sortedFields fields) = .ok decoded) ∧
        record.IsReadAs table decoded) ↔
      ∀ column ∈ table.columns, (record.get column.name).OutlastsText column := by
  constructor
  · rintro ⟨decoded, ⟨fields, found, isObject⟩, isRead⟩
    exact outlastsText_of_read_row described producible isRow found isObject isRead
  · intro outlasts
    have nodup := TableDeclaration.nodup_columns_of_describe described
    obtain ⟨fields, found, read⟩ := exists_fieldsOfRow producible isRow outlasts
    have each : ∀ column ∈ table.columns,
        column.isReadBack = true →
        ∃ again,
          column.readField (Json.sortedFields fields) = .ok (column.name, again) ∧
            (record.get column.name).IsReadAs again := by
      intro column member readBack
      obtain ⟨form, isForm, _, isField⟩ := field?_of_row described isRow read member
      obtain ⟨other, json, again, isOther, isJson, coerced, comesBack⟩ :=
        ((producible.fits member readBack).returns_iff readBack).mpr (outlasts column member)
      cases isForm.symm.trans isOther
      exact ⟨again, (readField_eq_ok (isField.trans isJson)).mpr coerced, comesBack⟩
    obtain ⟨decoded, isObject, isRead⟩ := (exists_ofObject_iff nodup _ record).mpr each
    exact ⟨decoded, ⟨fields, found, isObject⟩, isRead⟩

end

end Record

/-- The text of rows is read as their records exactly if all fields of the records outlast it. -/
theorem exists_read_rows_iff
    {declaration : TableDeclaration}
    {table : Table}
    {records : List Record}
    {rows : List (List (String × Json))}
    (described : declaration.describe = .ok table)
    (producible : ∀ record ∈ records, record.IsProducible table)
    (areRows : List.Forall₂
      (fun record row => record.formatted table table.columns = .ok row) records rows) :
    (∃ decoded,
      readRecords table (Json.arrayOf (rows.map rowText)) = .ok decoded ∧
        List.Forall₂ (Record.IsReadAs table) records decoded) ↔
      ∀ record ∈ records, ∀ column ∈ table.columns,
        (record.get column.name).OutlastsText column := by
  simp only [readRecords_eq_ok (Record.isRegular_of_forall₂_formatted areRows)]
  exact Outcome.exists_further_iff ((List.forall₂_and_left _ _).mpr ⟨producible, areRows⟩)
    fun ⟨isProducible, isRow⟩ => Record.exists_read_row_iff described isProducible isRow

/-- The plain text of records with values that can be read for their columns is read back, record
by record and field by field, exactly if all their fields outlast the text. -/
theorem plain_text_read_back_iff
    {declaration : TableDeclaration}
    {table : Table}
    (described : declaration.describe = .ok table)
    {records : List Record}
    (producible : ∀ record ∈ records, record.IsProducible table)
    {text : List Char}
    (written : serialize table .json records = .ok text) :
    (∃ decoded,
      readRecords table text = .ok decoded ∧
        List.Forall₂ (Record.IsReadAs table) records decoded) ↔
      ∀ record ∈ records, ∀ column ∈ table.columns,
        (record.get column.name).OutlastsText column := by
  rw [serialize_json] at written
  obtain ⟨rows, areRows, rfl⟩ := Outcome.map_eq_ok.mp written
  exact exists_read_rows_iff described producible (Outcome.mapM_eq_ok.mp areRows)

theorem isProducible_namedParcelRecords :
    ∀ record ∈ namedParcelRecords, record.IsProducible namedParcelsTable := by
  have number (value : Int) (fits : Json.Number.fitsSigned value = true) :
      ∃ json, Value.coerce namedParcelsTable.columns[0] json = .ok (.int value) :=
    Value.Fits.exists_coerce rfl (.int rfl rfl fits) trivial
  have area (value : Decimal) :
      ∃ json, Value.coerce namedParcelsTable.columns[1] json = .ok (.decimal value) :=
    Value.Fits.exists_coerce rfl (.decimal rfl rfl rfl) trivial
  have name (value : String) :
      ∃ json, Value.coerce namedParcelsTable.columns[3] json = .ok (.string value) :=
    Value.Fits.exists_coerce rfl (.string rfl rfl) trivial
  have none (column : Column) : ∃ json, Value.coerce column json = .ok .null := ⟨.null, rfl⟩
  simp only [namedParcelRecords, List.forall_mem_cons]
  refine ⟨?whole, ?unsited, ?unnamed, nofun⟩
  case whole =>
    exact forall_mem_namedParcelsTable_columns (fun _ => number 7 rfl) (fun _ => area _) nofun
      fun _ => name _
  case unsited =>
    exact forall_mem_namedParcelsTable_columns (fun _ => number 2 rfl) (fun _ => none _) nofun
      fun _ => name _
  case unnamed =>
    exact forall_mem_namedParcelsTable_columns (fun _ => number 4 rfl) (fun _ => area _) nofun
      fun _ => none _

theorem outlastsText_namedParcelRecords :
    ∀ record ∈ namedParcelRecords, ∀ column ∈ namedParcelsTable.columns,
      (record.get column.name).OutlastsText column := by
  simp only [namedParcelRecords, List.forall_mem_cons]
  refine ⟨?whole, ?unsited, ?unnamed, nofun⟩
  case whole =>
    refine forall_mem_namedParcelsTable_columns trivial ?wholeArea ?wholeSite trivial
    case wholeArea =>
      exact @Value.outlastsText_decimal _ _ ⟨125, 1, by decide +kernel, by decide⟩ rfl
        ⟨by decide +kernel, by decide +kernel⟩ (by decide +kernel)
    case wholeSite =>
      exact Value.outlastsText_point rfl (by decide +kernel) (by decide +kernel)
  case unsited =>
    refine forall_mem_namedParcelsTable_columns trivial trivial ?absentSite trivial
    rintro form ⟨⟩
    exact ⟨trivial, rfl⟩
  case unnamed =>
    refine forall_mem_namedParcelsTable_columns trivial ?unnamedArea ?unnamedSite trivial
    case unnamedArea =>
      exact @Value.outlastsText_decimal _ _ ⟨-5, 2, by decide +kernel, by decide⟩ rfl
        ⟨by decide +kernel, by decide +kernel⟩ (by decide +kernel)
    case unnamedSite =>
      exact Value.outlastsText_point rfl (by decide +kernel) (by decide +kernel)

/-- Parcels with decimals, names and sites are read back from their plain text. -/
theorem plain_text_read_back_iff_namedParcels :
    namedParcels.describe = .ok namedParcelsTable ∧
      (∀ record ∈ namedParcelRecords, record.IsProducible namedParcelsTable) ∧
      ∃ text decoded,
        serialize namedParcelsTable .json namedParcelRecords = .ok text ∧
          readRecords namedParcelsTable text = .ok decoded ∧
          List.Forall₂ (Record.IsReadAs namedParcelsTable) namedParcelRecords decoded := by
  have written : ∃ text, serialize namedParcelsTable .json namedParcelRecords = .ok text := by
    rw [serialize_json]
    exact ⟨_, rfl⟩
  obtain ⟨text, isText⟩ := written
  obtain ⟨decoded, isDecoded, same⟩ :=
    (plain_text_read_back_iff describe_namedParcels isProducible_namedParcelRecords isText).mpr
      outlastsText_namedParcelRecords
  exact ⟨describe_namedParcels, isProducible_namedParcelRecords, text, decoded, isText, isDecoded,
    same⟩

/-- The plain text of the record is not read back as it is to be. -/
def Record.IsLost (table : Table) (record : Record) : Prop :=
  ∃ text,
    serialize table .json [record] = .ok text ∧
      ¬∃ decoded,
        readRecords table text = .ok decoded ∧
          List.Forall₂ (Record.IsReadAs table) [record] decoded

/-- A reading that can be read from JSON is lost unless it outlasts its text. -/
theorem isLost_reading
    {name typeText : String}
    {type : StoreType}
    {value : Value}
    {form : Json}
    (source : Json)
    (described : (readings name typeText).describe = .ok (readingsTable name type))
    (produced : Value.coerce (readingsColumn name type) source = .ok value)
    (isForm : value.formatted name = .ok form)
    (fails : ¬value.OutlastsText (readingsColumn name type)) :
    (Record.ofFields [(name, value)]).IsProducible (readingsTable name type) ∧
      (Record.ofFields [(name, value)]).IsLost (readingsTable name type) := by
  have isGiven : (Record.ofFields [(name, value)]).get name = value := by
    rw [Record.get_ofFields_singleton, if_pos rfl]
  have producible : (Record.ofFields [(name, value)]).IsProducible (readingsTable name type) := by
    intro column member _
    cases List.mem_singleton.mp member
    exact ⟨source, produced.trans (congrArg Except.ok isGiven.symm)⟩
  have row :
      (Record.ofFields [(name, value)]).formatted (readingsTable name type)
          (readingsTable name type).columns =
        .ok [(name, form)] :=
    Record.formatted_eq_ok.mpr
      (.cons ⟨rfl, (congrArg (Value.formatted · name) isGiven).trans isForm⟩ .nil)
  have written :
      serialize (readingsTable name type) .json [.ofFields [(name, value)]] =
        .ok (Json.arrayOf [rowText [(name, form)]]) := by
    rw [serialize_json, rowsOf, List.mapM_cons, row, List.mapM_nil]
    rfl
  refine ⟨producible, _, written, fun comesBack => fails ?_⟩
  have outlasts := (exists_read_rows_iff described
    (List.forall_mem_singleton.mpr producible) (.cons row .nil)).mp comesBack _
    List.mem_cons_self (readingsColumn name type) List.mem_cons_self
  change ((Record.ofFields [(name, value)]).get name).OutlastsText _ at outlasts
  rwa [isGiven] at outlasts

/-- A number whose own spelling denotes another number. -/
def driftingNumber : Binary64 :=
  .number false ⟨4629487979381582466, by decide +kernel⟩

/-- The greatest decimal, whose floating-point number is spelled with an exponent. -/
def greatestDecimal : Decimal :=
  { Decimal.zero with
    coefficient := 79228162514264337593543950335
    coefficient_lt := by decide +kernel }

/-- A finite number and a decimal may be lost in a plain text. -/
theorem plain_text_not_read_back :
    ((readings "f" "REAL").describe = .ok (readingsTable "f" ⟨"REAL", []⟩) ∧
      driftingNumber.isFinite = true ∧
      (Record.ofFields [("f", .float driftingNumber)]).IsProducible
        (readingsTable "f" ⟨"REAL", []⟩) ∧
      (Record.ofFields [("f", .float driftingNumber)]).IsLost
        (readingsTable "f" ⟨"REAL", []⟩)) ∧
    (readings "d" "NUMERIC").describe = .ok (readingsTable "d" ⟨"NUMERIC", []⟩) ∧
      (Record.ofFields [("d", .decimal greatestDecimal)]).IsProducible
        (readingsTable "d" ⟨"NUMERIC", []⟩) ∧
      (Record.ofFields [("d", .decimal greatestDecimal)]).IsLost
        (readingsTable "d" ⟨"NUMERIC", []⟩) := by
  have numbers : (readings "f" "REAL").describe = .ok (readingsTable "f" ⟨"REAL", []⟩) :=
    describe_readings "f" (by decide +kernel) (by decide +kernel)
  have decimals : (readings "d" "NUMERIC").describe = .ok (readingsTable "d" ⟨"NUMERIC", []⟩) :=
    describe_readings "d" (by decide +kernel) (by decide +kernel)
  have drifts : ¬(Value.float driftingNumber).OutlastsText (readingsColumn "f" ⟨"REAL", []⟩) := by
    have spelled : (Json.Number.float driftingNumber).spelling.float? ≠ some driftingNumber := by
      decide +kernel
    exact fun outlasts => spelled outlasts.2
  have exceeds :
      ¬(Value.decimal greatestDecimal).OutlastsText (readingsColumn "d" ⟨"NUMERIC", []⟩) := by
    have unreadable :
        (Value.decimalOf (Json.ofBinary64 greatestDecimal.toBinary64)).toOption = none := by
      decide +kernel
    rintro ⟨_, other, _, _, isWritten⟩
    rw [isWritten] at unreadable
    cases unreadable
  obtain ⟨source, produced⟩ :
      ∃ json, Value.coerce (readingsColumn "d" ⟨"NUMERIC", []⟩) json =
        .ok (.decimal greatestDecimal) :=
    Value.Fits.exists_coerce rfl (.decimal rfl rfl rfl) trivial
  exact ⟨⟨numbers, by decide +kernel,
    isLost_reading (.number (.float driftingNumber)) numbers rfl rfl drifts⟩,
    decimals, isLost_reading source decimals produced rfl exceeds⟩

end GeoTables
