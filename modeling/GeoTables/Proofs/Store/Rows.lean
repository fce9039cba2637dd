import GeoTables.Proofs.Json.Fields
import GeoTables.Proofs.Table.Columns
import GeoTables.Proofs.Value.Durable
import GeoTables.Store.Rows

/-!
# Rows that are written and read

A row that is written holds for every column the value that was read from its
own field, and null where it had no such field.  The stored row is read back
with exactly these values if and only if each of them outlives its stored form.
-/

namespace GeoTables

/-- Of fields with distinct names a record has every one. -/
theorem Record.get_ofFields
    {fields : List (String × Value)}
    (nodup : (fields.map Prod.fst).Nodup)
    (name : String) :
    (ofFields fields).get name = (fields.lookup name).getD .null := by
  let view := fun (record : Record) name => record.fields.lookup name
  have law : ∀ (record : Record) name value other,
      view (record.set name value) other =
        if other = name then some value else view record other := by
    intro record name value other
    simp [view, set]
  have found : view (ofFields fields) name = (fields.lookup name).or none :=
    Entries.view_foldl law nodup empty name
  rw [get]
  change (view (ofFields fields) name).getD .null = _
  rw [found, Option.or_none]

/-- A record of one field has null under all other names. -/
theorem Record.get_ofFields_singleton
    (name : String)
    (value : Value)
    (other : String) :
    (ofFields [(name, value)]).get other = if other = name then value else .null := by
  rw [get_ofFields (by simp), Entries.lookup_entry]
  split_ifs <;> rfl

namespace RowStore

variable {table : Table}

/-! ## Rows that are to be written -/

theorem fieldOf_eq_ok
    {name : String}
    {json : Json}
    {field : String × Value} :
    fieldOf table name json = .ok field ↔
      ∃ column value,
        table.column? name = some column ∧
          Value.ofStored column json = .ok value ∧ field = (name, value) := by
  unfold fieldOf
  cases table.column? name with
  | none => simp
  | some column =>
      cases outcome : Value.ofStored column json <;> simp [outcome, eq_comm]

/-- A field of a row, null if the row leaves it out. -/
def field (fields : List (String × Json)) (column : Column) : Json :=
  (Json.field? fields column.name).getD .null

theorem field_eq_of_lookup
    {fields : List (String × Json)}
    {column : Column}
    {name : String}
    {found : Option Json}
    (named : column.name = name)
    (isField : fields.lookup name = found) :
    field fields column = found.getD .null := by
  rw [field, Json.field?, named, isField]

/-- Paired lists that agree on names have the same names. -/
theorem names_eq
    {Left Right : Type}
    {left : List Left}
    {right : List Right}
    {leftName : Left → String}
    {rightName : Right → String}
    (paired : List.Forall₂ (fun one other => rightName other = leftName one) left right) :
    right.map rightName = left.map leftName := by
  induction paired with
  | nil => rfl
  | cons head _ induction => rw [List.map_cons, List.map_cons, head, induction]

/-- What the field of a name is read as for its column, null if there is no such column. -/
def readAs (table : Table) (fields : List (String × Json)) (name : String) : Value :=
  match table.column? name with
  | none => .null
  | some column =>
      match Value.ofStored column (field fields column) with
      | .ok value => value
      | .error _ => .null

theorem readAs_eq
    {fields : List (String × Json)}
    {name : String}
    {column : Column}
    {value : Value}
    (found : table.column? name = some column)
    (read : Value.ofStored column (field fields column) = .ok value) :
    readAs table fields name = value := by
  rw [readAs, found]
  dsimp only
  rw [read]

/-- A record that is read from a row holds what each field of the row is read as. -/
theorem get_eq_readAs
    {fields : List (String × Json)}
    {record : Record}
    (ascending : Json.Ascending fields)
    (read : recordOf table (.object fields) = .ok record)
    (name : String) :
    record.get name = readAs table fields name := by
  simp only [recordOf, Outcome.bind_eq_ok, Outcome.pure_eq_ok, Outcome.mapM_eq_ok] at read
  obtain ⟨decoded, paired, rfl⟩ := read
  have names : decoded.map Prod.fst = fields.map Prod.fst := by
    apply names_eq
    refine paired.imp fun entry other reads => ?_
    obtain ⟨_, _, _, _, rfl⟩ := fieldOf_eq_ok.mp reads
    rfl
  have distinct : (decoded.map Prod.fst).Nodup := names ▸ ascending.nodup
  rw [Record.get_ofFields distinct]
  cases found : fields.lookup name with
  | none =>
      have absent : decoded.lookup name = none := by
        rwa [Entries.lookup_eq_none_iff, names, ← Entries.lookup_eq_none_iff]
      rw [absent, Option.getD_none]
      cases isColumn : table.column? name with
      | none => rw [readAs, isColumn]
      | some column =>
          have isField : field fields column = .null :=
            field_eq_of_lookup (Table.mem_of_column? isColumn).2 found
          exact (readAs_eq isColumn (isField ▸ rfl)).symm
  | some json =>
      obtain ⟨entry, isEntry, reads⟩ :=
        Outcome.exists_partner paired (Entries.mem_of_lookup found)
      obtain ⟨own, value, isColumn, isValue, rfl⟩ := fieldOf_eq_ok.mp reads
      have isField : field fields own = json :=
        field_eq_of_lookup (Table.mem_of_column? isColumn).2 found
      rw [Entries.lookup_of_mem distinct isEntry, Option.getD_some]
      exact (readAs_eq isColumn (isField ▸ isValue)).symm

/-- Every column of the table has a value that fits it in a record that is read. -/
theorem fits_readAs
    (nodup : (table.columns.map Column.name).Nodup)
    (fields : List (String × Json))
    {column : Column}
    (member : column ∈ table.columns) :
    (readAs table fields column.name).Fits column := by
  rw [readAs, Table.column?_of_mem nodup member]
  dsimp only
  cases read : Value.ofStored column (field fields column) with
  | error _ => exact .null
  | ok value => exact Value.fits_of_ofStored read

/-! ## Rows that are read back -/

theorem storedField_eq_ok
    {fields : List (String × Json)}
    {column : Column}
    {entry : String × Value} :
    storedField table fields column = .ok entry ↔
      ∃ value,
        Value.ofStored column (field fields column) = .ok value ∧
          entry = (column.name, value) := by
  unfold storedField field
  cases Value.ofStored column ((Json.field? fields column.name).getD .null) <;>
    simp [eq_comm]

/-- Of a record that is read from a stored row every column is read from its field. -/
theorem exists_fields_of_storedRecord
    {row : List Char}
    {record : Record}
    (nodup : (table.columns.map Column.name).Nodup)
    (read : storedRecord table row = .ok record) :
    ∃ fields,
      Json.ofText? row = some (.object fields) ∧
        ∀ column ∈ table.columns,
          Value.ofStored column (field fields column) = .ok (record.get column.name) := by
  unfold storedRecord at read
  split at read
  · rename_i fields isObject
    refine ⟨fields, isObject, ?_⟩
    simp only [Outcome.bind_eq_ok, Outcome.pure_eq_ok, Outcome.mapM_eq_ok] at read
    obtain ⟨decoded, paired, rfl⟩ := read
    have names : decoded.map Prod.fst = table.columns.map Column.name := by
      apply names_eq
      refine paired.imp fun column entry reads => ?_
      obtain ⟨_, _, rfl⟩ := storedField_eq_ok.mp reads
      rfl
    intro column member
    obtain ⟨entry, isEntry, reads⟩ := Outcome.exists_partner paired member
    obtain ⟨value, isValue, rfl⟩ := storedField_eq_ok.mp reads
    rw [Record.get_ofFields (names ▸ nodup), Entries.lookup_of_mem (names ▸ nodup) isEntry]
    exact isValue
  · cases read

/-- A stored row whose fields are read as the wanted values is read as a record of them. -/
theorem exists_storedRecord_of_fields
    {row : List Char}
    {fields : List (String × Json)}
    {wanted : Column → Value}
    (nodup : (table.columns.map Column.name).Nodup)
    (isObject : Json.ofText? row = some (.object fields))
    (asWanted : ∀ column ∈ table.columns,
      Value.ofStored column (field fields column) = .ok (wanted column)) :
    ∃ record,
      storedRecord table row = .ok record ∧
        ∀ column ∈ table.columns, record.get column.name = wanted column := by
  let decoded := table.columns.map fun column => (column.name, wanted column)
  have names : decoded.map Prod.fst = table.columns.map Column.name := List.map_map
  have read : table.columns.mapM (storedField table fields) = .ok decoded := by
    rw [Outcome.mapM_eq_ok, List.forall₂_map_right_iff, List.forall₂_same]
    exact fun column member => storedField_eq_ok.mpr ⟨_, asWanted column member, rfl⟩
  refine ⟨.ofFields decoded, ?_, ?_⟩
  · rw [storedRecord, isObject]
    dsimp only
    rw [read]
    rfl
  · intro column member
    have own : (column.name, wanted column) ∈ decoded := List.mem_map_of_mem member
    rw [Record.get_ofFields (names ▸ nodup), Entries.lookup_of_mem (names ▸ nodup) own]
    rfl

/-- The fields that are written for a record. -/
def writtenFields (table : Table) (record : Record) : List (String × Json) :=
  table.columns.map fun column => (column.name, (record.get column.name).toStored)

section

variable {writer : Table} {record : Record}

theorem map_fst_writtenFields :
    (writtenFields writer record).map Prod.fst = writer.columns.map Column.name :=
  List.map_map

/-- The written fields can be read if the stored form of every column can. -/
theorem isSome_rereadFields?_writtenFields_iff
    (nodup : (writer.columns.map Column.name).Nodup) :
    (Json.rereadFields? (Json.sortedFields (writtenFields writer record))).isSome ↔
      ∀ column ∈ writer.columns, (record.get column.name).toStored.reread?.isSome := by
  rw [← map_fst_writtenFields] at nodup
  exact (Json.isSome_rereadFields?_sortedFields_iff nodup).trans List.forall_mem_map

/-- Under each name the written fields are read as the stored form of its value. -/
theorem reread?_toStored
    {reread : List (String × Json)}
    {column : Column}
    (nodup : (writer.columns.map Column.name).Nodup)
    (absent : column.name ∉ writer.columns.map Column.name → record.get column.name = .null)
    (read : Json.rereadFields? (Json.sortedFields (writtenFields writer record)) = some reread) :
    (record.get column.name).toStored.reread? = some (field reread column) := by
  have distinct : ((writtenFields writer record).map Prod.fst).Nodup :=
    map_fst_writtenFields ▸ nodup
  rw [field, Json.field?_of_rereadFields?_sortedFields distinct read]
  by_cases isColumn : column.name ∈ writer.columns.map Column.name
  · obtain ⟨written, member, sameName⟩ := List.mem_map.mp isColumn
    have isField :
        (written.name, (record.get written.name).toStored) ∈ writtenFields writer record :=
      List.mem_map_of_mem member
    have readable := (isSome_rereadFields?_writtenFields_iff nodup).mp
      (Option.isSome_of_eq_some read) written member
    obtain ⟨json, isJson⟩ := Option.isSome_iff_exists.mp readable
    rw [← sameName, Entries.lookup_of_mem distinct isField, Option.bind_some, isJson,
      Option.getD_some]
  · rw [Entries.lookup_eq_none_iff.mpr (map_fst_writtenFields ▸ isColumn),
      absent isColumn]
    rfl

/-- The text of a row that fits its table is read as the stored forms of its values. -/
theorem ofText?_rowText
    (fits : ∀ column ∈ writer.columns, (record.get column.name).Fits column) :
    Json.ofText? (rowText writer record) =
      (Json.rereadFields? (Json.sortedFields (writtenFields writer record))).map .object := by
  have plain : ∀ entry ∈ writtenFields writer record, entry.2.IsPlain (124 + 2) :=
    List.forall_mem_map.mpr fun column member => (fits column member).isPlain 124
  exact Json.ofText?_ofFields rfl plain

/--
Of a row that is written for one table and read for another, every stored form
can be read, and every column of the other table is read from it.
-/
theorem exists_reread_of_storedRecord
    {stored : Record}
    (nodup : (table.columns.map Column.name).Nodup)
    (writerNodup : (writer.columns.map Column.name).Nodup)
    (fits : ∀ column ∈ writer.columns, (record.get column.name).Fits column)
    (absent : ∀ column ∈ table.columns,
      column.name ∉ writer.columns.map Column.name → record.get column.name = .null)
    (isStored : storedRecord table (rowText writer record) = .ok stored) :
    (∀ column ∈ writer.columns, (record.get column.name).toStored.reread?.isSome) ∧
      ∀ column ∈ table.columns, ∃ json,
        (record.get column.name).toStored.reread? = some json ∧
          Value.ofStored column json = .ok (stored.get column.name) := by
  obtain ⟨fields, isObject, each⟩ := exists_fields_of_storedRecord nodup isStored
  obtain ⟨reread, read, isReread⟩ :=
    Option.map_eq_some_iff.mp ((ofText?_rowText fits).symm.trans isObject)
  cases isReread
  refine ⟨?_, fun column member => ⟨_, ?_, each column member⟩⟩
  · exact (isSome_rereadFields?_writtenFields_iff writerNodup).mp (Option.isSome_of_eq_some read)
  · exact reread?_toStored writerNodup (absent column member) read

/--
A row that is written for one table is read for another as wanted if every
stored form can be read and every column of the other table is read as wanted.
-/
theorem exists_storedRecord_of_reread
    {wanted : Column → Value}
    (nodup : (table.columns.map Column.name).Nodup)
    (writerNodup : (writer.columns.map Column.name).Nodup)
    (fits : ∀ column ∈ writer.columns, (record.get column.name).Fits column)
    (absent : ∀ column ∈ table.columns,
      column.name ∉ writer.columns.map Column.name → record.get column.name = .null)
    (whole : ∀ column ∈ writer.columns, (record.get column.name).toStored.reread?.isSome)
    (each : ∀ column ∈ table.columns, ∃ json,
      (record.get column.name).toStored.reread? = some json ∧
        Value.ofStored column json = .ok (wanted column)) :
    ∃ stored,
      storedRecord table (rowText writer record) = .ok stored ∧
        ∀ column ∈ table.columns, stored.get column.name = wanted column := by
  rw [← isSome_rereadFields?_writtenFields_iff writerNodup] at whole
  obtain ⟨reread, read⟩ := Option.isSome_iff_exists.mp whole
  have isObject : Json.ofText? (rowText writer record) = some (.object reread) :=
    (ofText?_rowText fits).trans (congrArg (Option.map Json.object) read)
  apply exists_storedRecord_of_fields nodup isObject
  intro column member
  obtain ⟨json, isJson, reads⟩ := each column member
  have same : json = field reread column :=
    Option.some.inj
      (isJson.symm.trans (reread?_toStored writerNodup (absent column member) read))
  rwa [← same]

/--
A row that is written for one table is read back for another as it was exactly
if all of its text can be read and every column of the other table reads back
its own value.
-/
theorem storedRecord_rowText_iff
    (nodup : (table.columns.map Column.name).Nodup)
    (writerNodup : (writer.columns.map Column.name).Nodup)
    (fits : ∀ column ∈ writer.columns, (record.get column.name).Fits column)
    (absent : ∀ column ∈ table.columns,
      column.name ∉ writer.columns.map Column.name → record.get column.name = .null) :
    (∃ stored,
      storedRecord table (rowText writer record) = .ok stored ∧
        ∀ column ∈ table.columns, stored.get column.name = record.get column.name) ↔
      (∀ column ∈ writer.columns, (record.get column.name).toStored.reread?.isSome) ∧
        ∀ column ∈ table.columns, (record.get column.name).ReadsBack column := by
  constructor
  · rintro ⟨stored, isStored, same⟩
    obtain ⟨whole, each⟩ :=
      exists_reread_of_storedRecord nodup writerNodup fits absent isStored
    refine ⟨whole, fun column member => ?_⟩
    have read := each column member
    rwa [same column member] at read
  · rintro ⟨whole, each⟩
    exact exists_storedRecord_of_reread nodup writerNodup fits absent whole each

end

end RowStore

/-! ## Records of parcels -/

/-- A parcel with all its fields. -/
def wholeParcel : Record :=
  .ofFields [("id", .int 7), ("area", .decimal ⟨125000, 4, by decide +kernel, by decide⟩),
    ("site", .geometry (.point ⟨.ofInt 2600000, .ofInt 1200000⟩)),
    ("name", .string "Hof & <Weiher>")]

/-- A parcel that is known by its name alone. -/
def unsitedParcel : Record :=
  .ofFields [("id", .int 2), ("name", .string "\"Au\"")]

/-- A parcel without a name. -/
def unnamedParcel : Record :=
  .ofFields [("id", .int 4), ("area", .decimal ⟨-500, 4, by decide +kernel, by decide⟩),
    ("site", .geometry (.point ⟨.ofInt 3, .ofInt (-1)⟩))]

/-- The records of the three parcels. -/
def namedParcelRecords : List Record :=
  [wholeParcel, unsitedParcel, unnamedParcel]

end GeoTables
