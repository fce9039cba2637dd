import GeoTables.Output.Value
import GeoTables.Proofs.Json.Depth
import GeoTables.Proofs.Outcome
import GeoTables.Proofs.Value.Durable

/-!
# Forms of values

The form of a value in a response is null, a scalar or nested arrays, and the
numbers in it can be written.  How deep the arrays lie within each other
depends on the value alone.
-/

namespace GeoTables

open Json (IsRegular)

theorem Json.IsRegular.ofBinary64 (number : Binary64) : IsRegular (Json.ofBinary64 number) :=
  ⟨0, Value.isPlain_ofBinary64 number 0⟩

namespace Geometry

variable {motive : Json → Prop}

theorem positionCoordinates_induction
    (number : ∀ value, motive (Json.ofBinary64 value))
    (array : ∀ {items}, (∀ item ∈ items, motive item) → motive (.array items))
    (position : Coordinate) :
    motive (positionCoordinates position) := by
  refine array fun item member => ?_
  rcases List.mem_pair.mp member with rfl | rfl
  · exact number position.x
  · exact number position.y

theorem pathCoordinates_induction
    (number : ∀ value, motive (Json.ofBinary64 value))
    (array : ∀ {items}, (∀ item ∈ items, motive item) → motive (.array items))
    (path : Path) :
    motive (pathCoordinates path) :=
  array (List.forall_mem_map.mpr fun position _ =>
    positionCoordinates_induction number array position)

mutual

/-- Coordinates are made of numbers and arrays, and nothing else. -/
theorem coordinates_induction
    (number : ∀ value, motive (Json.ofBinary64 value))
    (array : ∀ {items}, (∀ item ∈ items, motive item) → motive (.array items)) :
    ∀ {geometry : Geometry} {json : Json}, geometry.coordinates = .ok json → motive json
  | .point position, _, found => by
      cases found
      exact positionCoordinates_induction number array position
  | .lineString path, _, found => by
      cases found
      exact pathCoordinates_induction number array path
  | .polygon area, _, found => by
      cases found
      exact pathCoordinates_induction number array area.exterior
  | .multiPoint positions, _, found => by
      cases found
      exact pathCoordinates_induction number array positions
  | .multiLineString paths, _, found => by
      cases found
      exact array (List.forall_mem_map.mpr fun path _ =>
        pathCoordinates_induction number array path)
  | .multiPolygon areas, _, found => by
      cases found
      exact array (List.forall_mem_map.mpr fun area _ =>
        pathCoordinates_induction number array area.exterior)
  | .collection members, _, found => by
      rw [coordinates, Outcome.map_eq_ok] at found
      obtain ⟨items, areItems, rfl⟩ := found
      exact array (memberCoordinates_induction number array areItems)
  | .segment _ _, _, found | .rectangle _ _, _, found | .triangle _ _ _, _, found => by
      cases found

theorem memberCoordinates_induction
    (number : ∀ value, motive (Json.ofBinary64 value))
    (array : ∀ {items}, (∀ item ∈ items, motive item) → motive (.array items)) :
    ∀ {members : List Geometry} {items : List Json},
      memberCoordinates members = .ok items → ∀ item ∈ items, motive item
  | [], _, found => by
      cases found
      simp
  | member :: rest, _, found => by
      simp only [memberCoordinates, Outcome.bind_eq_ok, Outcome.pure_eq_ok] at found
      obtain ⟨first, isFirst, others, areOthers, rfl⟩ := found
      exact List.forall_mem_cons.mpr
        ⟨coordinates_induction number array isFirst,
          memberCoordinates_induction number array areOthers⟩

end

/-- The coordinates of a geometry can be written. -/
theorem isRegular_coordinates
    {geometry : Geometry}
    {json : Json}
    (found : geometry.coordinates = .ok json) :
    json.IsRegular :=
  coordinates_induction IsRegular.ofBinary64 IsRegular.array found

end Geometry

namespace Value

variable {value : Value} {column : String} {json : Json}

theorem isRegular_columnCoordinates
    {geometry : Geometry}
    (found : columnCoordinates geometry column = .ok json) :
    json.IsRegular := by
  rw [columnCoordinates, Outcome.mapError_eq_ok] at found
  exact Geometry.isRegular_coordinates found

/-- The form of a value can be written. -/
theorem isRegular_formatted (found : value.formatted column = .ok json) : json.IsRegular := by
  cases value with
  | geometry shape => exact isRegular_columnCoordinates found
  | null => cases found; exact .null
  | bool truth => cases found; exact .bool truth
  | int number => cases found; exact ⟨0, trivial⟩
  | float number => cases found; exact .ofBinary64 number
  | decimal number => cases found; exact .ofBinary64 number.toBinary64
  | association keys =>
      cases found
      exact .array (List.forall_mem_map.mpr fun key _ => .string (keyText key))
  | string text => cases found; exact .string text
  | date day => cases found; exact .string _
  | dateTime moment => cases found; exact .string _
  | time moment => cases found; exact .string _

/-- The geometry of a feature can be written. -/
theorem isRegular_geometryObject
    (found : value.geometryObject column = .ok json) :
    json.IsRegular := by
  cases value with
  | null => cases found; exact .null
  | geometry shape =>
      simp only [geometryObject, Outcome.bind_eq_ok, Outcome.pure_eq_ok] at found
      obtain ⟨coordinates, areCoordinates, rfl⟩ := found
      refine .ofFields fun entry member => ?_
      rcases List.mem_pair.mp member with rfl | rfl
      · exact .string shape.typeName
      · exact isRegular_columnCoordinates areCoordinates
  | _ => cases found

end Value

namespace Record

variable {record : Record} {table : Table} {columns : List Column} {fields : List (String × Json)}

/-- The form of a record is that of each column, under its name and in its place. -/
theorem formatted_eq_ok :
    record.formatted table columns = .ok fields ↔
      List.Forall₂
        (fun column entry =>
          entry.1 = column.name ∧
            (record.get column.name).formatted column.name = .ok entry.2)
        columns fields := by
  rw [formatted, Outcome.mapM_eq_ok]
  refine iff_of_eq (congrArg (List.Forall₂ · columns fields) ?_)
  ext column ⟨name, form⟩
  simp only [Outcome.bind_eq_ok, Outcome.mapError_eq_ok, Outcome.pure_eq_ok, Prod.mk.injEq]
  constructor
  · rintro ⟨_, found, rfl, rfl⟩
    exact ⟨rfl, found⟩
  · rintro ⟨rfl, found⟩
    exact ⟨form, found, rfl, rfl⟩

/-- The forms of the fields of a record can be written. -/
theorem isRegular_formatted
    (found : record.formatted table columns = .ok fields) :
    ∀ entry ∈ fields, entry.2.IsRegular := by
  intro entry member
  obtain ⟨column, _, _, form⟩ := Outcome.exists_partner (formatted_eq_ok.mp found).flip member
  exact Value.isRegular_formatted form

/-- The forms of the fields of records can be written. -/
theorem isRegular_of_forall₂_formatted
    {records : List Record}
    {rows : List (List (String × Json))}
    (areRows : List.Forall₂ (fun record row => record.formatted table columns = .ok row)
      records rows) :
    ∀ row ∈ rows, ∀ entry ∈ row, entry.2.IsRegular := by
  intro row member
  obtain ⟨record, _, isRow⟩ := Outcome.exists_partner areRows.flip member
  exact isRegular_formatted isRow

/-- The names in the form of a record are those of the columns, in their order. -/
theorem names_of_formatted
    (found : record.formatted table columns = .ok fields) :
    fields.map Prod.fst = columns.map Column.name := by
  have paired := formatted_eq_ok.mp found
  clear found
  induction paired with
  | nil => rfl
  | cons own _ induction => rw [List.map_cons, List.map_cons, own.1, induction]

/-- Leaving columns out by their names leaves out their forms and no others. -/
theorem formatted_filter
    (keepsColumn : Column → Bool)
    (keepsName : String → Bool)
    (agree : ∀ column ∈ columns, keepsColumn column = keepsName column.name)
    (found : record.formatted table columns = .ok fields) :
    record.formatted table (columns.filter keepsColumn) =
      .ok (fields.filter fun entry => keepsName entry.1) := by
  rw [formatted_eq_ok] at found ⊢
  induction found with
  | nil => exact .nil
  | cons own _ induction =>
      rw [List.forall_mem_cons] at agree
      have others := induction agree.2
      simp only [List.filter_cons, agree.1, own.1]
      split_ifs
      · exact .cons own others
      · exact others

/-- The form of a column is found under its name, if no name is given twice. -/
theorem lookup_of_formatted
    (nodup : (columns.map Column.name).Nodup)
    (found : record.formatted table columns = .ok fields)
    {column : Column}
    (member : column ∈ columns) :
    ∃ form,
      (record.get column.name).formatted column.name = .ok form ∧
        fields.lookup column.name = some form := by
  obtain ⟨⟨name, form⟩, isField, rfl, formatted⟩ :=
    Outcome.exists_partner (formatted_eq_ok.mp found) member
  rw [← names_of_formatted found] at nodup
  exact ⟨form, formatted, Entries.lookup_of_mem nodup isField⟩

end Record

end GeoTables
