import GeoTables.Failure
import GeoTables.Json.Outline
import GeoTables.Table.Record

/-!
# Reading records back

Records that were written as an array of objects can be read back, except for
geometries and relationships, which that form does not keep.
-/

namespace GeoTables

/-- Read the field of a column; one that is missing is null. -/
def Column.readField
    (column : Column)
    (fields : List (String × Json)) :
    Except Failure (String × Value) :=
  match Json.field? fields column.name with
  | none => .ok (column.name, .null)
  | some json =>
      match Value.coerce column json with
      | .ok value => .ok (column.name, value)
      | .error fault => .error (.unreadableField (.supplied column.name) fault)

/-- Read one record. -/
def Record.ofObject (table : Table) (fields : List (String × Json)) : Except Failure Record := do
  let columns := table.columns.filter fun column => !column.isGeometry && !column.isRelationship
  return .ofFields (← columns.mapM fun column => column.readField fields)

/-- The objects of an array of objects. -/
def objectsOf? : Json → Option (List (List (String × Json)))
  | .array items =>
      items.mapM fun item =>
        match item with
        | .object fields => some fields
        | _ => none
  | _ => none

/-- Read records from a text. -/
def readRecords (table : Table) (text : List Char) : Except Failure (List Record) :=
  match (Json.ofText? text).bind objectsOf? with
  | some rows => rows.mapM (Record.ofObject table)
  | none => .error .unreadableText

end GeoTables
