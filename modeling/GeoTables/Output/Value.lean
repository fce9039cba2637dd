import GeoTables.Failure
import GeoTables.Table.Record

/-!
# Values in responses

A value is written by its own shape, whatever the type of its column.  A
geometry is given by its coordinates: a polygon by those of its outer ring,
lists and collections by those of their members.  Shapes that well-known text
cannot spell have no such form.
-/

namespace GeoTables

namespace Geometry

/-- The coordinates of a position. -/
def positionCoordinates (position : Coordinate) : Json :=
  .array [Json.ofBinary64 position.x, Json.ofBinary64 position.y]

/-- The coordinates of a line. -/
def pathCoordinates (path : Path) : Json :=
  .array (path.map positionCoordinates)

/-- The coordinates of an area, its holes left out. -/
def areaCoordinates (area : Polygon) : Json :=
  pathCoordinates area.exterior

mutual

/-- The coordinates of a geometry, or the name of the type that has none. -/
def coordinates : Geometry → Except String Json
  | .point position => .ok (positionCoordinates position)
  | .lineString path => .ok (pathCoordinates path)
  | .polygon area => .ok (areaCoordinates area)
  | .multiPoint positions => .ok (.array (positions.map positionCoordinates))
  | .multiLineString paths => .ok (.array (paths.map pathCoordinates))
  | .multiPolygon areas => .ok (.array (areas.map areaCoordinates))
  | .collection members => (memberCoordinates members).map .array
  | .segment _ _ => .error "Line"
  | .rectangle _ _ => .error "Rect"
  | .triangle _ _ _ => .error "Triangle"

/-- The coordinates of the members of a collection. -/
def memberCoordinates : List Geometry → Except String (List Json)
  | [] => .ok []
  | member :: rest => do
      let first ← coordinates member
      return first :: (← memberCoordinates rest)

end

end Geometry

namespace Value

/-- The text of a key, its components separated by commas. -/
def keyText (key : List Value) : String :=
  ",".intercalate (key.map fun component => component.text?.getD "")

/-- The coordinates of a geometry in a column. -/
def columnCoordinates (geometry : Geometry) (column : String) : Except Failure Json :=
  geometry.coordinates.mapError fun subtype => .unsupportedGeometry column subtype none

/-- The form of a value in a response. -/
def formatted (value : Value) (column : String) : Except Failure Json :=
  match value with
  | .null => .ok .null
  | .bool truth => .ok (.bool truth)
  | .int number => .ok (Json.ofInt number)
  | .float number => .ok (Json.ofBinary64 number)
  | .decimal number => .ok (Json.ofBinary64 number.toBinary64)
  | .string text => .ok (.string text)
  | .date day => .ok (.string (String.ofList day.text))
  | .dateTime moment => .ok (.string (String.ofList moment.text))
  | .time moment => .ok (.string (String.ofList moment.text))
  | .association keys => .ok (.array (keys.map fun key => .string (keyText key)))
  | .geometry shape => columnCoordinates shape column

/-- The geometry of a feature. -/
def geometryObject (value : Value) (column : String) : Except Failure Json :=
  match value with
  | .null => .ok .null
  | .geometry shape => do
      let coordinates ← columnCoordinates shape column
      return .ofFields [("type", .string shape.typeName), ("coordinates", coordinates)]
  | other => .error (.unsupportedGeometry column other.typeName none)

end Value

/-- The forms of the fields of a record in those columns that are asked for. -/
def Record.formatted
    (record : Record)
    (table : Table)
    (columns : List Column) :
    Except Failure (List (String × Json)) :=
  columns.mapM fun column => do
    let field := (record.get column.name).formatted column.name
    return (column.name, ← field.mapError (Failure.onRecord (record.keyText? table)))

end GeoTables
