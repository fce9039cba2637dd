import GeoTables.Geometry.Wkt.Printing
import GeoTables.Value.Coercion

/-!
# Stored values

A store keeps values as JSON.  Decimals are kept as texts, so that no digit is
lost, geometries as well-known text, and dates and times as texts.  A
relationship is kept as the keys of the records it leads to; a key that is not
an array counts as one with a single component.
-/

namespace GeoTables.Value

/-- The components of a stored key. -/
def keyOf : Json → List Value
  | .array parts => parts.map scalar
  | json => [scalar json]

/-- Read a stored geometry, dropping the reference system its text declares. -/
def storedGeometry (json : Json) : Except CoercionFault Geometry :=
  match json with
  | .string text =>
      match LocatedGeometry.ofText text with
      | .ok located => .ok located.geometry
      | .error fault => .error (.badGeometry fault)
  | _ => .error .notGeometryText

/-- Read a stored field as a value of its column. -/
def ofStored (column : Column) (json : Json) : Except CoercionFault Value :=
  if json.isNull then
    .ok .null
  else if column.isRelationship then
    match json with
    | .array members => .ok (.association (members.map keyOf))
    | _ => .error .notKeys
  else if column.isGeometry then
    (storedGeometry json).map .geometry
  else
    coerce column json

mutual

/-- The form in which a value is stored. -/
def toStored : Value → Json
  | .null => .null
  | .bool value => .bool value
  | .int value => Json.ofInt value
  | .float value => Json.ofBinary64 value
  | .decimal value => .string (String.ofList value.text)
  | .string text => .string text
  | .date value => .string (String.ofList value.text)
  | .dateTime value => .string (String.ofList value.text)
  | .time value => .string (String.ofList value.text)
  | .geometry value => .string value.wkt
  | .association keys => .array (storedKeys keys)

/-- The form in which a list of keys is stored. -/
def storedKeys : List (List Value) → List Json
  | [] => []
  | key :: rest => .array (storedKey key) :: storedKeys rest

/-- The form in which the components of a key are stored. -/
def storedKey : List Value → List Json
  | [] => []
  | component :: rest => toStored component :: storedKey rest

end

end GeoTables.Value
