import GeoTables.Calendar.Basic
import GeoTables.Geometry.Basic
import GeoTables.Number.Decimal

/-!
# Values

A value is what a field of a record holds and what a clause of a filter
compares with.  Its variant is its shape at run time; the declared type of a
column only decides how texts and JSON values are turned into one.

An association lists the primary keys of the records on the far side of a
relationship.
-/

namespace GeoTables

/-- A value of a field or of an operand. -/
inductive Value where
  | null
  | bool (value : Bool)
  | int (value : Int)
  | float (value : Binary64)
  | decimal (value : Decimal)
  | string (text : String)
  | date (value : Date)
  | dateTime (value : DateTime)
  | time (value : TimeOfDay)
  | geometry (value : Geometry)
  | association (keys : List (List Value))

namespace Value

instance : Inhabited Value := ⟨.null⟩

/-- The null value. -/
def isNull : Value → Bool
  | .null => true
  | _ => false

/-- The name of the variant. -/
def typeName : Value → String
  | .null => "null"
  | .bool _ => "boolean"
  | .int _ => "integer"
  | .float _ => "float"
  | .decimal _ => "decimal"
  | .string _ => "string"
  | .date _ => "date"
  | .dateTime _ => "datetime"
  | .time _ => "time"
  | .geometry _ => "geometry"
  | .association _ => "association"

/-- The truth value of a boolean. -/
def bool? : Value → Option Bool
  | .bool value => some value
  | _ => none

/-- The number of an integer. -/
def int? : Value → Option Int
  | .int value => some value
  | _ => none

/-- The floating-point number of a number of any kind. -/
def binary64? : Value → Option Binary64
  | .float value => some value
  | .int value => some (Binary64.ofInt value)
  | .decimal value => some value.toBinary64
  | _ => none

/-- The text of a string. -/
def string? : Value → Option String
  | .string text => some text
  | _ => none

/-- The geometry of a geometry value. -/
def geometry? : Value → Option Geometry
  | .geometry value => some value
  | _ => none

/-- The text of a scalar; null, geometries and associations have none. -/
def text? : Value → Option String
  | .bool value => some (if value then "true" else "false")
  | .int value => some (Text.intText value)
  | .float value => some (String.ofList value.plainText)
  | .decimal value => some (String.ofList value.text)
  | .string text => some text
  | .date value => some (String.ofList value.text)
  | .dateTime value => some (String.ofList value.text)
  | .time value => some (String.ofList value.text)
  | .null | .geometry _ | .association _ => none

end Value

end GeoTables
