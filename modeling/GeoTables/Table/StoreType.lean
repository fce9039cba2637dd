import GeoTables.Text.Ascii
import GeoTables.Text.Blank
import GeoTables.Text.Numeral

/-!
# Store types

A store names the type of a column by a text such as `VARCHAR(100)` or
`geometry(POLYGON, 2056)`.  The text is split into a base name and arguments;
the base name alone decides what kind of values the column holds, except that
the first argument of a geometry narrows it to a subtype.

No text is refused.  An empty one stands for a type that the store did not
report, and a name that is not listed here for a type whose values are texts.
-/

namespace GeoTables

/-- A subtype that a geometry column may be declared with. -/
inductive GeometryKind where
  | geometry
  | point
  | lineString
  | polygon
  | curve
  | multiPoint
  | multiLineString
  | multiPolygon
  | geometryCollection
  deriving DecidableEq, Repr

namespace GeometryKind

/-- All subtypes. -/
def all : List GeometryKind :=
  [.geometry, .point, .lineString, .polygon, .curve, .multiPoint, .multiLineString,
    .multiPolygon, .geometryCollection]

/-- The name of the subtype. -/
def name : GeometryKind → String
  | .geometry => "GEOMETRY"
  | .point => "POINT"
  | .lineString => "LINESTRING"
  | .polygon => "POLYGON"
  | .curve => "CURVE"
  | .multiPoint => "MULTIPOINT"
  | .multiLineString => "MULTILINESTRING"
  | .multiPolygon => "MULTIPOLYGON"
  | .geometryCollection => "GEOMETRYCOLLECTION"

/-- The subtype with a given name, letter case included. -/
def named? (characters : List Char) : Option GeometryKind :=
  all.find? fun kind => kind.name.toList == characters

/-- A name without the letters that tell of third and fourth ordinates. -/
def withoutOrdinates (characters : List Char) : List Char :=
  match characters.reverse with
  | 'M' :: 'Z' :: stem | 'Z' :: stem | 'M' :: stem => stem.reverse
  | _ => characters

/-- The subtype that a text names; blanks, letter case and ordinates do not count. -/
def ofName? (text : String) : Option GeometryKind :=
  let upper := (Text.upperAscii (Text.trimmed text)).toList
  named? (withoutOrdinates upper) <|> named? upper

end GeometryKind

/-- The kind of values that a column holds. -/
inductive LogicalType where
  | boolean
  | integer
  | float
  | string
  | date
  | dateTime
  | time
  | geometry (kind : GeometryKind)
  | unknown
  deriving DecidableEq, Repr

namespace LogicalType

/-- The name of the type in a table document; a geometry has that of its subtype. -/
def name : LogicalType → String
  | .boolean => "boolean"
  | .integer => "integer"
  | .float => "float"
  | .string => "string"
  | .date => "date"
  | .dateTime => "datetime"
  | .time => "time"
  | .geometry kind => kind.name
  | .unknown => "unknown"

/-- A type of geometries. -/
def isGeometry : LogicalType → Bool
  | .geometry _ => true
  | _ => false

end LogicalType

/-- The name of a store type, split into its base name and its arguments. -/
structure StoreType where
  base : String
  arguments : List String
  deriving DecidableEq, Repr

namespace StoreType

/-- The base name in a text before any parenthesis. -/
def baseOf (characters : List Char) : String :=
  Text.upperAscii (String.ofList ([' '].intercalate (Text.words characters)))

/-- The arguments in the text between two parentheses. -/
def argumentsOf (characters : List Char) : List String :=
  let trimmed := (characters.splitOnP (· == ',')).map Text.trim
  (trimmed.filter fun argument => !argument.isEmpty).map String.ofList

/--
The store type that a text names.  Arguments stand between the first opening
parenthesis and the next closing one, or the end; what follows does not count.
-/
def ofText (text : String) : StoreType :=
  let characters := text.toList
  let head := characters.takeWhile (· != '(')
  let inner := (characters.dropWhile (· != '(')).drop 1
  { base := baseOf head
    arguments := argumentsOf (inner.takeWhile (· != ')')) }

/-- The base names of each type that is not a geometry. -/
def baseNames : List (LogicalType × List String) :=
  [(.unknown, [""]),
    (.boolean, ["BOOLEAN", "BOOL"]),
    (.integer,
      ["INTEGER", "INT", "INT2", "INT4", "INT8", "BIGINT", "SMALLINT", "SERIAL",
        "BIGSERIAL", "SMALLSERIAL"]),
    (.float,
      ["NUMERIC", "DECIMAL", "NUMBER", "FLOAT", "FLOAT4", "FLOAT8", "REAL", "DOUBLE",
        "DOUBLE PRECISION", "DOUBLE_PRECISION"]),
    (.string,
      ["UNICODE", "STRING", "CHAR", "CHARACTER", "NCHAR", "VARCHAR", "CHARACTER VARYING",
        "VARCHAR2", "NVARCHAR2", "TEXT", "LONG", "CLOB", "NCLOB"]),
    (.date, ["DATE"]),
    (.dateTime,
      ["DATETIME", "TIMESTAMP", "TIMESTAMPTZ", "TIMESTAMP WITH TIME ZONE",
        "TIMESTAMP WITHOUT TIME ZONE"]),
    (.time, ["TIME", "TIMETZ", "TIME WITH TIME ZONE", "TIME WITHOUT TIME ZONE"])]

/-- The kind of values of the type. -/
def logicalType (type : StoreType) : LogicalType :=
  if type.base = "GEOMETRY" ∨ type.base = "GEOGRAPHY" then
    .geometry ((type.arguments.head?.bind GeometryKind.ofName?).getD .geometry)
  else
    match baseNames.find? fun names => names.2.contains type.base with
    | some (logical, _) => logical
    | none =>
        match GeometryKind.ofName? type.base with
        | some kind => .geometry kind
        | none => .string

/-- The values are exact decimals. -/
def isExact (type : StoreType) : Bool :=
  ["NUMERIC", "DECIMAL", "NUMBER"].contains type.base

/-- The unsigned number of 32 bits that an argument gives. -/
def size? (type : StoreType) (index : Nat) : Option Nat :=
  type.arguments[index]?.bind fun argument => Text.unsignedWithin? 32 argument.toList

/-- The greatest length of a text. -/
def length? (type : StoreType) : Option Nat :=
  if type.logicalType = .string then type.size? 0 else none

/-- The number of digits of a number. -/
def precision? (type : StoreType) : Option Nat :=
  if type.logicalType = .float then type.size? 0 else none

/-- The number of digits of a number after its point. -/
def scale? (type : StoreType) : Option Nat :=
  if type.logicalType = .float then type.size? 1 else none

/-- The reference system that the second argument of a geometry names. -/
def srid? (type : StoreType) : Option Int :=
  if type.logicalType.isGeometry then
    type.arguments[1]?.bind fun argument => Text.signedWithin? 32 argument.toList
  else
    none

end StoreType

end GeoTables
