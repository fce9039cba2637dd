import GeoTables.Calendar.Reading
import GeoTables.Geometry.Wkt.Reading
import GeoTables.Json.Printing
import GeoTables.Number.Reading
import GeoTables.Table.Basic
import GeoTables.Value.Basic

/-!
# Reading values

The type of a column decides how a JSON value is read as a value of it.  A
column whose type is not known takes scalars as they are.  Texts, such as the
segments of a path, are read like JSON strings, except that a column of texts
keeps their outer blanks.

Failures carry their reason.  Whether they are the fault of a client or of a
store is for the caller to say.
-/

namespace GeoTables

-- Powers are those of the core library.
attribute [local instance (high)] instPowNat

/-- Why a JSON value cannot be read as a value of a column. -/
inductive CoercionFault where
  | notScalar
  | notBoolean
  | notInteger
  | notNumber
  | notText
  | notDate (fault : Calendar.Fault)
  | notDateTime (fault : Calendar.Fault)
  | notTime (fault : Calendar.Fault)
  | notKeys
  | notGeometryText
  | isGeometry
  | badGeometry (fault : Wkt.Fault)
  deriving DecidableEq, Repr

/-- The wording for a text that holds no geometry. -/
def Wkt.Fault.fullMessage (fault : Wkt.Fault) : String :=
  "cannot parse geometry: " ++ fault.message

namespace CoercionFault

/-- The wording of a reason. -/
def message : CoercionFault → String
  | .notScalar => "expected a scalar"
  | .notBoolean => "expected a boolean"
  | .notInteger => "expected an integer"
  | .notNumber => "expected a number"
  | .notText => "expected a string"
  | .notDate fault => "expected a date (YYYY-MM-DD): " ++ fault.message
  | .notDateTime fault => "expected a date-time (YYYY-MM-DDTHH:MM:SS): " ++ fault.message
  | .notTime fault => "expected a time (HH:MM:SS): " ++ fault.message
  | .notKeys => "expected an array of keys"
  | .notGeometryText => "expected WKT text"
  | .isGeometry => "geometry values must be WKT"
  | .badGeometry fault => fault.fullMessage

end CoercionFault

namespace Value

/-- The truth value that a JSON value stands for. -/
def boolOf : Json → Except CoercionFault Bool
  | .bool value => .ok value
  | .number (.integer 0) => .ok false
  | .number (.integer 1) => .ok true
  | .string text =>
      let word := Text.lowerAscii (Text.trimmed text)
      if word = "true" ∨ word = "t" ∨ word = "1" then
        .ok true
      else if word = "false" ∨ word = "f" ∨ word = "0" then
        .ok false
      else
        .error .notBoolean
  | _ => .error .notBoolean

/-- The integer of a binary number whose magnitude is below `2 ^ 63`. -/
def intOfBinary64? (number : Binary64) : Option Int :=
  number.integer?.filter fun value => value.natAbs < 2 ^ (63 : Nat)

/-- The integer of 64 bits that a JSON value stands for. -/
def intOf : Json → Except CoercionFault Int
  | .number number =>
      match number.signed? <|> intOfBinary64? number.toBinary64 with
      | some value => .ok value
      | none => .error .notInteger
  | .string text =>
      match Text.signedWithin? 64 (Text.trim text.toList) with
      | some value => .ok value
      | none => .error .notInteger
  | _ => .error .notInteger

/-- The floating-point number that a JSON value stands for. -/
def binary64Of : Json → Except CoercionFault Binary64
  | .number number => .ok number.toBinary64
  | .string text =>
      match Binary64.ofText? (Text.trim text.toList) with
      | some value => .ok value
      | none => .error .notNumber
  | _ => .error .notNumber

/-- The exact decimal that a text stands for. -/
def decimalOfText (text : List Char) : Except CoercionFault Decimal :=
  match Decimal.ofText? text with
  | some value => .ok value
  | none => .error .notNumber

/-- The exact decimal that a JSON value stands for; numbers count by their text. -/
def decimalOf : Json → Except CoercionFault Decimal
  | .number number => decimalOfText number.characters
  | .string text => decimalOfText (Text.trim text.toList)
  | _ => .error .notNumber

/-- Read the text of a string, a failure of the reader being the reason. -/
def readText
    {α : Type}
    (read : List Char → Except Calendar.Fault α)
    (reason : Calendar.Fault → CoercionFault) :
    Json → Except CoercionFault α
  | .string text => (read text.toList).mapError reason
  | _ => .error .notText

/-- The text of a scalar; one that is not a string is written as JSON. -/
def scalarText : Json → String
  | .string text => text
  | json => json.text

/-- A JSON value taken as it is. -/
def scalar : Json → Value
  | .null => .null
  | .bool value => .bool value
  | .number number =>
      match number.signed? with
      | some value => .int value
      | none => .float number.toBinary64
  | .string text => .string text
  | json => .string json.text

/-- Arrays and objects. -/
def isNested : Json → Bool
  | .array _ | .object _ => true
  | _ => false

/-- Read a scalar that is not null as a value of a type. -/
def ofScalar (type : LogicalType) (isExact : Bool) (json : Json) : Except CoercionFault Value :=
  match type with
  | .boolean => (boolOf json).map .bool
  | .integer => (intOf json).map .int
  | .float =>
      if isExact then (decimalOf json).map .decimal else (binary64Of json).map .float
  | .string => .ok (.string (scalarText json))
  | .date => (readText Date.ofText .notDate json).map .date
  | .dateTime => (readText DateTime.ofText .notDateTime json).map .dateTime
  | .time => (readText TimeOfDay.ofText .notTime json).map .time
  | .geometry _ => .error .isGeometry
  | .unknown => .ok (scalar json)

/-- Read a JSON value as a value of a column. -/
def coerce (column : Column) (json : Json) : Except CoercionFault Value :=
  if json.isNull then
    .ok .null
  else if isNested json then
    .error .notScalar
  else
    ofScalar column.type column.isExact json

/-- Read a text as a value of a column. -/
def coerceText (column : Column) (text : String) : Except CoercionFault Value :=
  match column.type with
  | .string | .unknown => .ok (.string text)
  | _ => coerce column (.string (Text.trimmed text))

end Value

end GeoTables
