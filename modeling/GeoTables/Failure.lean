import GeoTables.Filter.Reading
import GeoTables.Geometry.Relation
import GeoTables.Table.Description
import GeoTables.Value.Coercion

/-!
# Failures

Everything that can go wrong while a table is read or written, as causes.  Each
cause has a wording and a kind, which says on whose side the fault is.
-/

namespace GeoTables

/-- Why an operand or a row is refused. -/
inductive OperandFault where
  | coercion (fault : CoercionFault)
  | notPattern
  | notMembers
  | notRow
  deriving DecidableEq, Repr

/-- The wording of a fault. -/
def OperandFault.message : OperandFault → String
  | .coercion fault => fault.message
  | .notPattern => "expected a pattern"
  | .notMembers => "expected comma separated values"
  | .notRow => "expected an object"

/-- Where a stored or supplied field that cannot be read stands. -/
inductive FieldPlace where
  | stored (table column : String)
  | supplied (column : String)
  deriving DecidableEq, Repr

/-- The wording of a place. -/
def FieldPlace.text : FieldPlace → String
  | .stored table column => table ++ "." ++ column
  | .supplied column => column

/-- A parameter that counts records. -/
inductive PagingParameter where
  | offset
  | limit
  deriving DecidableEq, Repr

/-- The name of a parameter. -/
def PagingParameter.name : PagingParameter → String
  | .offset => "offset"
  | .limit => "limit"

/-- Why an operation on a table failed. -/
inductive Failure where
  | filter (fault : FilterFault)
  | unknownFormat (text : String)
  | missingValue (column operator : String)
  | unknownColumn (table column : String)
  | unsupportedOperator (operator column : String)
  | unsupportedMode (mode : String)
  | invalidValue (column value : String) (reason : OperandFault)
  | invalidGeometry (column : String) (reason : CoercionFault)
  | sridMismatch (column : String) (expected actual : Int)
  | unclassifiedGeometry (column : String)
  | invalidDirection (text : String)
  | directionWithoutOrder
  | unknownSortColumn (column : String)
  | invalidPaging (parameter : PagingParameter) (value : String)
  | keyArity (expected actual : Nat)
  | unknownTable (name : TableName)
  | notFound (table key : String)
  | schema (fault : SchemaFault)
  | unsupportedGeometry (column subtype : String) (record : Option String)
  | multipleResults (table : String) (count : Nat)
  | spatial (column : String) (record : Option String) (fault : UnsupportedRelation)
  | storage (reason : String)
  | unwritable (reason : String)
  | unreadableText
  | unreadableField (place : FieldPlace) (reason : CoercionFault)
  | write (reason : String)
  | cancelled
  | interrupted
  | timedOut

/-- On whose side a failure is. -/
inductive FailureKind where
  | client
  | notFound
  | server
  deriving DecidableEq, Repr

namespace Failure

/-- The side of a failure. -/
def kind : Failure → FailureKind
  | .filter _ | .unknownFormat _ | .missingValue _ _ | .unknownColumn _ _
  | .unsupportedOperator _ _ | .unsupportedMode _ | .invalidValue _ _ _
  | .invalidGeometry _ _ | .sridMismatch _ _ _ | .unclassifiedGeometry _
  | .invalidDirection _ | .directionWithoutOrder | .unknownSortColumn _
  | .invalidPaging _ _ | .keyArity _ _ => .client
  | .unknownTable _ | .notFound _ _ => .notFound
  | .schema _ | .unsupportedGeometry _ _ _ | .multipleResults _ _ | .spatial _ _ _
  | .storage _ | .unwritable _ | .unreadableText | .unreadableField _ _ | .write _
  | .cancelled | .interrupted | .timedOut => .server

/-- The words that name a record in a message. -/
def ofRecord : Option String → String
  | some key => " of record [" ++ key ++ "]"
  | none => ""

/-- The wording of a failure. -/
def message : Failure → String
  | .filter fault => "protocol error: " ++ fault.message
  | .unknownFormat text => "protocol error: the format " ++ text ++ " is not defined"
  | .missingValue column operator =>
      "somewhere in the filter the value is missing (column " ++ column ++ ", operator "
        ++ operator ++ ")"
  | .unknownColumn table column => "the column " ++ column ++ " does not exist on " ++ table
  | .unsupportedOperator operator column =>
      "the operator " ++ operator ++ " is not implemented for column " ++ column
  | .unsupportedMode mode => "the mode " ++ mode ++ " is not implemented"
  | .invalidValue column value reason =>
      "invalid value " ++ value ++ " for column " ++ column ++ ": " ++ reason.message
  | .invalidGeometry column reason =>
      "invalid geometry for column " ++ column ++ ": " ++ reason.message
  | .sridMismatch column expected actual =>
      "geometry for column " ++ column ++ " uses SRID " ++ Text.intText actual
        ++ ", the column uses SRID " ++ Text.intText expected
  | .unclassifiedGeometry column =>
      "geometry comparison on column " ++ column ++ " could not be classified"
  | .invalidDirection text => "the direction " ++ text ++ " is not supported, use asc or desc"
  | .directionWithoutOrder => "direction was given without order_by"
  | .unknownSortColumn column => "cannot order by " ++ column ++ ": no such column"
  | .invalidPaging parameter value =>
      parameter.name ++ " must be a non-negative integer, got " ++ value
  | .keyArity expected actual =>
      "the table has " ++ Text.natText expected ++ " primary key column(s), got "
        ++ Text.natText actual ++ " value(s)"
  | .unknownTable name => "table " ++ name.text ++ " is not known"
  | .notFound table key => "record not found: " ++ table ++ " with key " ++ key
  | .schema fault => "schema error: " ++ fault.message
  | .unsupportedGeometry column subtype record =>
      "column " ++ column ++ ofRecord record ++ " holds an unsupported geometry type "
        ++ subtype
  | .multipleResults table count =>
      Text.natText count ++ " records found in " ++ table ++ " for a unique key lookup"
  | .spatial column record fault =>
      fault.test.spelling ++ " on column " ++ column ++ ofRecord record ++ " failed: "
        ++ fault.message
  | .storage reason => "storage error: " ++ reason
  | .unwritable reason => "serialization error: " ++ reason
  | .unreadableText => "deserialization error: not an array of objects"
  | .unreadableField place reason =>
      "deserialization error: " ++ place.text ++ ": " ++ reason.message
  | .write reason => "write error: " ++ reason
  | .cancelled => "request cancelled"
  | .interrupted => "the work was interrupted"
  | .timedOut => "the request timed out"

/-- Name the record that a failure happened on, unless it names one already. -/
def onRecord (key : Option String) : Failure → Failure
  | .unsupportedGeometry column subtype none => .unsupportedGeometry column subtype key
  | .spatial column none fault => .spatial column key fault
  | failure => failure

end Failure

end GeoTables
