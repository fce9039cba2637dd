import GeoTables.Failure
import GeoTables.Predicate.Basic
import GeoTables.Predicate.Pattern
import GeoTables.Table.Record
import GeoTables.Value.Comparison

/-!
# Evaluating predicates

A null field satisfies no comparison, pattern, membership or spatial test.
Children are evaluated from left to right, and only as far as the result is
open; a spatial test that cannot be carried out fails the whole evaluation if
it is reached.
-/

namespace GeoTables

/-- The outcome of a comparison of two values that are not null. -/
def Comparison.holds (comparison : Comparison) (left right : Value) : Bool :=
  let order := left.compare? right
  match comparison with
  | .eq => left.equal right
  | .ne => !left.equal right
  | .lt => order == some .lt
  | .le => order == some .lt || order == some .eq
  | .gt => order == some .gt
  | .ge => order == some .gt || order == some .eq

namespace Predicate

/-- The number of characters of a field that a pattern is matched with. -/
def patternLength : Nat := 100

/-- The first characters of a field match a pattern. -/
def matchesField (field : Value) (pattern : String) : Bool :=
  match field.text? with
  | some text => matchesPattern (String.ofList (text.toList.take patternLength)) pattern
  | none => false

/-- The outcome of a spatial test of a field. -/
def holdsSpatially (clause : SpatialClause) (field : Value) : Except Failure Bool :=
  match field.geometry? with
  | none => .ok false
  | some stored =>
      let part := match clause.storedPart with
        | some dimension => stored.extract dimension
        | none => stored
      match Geometry.relate clause.test part clause.geometry with
      | .ok outcome => .ok outcome
      | .error fault => .error (.spatial clause.column none fault)

mutual

/-- The predicate holds of a record. -/
def holds (predicate : Predicate) (record : Record) : Except Failure Bool :=
  match predicate with
  | .and children => allHold children record
  | .or children => someHold children record
  | .compare column comparison operand =>
      let field := record.get column
      .ok (!field.isNull && comparison.holds field operand)
  | .like column pattern => .ok (matchesField (record.get column) pattern)
  | .isIn column members =>
      let field := record.get column
      .ok (!field.isNull && members.any fun candidate => field.equal candidate)
  | .isNull column => .ok (record.get column).isNull
  | .isNotNull column => .ok !(record.get column).isNull
  | .spatial clause => holdsSpatially clause (record.get clause.column)

/-- Every predicate holds of a record, looked at up to the first that does not. -/
def allHold (predicates : List Predicate) (record : Record) : Except Failure Bool :=
  match predicates with
  | [] => .ok true
  | child :: rest => do
      if ← holds child record then allHold rest record else return false

/-- Some predicate holds of a record, looked at up to the first that does. -/
def someHold (predicates : List Predicate) (record : Record) : Except Failure Bool :=
  match predicates with
  | [] => .ok false
  | child :: rest => do
      if ← holds child record then return true else someHold rest record

end

end Predicate

end GeoTables
