import GeoTables.Geometry.Parts
import GeoTables.Geometry.Relation
import GeoTables.Value.Basic

/-!
# Predicates

A predicate is a filter made ready for one table: its columns exist, its
operators apply to them and its operands are values of their types.  A clause
that is split by the dimension of its parts is a disjunction of leaves.
-/

namespace GeoTables

/-- A comparison of a column with a value. -/
inductive Comparison where
  | eq
  | ne
  | lt
  | le
  | gt
  | ge
  deriving DecidableEq, Repr

namespace Comparison

/-- All comparisons. -/
def all : List Comparison := [.eq, .ne, .lt, .le, .gt, .ge]

/-- The sign of the comparison. -/
def sign : Comparison → String
  | .eq => "="
  | .ne => "<>"
  | .lt => "<"
  | .le => "<="
  | .gt => ">"
  | .ge => ">="

/-- The comparison of a sign. -/
def ofSign? (sign : String) : Option Comparison :=
  all.find? fun comparison => comparison.sign == sign

end Comparison

/--
A spatial test of a column against a supplied geometry.  Either side may be
narrowed to its parts of one dimension; `geometry` is the supplied geometry
after that and `wkt` the text of the whole of it.
-/
structure SpatialClause where
  test : SpatialTest
  column : String
  srid : Int
  storedPart : Option Dimension
  valuePart : Option Dimension
  geometry : Geometry
  wkt : String

/-- A condition on the records of a table. -/
inductive Predicate where
  | and (children : List Predicate)
  | or (children : List Predicate)
  | compare (column : String) (comparison : Comparison) (operand : Value)
  | like (column pattern : String)
  | isIn (column : String) (members : List Value)
  | isNull (column : String)
  | isNotNull (column : String)
  | spatial (clause : SpatialClause)

namespace Predicate

instance : Inhabited Predicate := ⟨.and []⟩

mutual

/-- The columns of the leaves, from left to right. -/
def leafColumns : Predicate → List String
  | .and children | .or children => leafColumnsOf children
  | .compare column _ _ | .like column _ | .isIn column _ | .isNull column
  | .isNotNull column => [column]
  | .spatial clause => [clause.column]

/-- The columns of the leaves of a list of predicates. -/
def leafColumnsOf : List Predicate → List String
  | [] => []
  | child :: rest => leafColumns child ++ leafColumnsOf rest

end

/-- The number of leaves. -/
def leafCount (predicate : Predicate) : Nat :=
  predicate.leafColumns.length

/-- The columns that the predicate reads, in the order of their first use. -/
def columns (predicate : Predicate) : List String :=
  predicate.leafColumns.eraseDups

end Predicate

end GeoTables
