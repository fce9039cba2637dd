import GeoTables.Predicate.Evaluation
import GeoTables.Query.Order

/-!
# Predicates as SQL

A predicate is written as a condition with numbered placeholders, and its
operands become the values bound to them, in the order in which they are
written.  Identifiers are quoted and qualified, so no name and no operand can
change the meaning of the text.
-/

namespace GeoTables

/-- A text with placeholders and the values bound to them. -/
structure SqlFragment where
  text : List Char
  values : List Value

namespace SpatialTest

/-- The function that carries out the test. -/
def functionName : SpatialTest → String
  | .intersects => "ST_Intersects"
  | .touches => "ST_Touches"
  | .coveredBy => "ST_CoveredBy"
  | .within => "ST_Within"

end SpatialTest

namespace Sql

/-- An identifier in double quotes, quotes within it doubled. -/
def identifier (name : String) : List Char :=
  let doubled := name.toList.flatMap fun character =>
    if character = '"' then ['"', '"'] else [character]
  '"' :: doubled ++ ['"']

/-- The qualified name of a table. -/
def tableName (name : TableName) : List Char :=
  identifier name.schema ++ '.' :: identifier name.table

/-- The qualified name of a column. -/
def columnName (table : TableName) (column : String) : List Char :=
  tableName table ++ '.' :: identifier column

/-- The placeholder of the value after `bound` other ones. -/
def placeholder (bound : Nat) : List Char :=
  '$' :: Text.natDigits (bound + 1)

/-- A call of a function with two arguments. -/
def call (name : String) (first second : List Char) : List Char :=
  name.toList ++ '(' :: first ++ ", ".toList ++ second ++ [')']

/-- A geometry narrowed to the part of a dimension, if one is given. -/
def narrowed (geometry : List Char) : Option Dimension → List Char
  | some dimension => call "ST_CollectionExtract" geometry (Text.natDigits dimension.code)
  | none => geometry

/-- A spatial test after `bound` values. -/
def spatial (table : TableName) (bound : Nat) (clause : SpatialClause) : SqlFragment :=
  let supplied := call "ST_GeomFromText" (placeholder bound) (Text.intDigits clause.srid)
  { text := call clause.test.functionName
      (narrowed (columnName table clause.column) clause.storedPart)
      (narrowed supplied clause.valuePart)
    values := [.string clause.wkt] }

/-- The placeholders of a number of values after `bound` other ones. -/
def placeholders (bound count : Nat) : List (List Char) :=
  (List.range count).map fun index => placeholder (bound + index)

/-- Fragments in parentheses with a separator between them. -/
def junction (separator : String) (parts : List SqlFragment) : SqlFragment :=
  { text := '(' :: separator.toList.intercalate (parts.map SqlFragment.text) ++ [')']
    values := parts.flatMap SqlFragment.values }

mutual

/-- A predicate after `bound` values. -/
def condition (table : TableName) (bound : Nat) : Predicate → SqlFragment
  | .and children => junction " AND " (conditions table bound children)
  | .or children => junction " OR " (conditions table bound children)
  | .compare column comparison operand =>
      { text := columnName table column ++ ' ' :: comparison.sign.toList ++ ' ' :: placeholder bound
        values := [operand] }
  | .like column pattern =>
      { text := "CAST(".toList ++ columnName table column ++ " AS VARCHAR(".toList
          ++ Text.natDigits Predicate.patternLength ++ ")) LIKE ".toList ++ placeholder bound
        values := [.string pattern] }
  | .isIn column members =>
      { text := columnName table column ++ " IN (".toList
          ++ ", ".toList.intercalate (placeholders bound members.length) ++ [')']
        values := members }
  | .isNull column => { text := columnName table column ++ " IS NULL".toList, values := [] }
  | .isNotNull column =>
      { text := columnName table column ++ " IS NOT NULL".toList, values := [] }
  | .spatial clause => spatial table bound clause

/-- Predicates one after the other, after `bound` values. -/
def conditions (table : TableName) (bound : Nat) : List Predicate → List SqlFragment
  | [] => []
  | child :: rest =>
      let first := condition table bound child
      first :: conditions table (bound + first.values.length) rest

end

/-- The condition of a predicate, if there is one. -/
def whereClause (table : TableName) : Option Predicate → SqlFragment
  | some predicate =>
      let condition := condition table 0 predicate
      { condition with text := " WHERE ".toList ++ condition.text }
  | none => { text := [], values := [] }

/-- The order of the rows, if there is one. -/
def orderClause (table : TableName) : Option SortKey → List Char
  | some key =>
      " ORDER BY ".toList ++ columnName table key.column ++ ' ' :: key.direction.keyword.toList
  | none => []

/-- The range of the rows, if there is one. -/
def pagingClause : Option Paging → List Char
  | some paging =>
      " LIMIT ".toList ++ Text.natDigits paging.limit ++ " OFFSET ".toList
        ++ Text.natDigits paging.offset
  | none => []

/-- The query for the rows of a table. -/
def select
    (table : TableName)
    (predicate : Option Predicate)
    (sort : Option SortKey)
    (paging : Option Paging) :
    SqlFragment :=
  let condition := whereClause table predicate
  { condition with
    text := "SELECT * FROM ".toList ++ tableName table ++ condition.text
      ++ orderClause table sort ++ pagingClause paging }

/-- The query for the number of rows of a table. -/
def count (table : TableName) (predicate : Option Predicate) : SqlFragment :=
  let condition := whereClause table predicate
  { condition with
    text := "SELECT count(*) FROM ".toList ++ tableName table ++ condition.text }

end Sql

end GeoTables
