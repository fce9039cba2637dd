import GeoTables.Table.Basic
import GeoTables.Text.Ascii
import GeoTables.Text.Blank

/-!
# Splitting spatial clauses

A spatial clause is compared by the parts of one dimension at a time if either
side may consist of several parts: the stored side if its column is declared
as a collection, the supplied side if its text names a collection or a
geometry of several parts.
-/

namespace GeoTables

/-- Which sides of a spatial clause may consist of several parts. -/
inductive GeometryCase where
  | direct
  | storedCollection
  | suppliedCollection
  | bothCollections
  deriving DecidableEq, Repr

namespace GeometryCase

/-- The case of a stored and a supplied side. -/
def ofSides (stored supplied : Bool) : GeometryCase :=
  match stored, supplied with
  | false, false => .direct
  | true, false => .storedCollection
  | false, true => .suppliedCollection
  | true, true => .bothCollections

/-- The number of comparisons that a clause becomes. -/
def comparisons : GeometryCase → Nat
  | .direct => 1
  | .storedCollection | .suppliedCollection | .bothCollections => 3

/-- A word occurs in a text. -/
def occurs (word : List Char) : List Char → Bool
  | [] => word.isEmpty
  | character :: rest => word.isPrefixOf (character :: rest) || occurs word rest

/-- The text after a spatial reference at its start. -/
def afterReference (text : List Char) : List Char :=
  let reference := text.takeWhile (· != ';')
  match text.dropWhile (· != ';') with
  | _ :: body =>
      if "SRID=".toList.isPrefixOf (Text.trimLeft reference) then body else text
  | [] => text

/-- The text names a collection or a geometry of several parts. -/
def namesSeveralParts (text : String) : Bool :=
  let upper := (Text.upperAscii text).toList
  let body := Text.trimLeft (afterReference upper)
  occurs "GEOMETRYCOLLECTION".toList upper
    || ["MULTIPOINT", "MULTILINESTRING", "MULTIPOLYGON"].any fun tag =>
      tag.toList.isPrefixOf body

/-- The case of a clause on a column with a supplied text, if the column fits. -/
def classify? (column : Column) (text : String) : Option GeometryCase :=
  if column.isGeometry then
    some (ofSides column.isCollection (namesSeveralParts text))
  else
    none

end GeometryCase

end GeoTables
