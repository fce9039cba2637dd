import GeoTables.Text.Blank

/-!
# Foreign key references

A reference names a column of another table, either by a path with dots or
colons between its segments or by its segments apart.  Both forms are resolved
to one canonical path, `schema.table.column` or `table.column`.  A reference
that lacks a table or a column, or has a segment too many, has no path.
-/

namespace GeoTables

/-- A reference to a column of another table. -/
inductive ForeignKey where
  | path (text : String)
  | parts (schema table column : Option String)
  deriving DecidableEq, Repr

namespace ForeignKey

/-- A character that ends a segment of a path. -/
def isSeparator (character : Char) : Bool :=
  character == '.' || character == ':'

/-- The trimmed text of a part, empty if the part is not given. -/
def segment (part : Option String) : List Char :=
  Text.trim (part.getD "").toList

/-- The segments of a reference; a schema that is not named is left out. -/
def segments : ForeignKey → List (List Char)
  | .path text => (text.toList.splitOnP isSeparator).map Text.trim
  | .parts schema table column =>
      let named := [segment table, segment column]
      if (segment schema).isEmpty then named else segment schema :: named

/-- The canonical path of the column that is referred to. -/
def target? (reference : ForeignKey) : Option String :=
  let segments := reference.segments
  if (segments.length = 2 ∨ segments.length = 3) ∧ [] ∉ segments then
    some (String.ofList (['.'].intercalate segments))
  else
    none

/-- The reference as it was given, for messages. -/
def text : ForeignKey → String
  | .path text => "'" ++ text ++ "'"
  | .parts schema table column =>
      "schema=" ++ schema.getD "-" ++ " table=" ++ table.getD "-" ++ " column="
        ++ column.getD "-"

end ForeignKey

end GeoTables
