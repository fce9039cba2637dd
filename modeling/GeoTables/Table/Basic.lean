import GeoTables.Json.Document
import GeoTables.Table.Declaration
import GeoTables.Table.StoreType

/-!
# Tables

A table is a declaration made ready for use: the texts of the types are
classified, references are paths, and every relationship that may lead to many
records has a column of its own after the declared ones.  Filters, sorting and
output look at nothing else.
-/

namespace GeoTables

/-- A column of a table. -/
structure Column where
  name : String
  header : Option String
  type : LogicalType
  storeType : String
  length : Option Nat
  precision : Option Nat
  scale : Option Nat
  isExact : Bool
  nullable : Bool
  isKey : Bool
  references : List String
  initial : Option Json
  srid : Option Int
  isRelationship : Bool

namespace Column

/-- A column of geometries. -/
def isGeometry (column : Column) : Bool :=
  column.type.isGeometry

/-- A column declared to hold collections of geometries. -/
def isCollection (column : Column) : Bool :=
  column.type == .geometry .geometryCollection

/-- A column that leads to other tables. -/
def hasReferences (column : Column) : Bool :=
  column.isRelationship || !column.references.isEmpty

end Column

/-- A relationship to another table. -/
structure Relationship where
  name : String
  target : String
  cardinality : Cardinality
  foreignKeys : List String
  deriving DecidableEq, Repr

namespace Relationship

/-- Many records may stand on the far side. -/
def isToMany (relationship : Relationship) : Bool :=
  relationship.cardinality.isToMany

end Relationship

/-- A described table. -/
structure Table where
  name : TableName
  columns : List Column
  relationships : List Relationship
  keyNames : List String
  geometryNames : List String

namespace Table

/-- The qualified name of the table. -/
def qualifiedName (table : Table) : String :=
  table.name.text

/-- The column of a name. -/
def column? (table : Table) (name : String) : Option Column :=
  table.columns.find? fun column => column.name == name

/-- The column that stands for a record where only one geometry can. -/
def firstGeometry? (table : Table) : Option Column :=
  table.geometryNames.head?.bind table.column?

end Table

/-! ## Documents -/

/-- A column as a document. -/
def Column.document (column : Column) : Json.Document :=
  .record [("column_name", .ofString column.name),
    ("header", .ofString (column.header.getD column.name)),
    ("type", .ofString column.type.name),
    ("store_type", .ofString column.storeType),
    ("length", .ofInt? (column.length.map Int.ofNat)),
    ("precision", .ofInt? (column.precision.map Int.ofNat)),
    ("scale", .ofInt? (column.scale.map Int.ofNat)),
    ("nullable", .ofBool column.nullable),
    ("default", .value (column.initial.getD .null)),
    ("is_primary_key", .ofBool column.isKey),
    ("has_foreign_keys", .ofBool column.hasReferences),
    ("foreign_key_names", .ofStrings column.references),
    ("is_collection_valued", .ofBool column.isRelationship),
    ("is_geometry_column", .ofBool column.isGeometry),
    ("srid", .ofInt? column.srid)]

/-- A relationship as a document. -/
def Relationship.document (relationship : Relationship) : Json.Document :=
  .record [("name", .ofString relationship.name),
    ("target_table", .ofString relationship.target),
    ("cardinality", .ofString relationship.cardinality.name),
    ("is_collection_valued", .ofBool relationship.isToMany),
    ("connected_foreign_keys", .ofStrings relationship.foreignKeys)]

/-- A table as a document, its columns and relationships under their names. -/
def Table.document (table : Table) : Json.Document :=
  .record [("name", .ofString table.qualifiedName),
    ("schema_name", .ofString table.name.schema),
    ("table_name", .ofString table.name.table),
    ("primary_key_column_names", .ofStrings table.keyNames),
    ("primary_key_column_count", .ofNat table.keyNames.length),
    ("geometry_column_names", .ofStrings table.geometryNames),
    ("geometry_column_count", .ofNat table.geometryNames.length),
    ("column_count", .ofNat table.columns.length),
    ("columns", .record (table.columns.map fun column => (column.name, column.document))),
    ("relationship_count", .ofNat table.relationships.length),
    ("relationships",
      .record (table.relationships.map fun relationship =>
        (relationship.name, relationship.document)))]

end GeoTables
