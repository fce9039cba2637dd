import GeoTables.Table.Basic

/-!
# Describing tables

A declaration is described column by column and then relationship by
relationship.  The first fault in that order is reported; within a column a
repeated name comes before a reference without a path, and that before a
geometry without a reference system.
-/

namespace GeoTables

/-- Why a declaration cannot be described. -/
inductive SchemaFault where
  | unresolvedForeignKey (table column reference : String)
  | missingSrid (table column : String)
  | duplicateColumn (table column : String)
  deriving DecidableEq, Repr

namespace SchemaFault

/-- The wording of a fault. -/
def message : SchemaFault → String
  | .unresolvedForeignKey table column reference =>
      "column " ++ table ++ "." ++ column ++ " references " ++ reference
        ++ ", which cannot be resolved"
  | .missingSrid table column => "geometry column " ++ table ++ "." ++ column ++ " has no SRID"
  | .duplicateColumn table column => "column " ++ column ++ " is declared twice on " ++ table

end SchemaFault

namespace ColumnDeclaration

/-- The paths of the references of a column. -/
def targets (table : String) (column : ColumnDeclaration) : Except SchemaFault (List String) :=
  column.foreignKeys.mapM fun reference =>
    match reference.target? with
    | some path => .ok path
    | none => .error (.unresolvedForeignKey table column.name reference.text)

/-- The reference system of a column, which a geometry has to have. -/
def resolveSrid
    (table : String)
    (column : ColumnDeclaration)
    (type : StoreType) :
    Except SchemaFault (Option Int) :=
  if type.logicalType.isGeometry then
    match column.srid <|> type.srid? with
    | some srid => .ok (some srid)
    | none => .error (.missingSrid table column.name)
  else
    .ok none

/-- The column that is declared on a table. -/
def describe (table : String) (column : ColumnDeclaration) : Except SchemaFault Column := do
  let type := StoreType.ofText column.typeText
  let references ← column.targets table
  let srid ← column.resolveSrid table type
  return {
    name := column.name
    header := column.header
    type := type.logicalType
    storeType := type.base
    length := type.length?
    precision := type.precision?
    scale := type.scale?
    isExact := type.isExact
    nullable := column.nullable && !column.isKey
    isKey := column.isKey
    references := references
    initial := column.initial
    srid := srid
    isRelationship := false }

end ColumnDeclaration

namespace RelationshipDeclaration

/-- The relationship that is declared. -/
def describe (declaration : RelationshipDeclaration) : Relationship where
  name := declaration.name
  target := declaration.target
  cardinality := declaration.cardinality
  foreignKeys := declaration.foreignKeys

/-- The column that stands for a relationship. -/
def column (declaration : RelationshipDeclaration) : Column where
  name := declaration.name
  header := none
  type := .string
  storeType := "RELATIONSHIP"
  length := none
  precision := none
  scale := none
  isExact := false
  nullable := true
  isKey := false
  references := declaration.foreignKeys
  initial := none
  srid := none
  isRelationship := true

end RelationshipDeclaration

namespace TableDeclaration

/-- Describe declared columns whose names may not be among those seen before. -/
def describeColumns
    (table : String)
    (seen : List String) :
    List ColumnDeclaration → Except SchemaFault (List Column)
  | [] => .ok []
  | column :: rest =>
      if seen.contains column.name then
        .error (.duplicateColumn table column.name)
      else do
        let described ← column.describe table
        return described :: (← describeColumns table (column.name :: seen) rest)

/-- The columns of relationships that may lead to many records. -/
def relationshipColumns
    (table : String)
    (seen : List String) :
    List RelationshipDeclaration → Except SchemaFault (List Column)
  | [] => .ok []
  | relationship :: rest =>
      if !relationship.cardinality.isToMany then
        relationshipColumns table seen rest
      else if seen.contains relationship.name then
        .error (.duplicateColumn table relationship.name)
      else do
        return relationship.column
          :: (← relationshipColumns table (relationship.name :: seen) rest)

/-- The table of columns and relationships. -/
def assemble
    (declaration : TableDeclaration)
    (columns : List Column) :
    Table where
  name := declaration.tableName
  columns := columns
  relationships := declaration.relationships.map RelationshipDeclaration.describe
  keyNames := ((columns.filter Column.isKey).map Column.name).mergeSort
  geometryNames := (columns.filter Column.isGeometry).map Column.name

/-- The table that is declared. -/
def describe (declaration : TableDeclaration) : Except SchemaFault Table := do
  let columns ← describeColumns declaration.name [] declaration.columns
  let names := declaration.columns.map ColumnDeclaration.name
  let further ← relationshipColumns declaration.name names declaration.relationships
  return declaration.assemble (columns ++ further)

end TableDeclaration

end GeoTables
