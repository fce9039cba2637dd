import GeoTables.Json.Document
import GeoTables.Json.Record
import GeoTables.Table.ForeignKey

/-!
# Table declarations

A declaration says what a store knows about a table before anything is made
of it: columns with the texts of their types, keys and references, and
relationships to other tables.  It is read from JSON, where only the names are
required, and can be written back with every field.
-/

namespace GeoTables

/-- How many records relate to one another, seen from the declared table. -/
inductive Cardinality where
  | oneToOne
  | oneToMany
  | manyToOne
  | manyToMany
  deriving DecidableEq, Repr

namespace Cardinality

/-- All cardinalities. -/
def all : List Cardinality := [.oneToOne, .oneToMany, .manyToOne, .manyToMany]

/-- The name of the cardinality. -/
def name : Cardinality → String
  | .oneToOne => "one_to_one"
  | .oneToMany => "one_to_many"
  | .manyToOne => "many_to_one"
  | .manyToMany => "many_to_many"

/-- The cardinality of a name. -/
def ofName? (name : String) : Option Cardinality :=
  all.find? fun cardinality => cardinality.name == name

/-- Many records may stand on the far side. -/
def isToMany : Cardinality → Bool
  | .oneToMany | .manyToMany => true
  | .oneToOne | .manyToOne => false

end Cardinality

/-- The declaration of a column. -/
structure ColumnDeclaration where
  name : String
  typeText : String
  nullable : Bool
  isKey : Bool
  foreignKeys : List ForeignKey
  initial : Option Json
  srid : Option Int
  header : Option String

/-- The declaration of a relationship. -/
structure RelationshipDeclaration where
  name : String
  target : String
  cardinality : Cardinality
  foreignKeys : List String
  deriving DecidableEq, Repr

/-- The declaration of a table. -/
structure TableDeclaration where
  schema : String
  name : String
  columns : List ColumnDeclaration
  relationships : List RelationshipDeclaration

/-- What tells tables apart: the name of the schema and that of the table. -/
structure TableName where
  schema : String
  table : String
  deriving DecidableEq, Repr

namespace TableName

/-- The two names with a point between them. -/
def text (name : TableName) : String :=
  name.schema ++ "." ++ name.table

end TableName

/-- The name of the declared table. -/
def TableDeclaration.tableName (declaration : TableDeclaration) : TableName where
  schema := declaration.schema
  table := declaration.name

/-! ## Reading -/

open Json (Outline)

namespace ForeignKey

/-- Read the parts of a reference. -/
def ofMembers? (members : List (Json.StringText × Outline)) : Option ForeignKey := do
  let fields ← Outline.objectRecord? ["schema", "table", "column"] members
  let part := fun name => Outline.optional? fields name none (Outline.nullable? Outline.string?)
  return .parts (← part "schema") (← part "table") (← part "column")

/-- Read a reference, all of which must have a value. -/
def ofOutline? (depth : Nat) (outline : Outline) : Option ForeignKey := do
  let _ ← outline.value? depth
  match outline with
  | .string text => (text.value?).map .path
  | .object members => ofMembers? members
  | _ => none

/-- The reference as a document. -/
def document : ForeignKey → Json.Document
  | .path text => .ofString text
  | .parts schema table column =>
      .record [("schema", .ofString? schema), ("table", .ofString? table),
        ("column", .ofString? column)]

end ForeignKey

/-- Read a cardinality: its name, or an object that gives nothing under it. -/
def Cardinality.ofOutline?
    (isNothing : Outline → Bool)
    (outline : Outline) :
    Option Cardinality :=
  match outline with
  | .string text => text.value?.bind ofName?
  | .object [(name, content)] =>
      if isNothing content then name.value?.bind ofName? else none
  | _ => none

namespace ColumnDeclaration

/-- The names of the fields, in their order. -/
def fieldNames : List String :=
  ["name", "type", "nullable", "primary_key", "foreign_keys", "default", "srid", "header"]

/-- Read the declaration of a column whose fields are nested at most `depth` deep. -/
def ofOutline? (depth : Nat) (outline : Outline) : Option ColumnDeclaration := do
  let fields ← outline.record? fieldNames
  return {
    name := ← Outline.required? fields "name" Outline.string?
    typeText := ← Outline.optional? fields "type" "" Outline.string?
    nullable := ← Outline.optional? fields "nullable" true Outline.bool?
    isKey := ← Outline.optional? fields "primary_key" false Outline.bool?
    foreignKeys := ← Outline.optional? fields "foreign_keys" []
      (Outline.list? (ForeignKey.ofOutline? (depth - 1)))
    initial := ← Outline.optional? fields "default" none
      (Outline.nullable? (Outline.value? depth))
    srid := ← Outline.optional? fields "srid" none (Outline.nullable? (Outline.signed? 32))
    header := ← Outline.optional? fields "header" none (Outline.nullable? Outline.string?) }

/-- The declaration as a document. -/
def document (column : ColumnDeclaration) : Json.Document :=
  .record [("name", .ofString column.name),
    ("type", .ofString column.typeText),
    ("nullable", .ofBool column.nullable),
    ("primary_key", .ofBool column.isKey),
    ("foreign_keys", .list (column.foreignKeys.map ForeignKey.document)),
    ("default", .value (column.initial.getD .null)),
    ("srid", .ofInt? column.srid),
    ("header", .ofString? column.header)]

end ColumnDeclaration

namespace RelationshipDeclaration

/-- The names of the fields, in their order. -/
def fieldNames : List String := ["name", "target_table", "cardinality", "foreign_keys"]

/-- Read the declaration of a relationship. -/
def ofOutline?
    (isNothing : Outline → Bool)
    (outline : Outline) :
    Option RelationshipDeclaration := do
  let fields ← outline.record? fieldNames
  return {
    name := ← Outline.required? fields "name" Outline.string?
    target := ← Outline.required? fields "target_table" Outline.string?
    cardinality := ← Outline.required? fields "cardinality" (Cardinality.ofOutline? isNothing)
    foreignKeys := ← Outline.optional? fields "foreign_keys" []
      (Outline.list? Outline.string?) }

/-- The declaration as a document. -/
def document (relationship : RelationshipDeclaration) : Json.Document :=
  .record [("name", .ofString relationship.name),
    ("target_table", .ofString relationship.target),
    ("cardinality", .ofString relationship.cardinality.name),
    ("foreign_keys", .ofStrings relationship.foreignKeys)]

end RelationshipDeclaration

namespace TableDeclaration

/-- The names of the fields, in their order. -/
def fieldNames : List String := ["schema", "name", "columns", "relationships"]

/-- Read a declaration from its fields, which are nested at most `depth` deep.
Whoever holds the fields says what counts as nothing in them. -/
def ofFields?
    (isNothing : Outline → Bool)
    (depth : Nat)
    (fields : List (String × Outline)) :
    Option TableDeclaration := do
  return {
    schema := ← Outline.required? fields "schema" Outline.string?
    name := ← Outline.required? fields "name" Outline.string?
    columns := ← Outline.optional? fields "columns" []
      (Outline.list? (ColumnDeclaration.ofOutline? (depth - 2)))
    relationships := ← Outline.optional? fields "relationships" []
      (Outline.list? (RelationshipDeclaration.ofOutline? isNothing)) }

/-- Read the declaration that a text holds. -/
def ofText? (text : String) : Option TableDeclaration := do
  let outline ← Outline.ofText? text.toList
  ofFields? Outline.isNull (Json.maxDepth - 1) (← outline.record? fieldNames)

/-- The declaration as a document. -/
def document (declaration : TableDeclaration) : Json.Document :=
  .record [("schema", .ofString declaration.schema),
    ("name", .ofString declaration.name),
    ("columns", .list (declaration.columns.map ColumnDeclaration.document)),
    ("relationships", .list (declaration.relationships.map RelationshipDeclaration.document))]

end TableDeclaration

end GeoTables
