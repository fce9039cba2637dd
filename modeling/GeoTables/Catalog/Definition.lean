import GeoTables.Table.Declaration

/-!
# Definitions of tables

The tables that are served are listed in a document.  A definition is the
declaration of a table together with the rows that an empty table starts with.
Everything in a definition has to have a value, also what is not looked at, an
empty object counts as nothing as null does, and no two definitions may share a
qualified name.
-/

namespace GeoTables

open Json (Outline)

/-- A table to be served, with the rows that it starts with. -/
structure TableDefinition where
  declaration : TableDeclaration
  rows : List Json

/-- Why a document holds no definitions. -/
inductive DefinitionFault where
  | malformed
  | duplicateTable (name : String)
  deriving DecidableEq, Repr

/-- The wording of a fault. -/
def DefinitionFault.message : DefinitionFault → String
  | .malformed => "invalid table definitions"
  | .duplicateTable name => "table " ++ name ++ " is defined twice"

namespace TableDefinition

/-- Read a definition that is nested at most `depth` deep. -/
def ofOutline? (depth : Nat) (outline : Outline) : Option TableDefinition := do
  let _ ← outline.value? depth
  match outline with
  | .object members =>
      let fields ← Outline.objectRecord? ("rows" :: TableDeclaration.fieldNames) members
      let declaration ← TableDeclaration.ofFields? Outline.isNullOrEmpty (depth - 1) fields
      let rows ← Outline.optional? fields "rows" []
        (Outline.list? (Outline.value? (depth - 2)))
      return ⟨declaration, rows⟩
  | _ => none

/-- Read a list of definitions, the only field of a document. -/
def listOfText? (text : String) : Option (List TableDefinition) := do
  let outline ← Outline.ofText? text.toList
  let fields ← outline.record? ["tables"]
  Outline.required? fields "tables" (Outline.list? (ofOutline? (Json.maxDepth - 2)))

/-- The first name that a list of names repeats. -/
def firstRepeated? (seen : List String) : List String → Option String
  | [] => none
  | name :: rest =>
      if seen.contains name then some name else firstRepeated? (name :: seen) rest

/-- Read the definitions of a document. -/
def listOfText (text : String) : Except DefinitionFault (List TableDefinition) :=
  match listOfText? text with
  | none => .error .malformed
  | some definitions =>
      let names := definitions.map fun definition => definition.declaration.tableName.text
      match firstRepeated? [] names with
      | some name => .error (.duplicateTable name)
      | none => .ok definitions

end TableDefinition

end GeoTables
