import GeoTables.Json.Document

/-!
# Filters

A filter is a tree.  Its leaves are clauses, conditions on one column, and its
inner nodes are blocks, which join their children in a mode.  Columns,
operators and modes are texts as a client sends them; whether they mean
anything is decided when the filter is compiled for a table.
-/

namespace GeoTables

/-- A condition on one column; some operators need no operand. -/
structure Clause where
  column : String
  operator : String
  operand : Option Json

/-- A tree of clauses. -/
inductive Filter where
  | clause (condition : Clause)
  | block (mode : String) (children : List Filter)

namespace Filter

instance : Inhabited Filter := ⟨.block "" []⟩

/-- An inner node. -/
def isBlock : Filter → Bool
  | .clause _ => false
  | .block _ _ => true

mutual

/-- The clauses of a filter, from left to right. -/
def clauses : Filter → List Clause
  | .clause condition => [condition]
  | .block _ children => clausesOf children

/-- The clauses of a list of filters. -/
def clausesOf : List Filter → List Clause
  | [] => []
  | child :: rest => clauses child ++ clausesOf rest

end

/-- A clause as a document; an operand that is not there is left out. -/
def clauseDocument (condition : Clause) : Json.Document :=
  .record <|
    [("column_name", .ofString condition.column), ("operator", .ofString condition.operator)]
      ++ condition.operand.toList.map fun operand => ("value", .value operand)

mutual

/-- A filter as a document. -/
def document : Filter → Json.Document
  | .clause condition => clauseDocument condition
  | .block mode children =>
      .record [("mode", .ofString mode), ("clauses", .list (documents children))]

/-- The documents of a list of filters. -/
def documents : List Filter → List Json.Document
  | [] => []
  | child :: rest => document child :: documents rest

end

end Filter

end GeoTables
