import GeoTables.Filter.Operator
import GeoTables.Filter.Split
import GeoTables.Geometry.Wkt.Printing

/-!
# Compiling filters

A filter is compiled for a table.  Clauses become leaves, or disjunctions of
leaves where they are split; a block joins what its children became.  Blocks
without clauses vanish, and a block with a single child that is left becomes
that child, so a mode matters only where there is something to join.

A clause is checked in a fixed order: column, operator, operand.  The first
failure from left to right is reported, that of a child before that of the
block around it.
-/

namespace GeoTables

namespace Clause

/-- The failure of an operator that does not apply to the column. -/
def unsupported (clause : Clause) : Failure :=
  .unsupportedOperator clause.operator clause.column

/-- The failure of an operator that lacks its operand. -/
def missing (clause : Clause) : Failure :=
  .missingValue clause.column clause.operator

/-- The operand, unless it is null. -/
def present? (clause : Clause) : Option Json :=
  clause.operand.filter fun operand => !operand.isNull

/-- The text of an operand that has to be a geometry. -/
def geometryText (clause : Clause) (column : Column) : Except Failure String :=
  match clause.present? with
  | none => .error clause.missing
  | some (.string text) => .ok text
  | some _ => .error (.invalidGeometry column.name .notGeometryText)

/-- The geometry of a text, which must not name another reference system. -/
def suppliedGeometry (column : Column) (srid : Int) (text : String) : Except Failure Geometry :=
  match LocatedGeometry.ofText text with
  | .error fault => .error (.invalidGeometry column.name (.badGeometry fault))
  | .ok located =>
      match located.srid with
      | none => .ok located.geometry
      | some actual =>
          if actual = srid then
            .ok located.geometry
          else
            .error (.sridMismatch column.name srid actual)

/-- The leaf of a test with both sides narrowed to parts. -/
def spatialLeaf
    (test : SpatialTest)
    (column : Column)
    (srid : Int)
    (geometry : Geometry)
    (storedPart valuePart : Option Dimension) :
    Predicate :=
  .spatial {
    test := test
    column := column.name
    srid := srid
    storedPart := storedPart
    valuePart := valuePart
    geometry := match valuePart with
      | some dimension => geometry.extract dimension
      | none => geometry
    wkt := geometry.wkt }

/-- The leaves of a test, one for each dimension if it is split. -/
def splitLeaves
    (case : GeometryCase)
    (leaf : Option Dimension → Option Dimension → Predicate) :
    Predicate :=
  match case with
  | .direct => leaf none none
  | .storedCollection => .or (Dimension.all.map fun part => leaf (some part) none)
  | .suppliedCollection => .or (Dimension.all.map fun part => leaf none (some part))
  | .bothCollections => .or (Dimension.all.map fun part => leaf (some part) (some part))

/-- Compile a clause on a column of geometries. -/
def compileSpatial
    (clause : Clause)
    (table : Table)
    (column : Column) :
    Except Failure Predicate :=
  match SpatialTest.ofSpelling? clause.operator with
  | none => .error clause.unsupported
  | some test => do
      let text ← clause.geometryText column
      match column.srid with
      | none => .error (.schema (.missingSrid table.qualifiedName column.name))
      | some srid =>
          let geometry ← suppliedGeometry column srid text
          match GeometryCase.classify? column text with
          | none => .error (.unclassifiedGeometry column.name)
          | some case => return splitLeaves case (spatialLeaf test column srid geometry)

/-- Compile a clause on a column of scalars. -/
def compileScalar
    (clause : Clause)
    (operators : OperatorTable)
    (column : Column) :
    Except Failure Predicate :=
  match operators.get? clause.operator with
  | none => .error clause.unsupported
  | some operator =>
      if operator.needsOperand && clause.present?.isNone then
        .error clause.missing
      else
        operator.leaf column clause.present?

/-- Compile a clause. -/
def compile
    (clause : Clause)
    (operators : OperatorTable)
    (table : Table) :
    Except Failure Predicate :=
  match table.column? clause.column with
  | none => .error (.unknownColumn table.qualifiedName clause.column)
  | some column =>
      if column.isRelationship then
        .error clause.unsupported
      else if column.isGeometry then
        clause.compileSpatial table column
      else
        clause.compileScalar operators column

end Clause

namespace Filter

/-- Join the predicates of the children of a block. -/
def join (mode : String) : List Predicate → Except Failure (Option Predicate)
  | [] => .ok none
  | [child] => .ok (some child)
  | children =>
      if mode = "AND" then
        .ok (some (.and children))
      else if mode = "OR" then
        .ok (some (.or children))
      else
        .error (.unsupportedMode mode)

mutual

/-- Compile a filter; the result is nothing if it has no clause. -/
def compile
    (operators : OperatorTable)
    (table : Table) :
    Filter → Except Failure (Option Predicate)
  | .clause condition => (condition.compile operators table).map some
  | .block mode children => do join mode (← compileChildren operators table children)

/-- Compile a list of filters and keep what they become. -/
def compileChildren
    (operators : OperatorTable)
    (table : Table) :
    List Filter → Except Failure (List Predicate)
  | [] => .ok []
  | child :: rest => do
      let compiled ← compile operators table child
      return compiled.toList ++ (← compileChildren operators table rest)

end

end Filter

end GeoTables
