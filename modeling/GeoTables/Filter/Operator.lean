import GeoTables.Entries
import GeoTables.Failure
import GeoTables.Predicate.Basic

/-!
# Operators on scalar columns

An operator turns a column and an operand into a leaf of a predicate.  A table
of operators finds them by their spelling; the standard table can be extended,
and an operator that is added under a spelling hides any other one there.
-/

namespace GeoTables

/-- An operator on a column that holds no geometries. -/
inductive ScalarOperator where
  | compare (comparison : Comparison)
  | like
  | isIn
  | isNull
  | isNotNull
  deriving DecidableEq, Repr

namespace ScalarOperator

/-- The operator applies only to an operand. -/
def needsOperand : ScalarOperator → Bool
  | .compare _ | .like | .isIn => true
  | .isNull | .isNotNull => false

/-- The text of an operand that is a string, a number or a truth value. -/
def operandText? : Json → Option String
  | .string text => some text
  | .number number => some (String.ofList number.characters)
  | .bool true => some "true"
  | .bool false => some "false"
  | _ => none

/-- An operand that has to be there. -/
def required (column : Column) (operand : Option Json) : Except Failure Json :=
  match operand with
  | some json => .ok json
  | none => .error (.missingValue column.name "")

/-- The leaf that compares a column with an operand. -/
def compareLeaf
    (column : Column)
    (comparison : Comparison)
    (operand : Json) :
    Except Failure Predicate :=
  match Value.coerce column operand with
  | .ok value => .ok (.compare column.name comparison value)
  | .error fault => .error (.invalidValue column.name operand.text (.coercion fault))

/-- The leaf that matches a column with a pattern. -/
def likeLeaf (column : Column) (operand : Json) : Except Failure Predicate :=
  match operandText? operand with
  | some pattern => .ok (.like column.name pattern)
  | none => .error (.invalidValue column.name operand.text .notPattern)

/-- A member of a list of values. -/
def member (column : Column) (text : List Char) : Except Failure Value :=
  match Value.coerceText column (String.ofList text) with
  | .ok value => .ok value
  | .error fault =>
      .error (.invalidValue column.name (String.ofList text) (.coercion fault))

/-- The leaf that looks a column up among values that are separated by commas. -/
def inLeaf (column : Column) (operand : Json) : Except Failure Predicate :=
  match operandText? operand with
  | some text => do
      let members ← (text.toList.splitOnP (· == ',')).mapM (member column)
      return .isIn column.name members
  | none => .error (.invalidValue column.name operand.text .notMembers)

/-- The leaf that the operator makes of a column and an operand. -/
def leaf
    (operator : ScalarOperator)
    (column : Column)
    (operand : Option Json) :
    Except Failure Predicate :=
  match operator with
  | .compare comparison => do compareLeaf column comparison (← required column operand)
  | .like => do likeLeaf column (← required column operand)
  | .isIn => do inLeaf column (← required column operand)
  | .isNull => .ok (.isNull column.name)
  | .isNotNull => .ok (.isNotNull column.name)

end ScalarOperator

/-- Operators by their spelling. -/
structure OperatorTable where
  entries : List (String × ScalarOperator)

namespace OperatorTable

/-- The operator of a spelling. -/
def get? (table : OperatorTable) (spelling : String) : Option ScalarOperator :=
  table.entries.lookup spelling

/-- Add an operator, in place of any other one with its spelling. -/
def insert
    (table : OperatorTable)
    (spelling : String)
    (operator : ScalarOperator) :
    OperatorTable :=
  ⟨(spelling, operator) :: table.entries.filter fun entry => entry.1 != spelling⟩

@[simp]
theorem get?_insert
    (table : OperatorTable)
    (spelling other : String)
    (operator : ScalarOperator) :
    (table.insert spelling operator).get? other =
      if other = spelling then some operator else table.get? other := by
  by_cases same : other = spelling <;> simp [get?, insert, Entries.lookup_entry, same]

/-- All spellings, sorted. -/
def spellings (table : OperatorTable) : List String :=
  (table.entries.map Prod.fst).mergeSort

/-- Comparisons, patterns, membership and tests for null. -/
def standard : OperatorTable :=
  ⟨[("=", .compare .eq),
    ("==", .compare .eq),
    ("<>", .compare .ne),
    ("!=", .compare .ne),
    ("<", .compare .lt),
    ("<=", .compare .le),
    (">", .compare .gt),
    (">=", .compare .ge),
    ("LIKE", .like),
    ("IN", .isIn),
    ("NULL", .isNull),
    ("NOT_NULL", .isNotNull)]⟩

end OperatorTable

end GeoTables
