import GeoTables.Predicate.Basic
import GeoTables.Table.Basic

/-!
# Well-formed predicates

A predicate is well formed on a table if nothing in it is left to chance:
junctions join at least two children, lists of members are not empty, operands
are not null, and every leaf is about a column of the table of the right kind.
Evaluation and the writing of SQL rely on it.

The columns of a predicate are the names of its leaves at their first use.
-/

namespace GeoTables

/-- The table has a column of this name that holds scalars. -/
def Table.HasScalar (table : Table) (name : String) : Prop :=
  ∃ column,
    table.column? name = some column ∧
      column.isRelationship = false ∧ column.isGeometry = false

/-- The table has a column of this name that holds geometries in the reference system. -/
def Table.HasGeometry (table : Table) (name : String) (srid : Int) : Prop :=
  ∃ column,
    table.column? name = some column ∧
      column.isRelationship = false ∧ column.isGeometry = true ∧
      column.srid = some srid

namespace Predicate

/-- The predicate is well formed on the table. -/
inductive WellFormed (table : Table) : Predicate → Prop where
  | and
      {children : List Predicate}
      (several : 2 ≤ children.length)
      (each : ∀ child ∈ children, WellFormed table child) :
      WellFormed table (.and children)
  | or
      {children : List Predicate}
      (several : 2 ≤ children.length)
      (each : ∀ child ∈ children, WellFormed table child) :
      WellFormed table (.or children)
  | compare
      {name : String}
      {comparison : Comparison}
      {operand : Value}
      (scalar : table.HasScalar name)
      (present : operand.isNull = false) :
      WellFormed table (.compare name comparison operand)
  | like
      {name pattern : String}
      (scalar : table.HasScalar name) :
      WellFormed table (.like name pattern)
  | isIn
      {name : String}
      {members : List Value}
      (scalar : table.HasScalar name)
      (nonempty : members ≠ [])
      (present : ∀ member ∈ members, member.isNull = false) :
      WellFormed table (.isIn name members)
  | isNull
      {name : String}
      (scalar : table.HasScalar name) :
      WellFormed table (.isNull name)
  | isNotNull
      {name : String}
      (scalar : table.HasScalar name) :
      WellFormed table (.isNotNull name)
  | spatial
      {clause : SpatialClause}
      (geometric : table.HasGeometry clause.column clause.srid) :
      WellFormed table (.spatial clause)

/-! ## Columns of the leaves -/

theorem leafColumnsOf_eq_flatMap
    (children : List Predicate) :
    leafColumnsOf children = children.flatMap leafColumns := by
  induction children with
  | nil => rfl
  | cons child rest induction => simp [leafColumnsOf, induction]

/-- The names of a list, each of them once, in the order in which they first occur. -/
def firstUses : List String → List String
  | [] => []
  | name :: rest => name :: (firstUses rest).filter (· != name)

/-- Names that are left out of a list are left out of its first uses. -/
theorem firstUses_filter
    (kept : String → Bool)
    (names : List String) :
    firstUses (names.filter kept) = (firstUses names).filter kept := by
  induction names with
  | nil => rfl
  | cons name rest induction =>
      cases keeps : kept name with
      | true =>
          simp only [List.filter_cons, keeps, if_true, firstUses, induction,
            List.filter_filter, Bool.and_comm]
      | false =>
          have others :
              ((firstUses rest).filter (· != name)).filter kept =
                (firstUses rest).filter kept := by
            rw [List.filter_filter]
            apply List.filter_congr
            intro other _
            by_cases same : other = name
            · simp [same, keeps]
            · simp [same]
          simp [firstUses, keeps, induction, others]

/-- The library leaves out repeated names in the same way. -/
theorem eraseDups_eq_firstUses (names : List String) :
    names.eraseDups = firstUses names := by
  match names with
  | [] => rfl
  | name :: rest =>
      have shorter : (rest.filter fun other => !other == name).length < rest.length + 1 :=
        Nat.lt_succ_of_le (List.length_filter_le _ _)
      rw [List.eraseDups_cons, eraseDups_eq_firstUses, firstUses_filter]
      rfl
termination_by names.length

/-- Using a name several times on end is the same as using it once. -/
theorem firstUses_replicate
    {count : Nat}
    (positive : 0 < count)
    (name : String)
    (rest : List String) :
    firstUses (List.replicate count name ++ rest) = firstUses (name :: rest) := by
  induction count with
  | zero => cases positive
  | succ count induction =>
      cases count with
      | zero => rfl
      | succ count =>
          have once := induction (Nat.succ_pos count)
          rw [List.replicate_succ, List.cons_append, firstUses, once]
          simp [firstUses]

theorem columns_eq_firstUses (predicate : Predicate) :
    predicate.columns = firstUses predicate.leafColumns :=
  eraseDups_eq_firstUses predicate.leafColumns

end Predicate

end GeoTables
