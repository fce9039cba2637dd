import GeoTables.Proofs.Entries
import GeoTables.Proofs.Filter.Leaves
import GeoTables.Proofs.Table.Columns
import Mathlib.Data.List.Induction

/-!
# Aliases of operators

The standard table can be extended by further spellings for its operators.  A filter
is compiled with the extended table as it is with the standard one once each alias in
it is replaced by the spelling it stands for, and a filter without aliases as if
nothing had been added.  Columns of geometries have operators of their own, which no
alias reaches.
-/

namespace GeoTables

/-- A new spelling for an operator that the standard table has under another one. -/
structure Alias where
  spelling : String
  standard : String
  operator : ScalarOperator
  isStandard : OperatorTable.standard.get? standard = some operator
  isNew : OperatorTable.standard.get? spelling = none
  isNotSpatial : SpatialTest.ofSpelling? spelling = none

namespace Alias

/-- The alias that was added last under a spelling. -/
def last? (aliases : List Alias) (spelling : String) : Option Alias :=
  aliases.reverse.find? fun entry => entry.spelling == spelling

/-- The standard spelling that a spelling stands for; one that is no alias stands for itself. -/
def standardSpelling (aliases : List Alias) (spelling : String) : String :=
  match last? aliases spelling with
  | some entry => entry.standard
  | none => spelling

theorem standardSpelling_concat
    (earlier : List Alias)
    (latest : Alias)
    (spelling : String) :
    standardSpelling (earlier ++ [latest]) spelling =
      if spelling = latest.spelling then latest.standard
      else standardSpelling earlier spelling := by
  rw [standardSpelling, last?, List.reverse_append, List.reverse_singleton,
    List.singleton_append, List.find?_cons]
  split_ifs with same
  · simp [same]
  · have other : (latest.spelling == spelling) = false := beq_eq_false_iff_ne.mpr (Ne.symm same)
    rw [other, standardSpelling, last?]

/-- A spelling that is no alias stands for itself. -/
theorem standardSpelling_of_unused
    {aliases : List Alias}
    {spelling : String}
    (unused : ∀ entry ∈ aliases, entry.spelling ≠ spelling) :
    standardSpelling aliases spelling = spelling := by
  have none : last? aliases spelling = none := by
    rw [last?, List.find?_eq_none]
    intro entry member
    simpa using unused entry (List.mem_reverse.mp member)
  rw [standardSpelling, none]

/-- No operator of the standard table is spelled like a spatial test. -/
theorem ofSpelling?_of_standard
    {spelling : String}
    {operator : ScalarOperator}
    (known : OperatorTable.standard.get? spelling = some operator) :
    SpatialTest.ofSpelling? spelling = none := by
  have all : ∀ entry ∈ OperatorTable.standard.entries,
      SpatialTest.ofSpelling? entry.1 = none := by
    decide +kernel
  exact all _ (Entries.mem_of_lookup known)

/-- Neither an alias nor what it stands for spells a spatial test. -/
theorem ofSpelling?_standardSpelling (aliases : List Alias) (spelling : String) :
    SpatialTest.ofSpelling? (standardSpelling aliases spelling) =
      SpatialTest.ofSpelling? spelling := by
  rw [standardSpelling]
  cases found : last? aliases spelling with
  | none => rfl
  | some entry =>
      have same : entry.spelling = spelling := by simpa using List.find?_some found
      rw [← same, entry.isNotSpatial, ofSpelling?_of_standard entry.isStandard]

end Alias

namespace OperatorTable

/-- The standard table with aliases that are added one after the other. -/
def extended (aliases : List Alias) : OperatorTable :=
  aliases.foldl (fun table entry => table.insert entry.spelling entry.operator) .standard

/-- The extended table has the operators of the standard spellings. -/
theorem get?_extended (aliases : List Alias) (spelling : String) :
    (extended aliases).get? spelling =
      standard.get? (Alias.standardSpelling aliases spelling) := by
  induction aliases using List.reverseRecOn with
  | nil => rfl
  | append_singleton earlier latest induction =>
      have step :
          extended (earlier ++ [latest]) =
            (extended earlier).insert latest.spelling latest.operator := by
        rw [extended, List.foldl_concat, extended]
      rw [step, get?_insert, Alias.standardSpelling_concat, induction]
      split_ifs
      · exact latest.isStandard.symm
      · rfl

end OperatorTable

/-! ## Clauses -/

namespace Clause

/-- The clause with an alias replaced by the standard spelling. -/
def standardised (aliases : List Alias) (condition : Clause) : Clause :=
  { condition with operator := Alias.standardSpelling aliases condition.operator }

variable {left right : OperatorTable} {table : Table} {condition other : Clause}

/-- Tables that agree on the operator of a clause compile it alike. -/
theorem compile_congr
    (same : left.get? condition.operator = right.get? condition.operator) :
    condition.compile left table = condition.compile right table := by
  simp only [compile, compileScalar, same]

/-- What a clause becomes depends on what its operator stands for, not on the spelling. -/
theorem Becomes.congr
    {leaf : Predicate}
    (column : condition.column = other.column)
    (operand : condition.operand = other.operand)
    (scalar : left.get? condition.operator = right.get? other.operator)
    (spatial :
      SpatialTest.ofSpelling? condition.operator = SpatialTest.ofSpelling? other.operator)
    (becomes : Becomes left table condition leaf) :
    Becomes right table other leaf := by
  have present : condition.present? = other.present? := by rw [present?, operand, present?]
  cases becomes with
  | scalar found own plain known made =>
      exact .scalar (column ▸ found) own plain (scalar ▸ known) (present ▸ made)
  | spatial found own geometric spelled given located supplied =>
      exact .spatial (column ▸ found) own geometric (spatial ▸ spelled) (operand ▸ given)
        located supplied

/-- A clause with an alias becomes what the clause in the standard spelling does. -/
theorem compile_extended_eq_ok_iff
    {aliases : List Alias}
    {leaf : Predicate} :
    condition.compile (.extended aliases) table = .ok leaf ↔
      (condition.standardised aliases).compile .standard table = .ok leaf := by
  have scalar := OperatorTable.get?_extended aliases condition.operator
  have spatial := Alias.ofSpelling?_standardSpelling aliases condition.operator
  constructor
  · intro compiled
    refine ((becomes_of_compile compiled).congr ?_ ?_ scalar spatial.symm).compile_eq_ok <;> rfl
  · intro compiled
    refine ((becomes_of_compile compiled).congr ?_ ?_ scalar.symm spatial).compile_eq_ok <;> rfl

/-- On a column of geometries an operator that is no spatial test is not supported. -/
theorem compile_of_not_spatial
    {operators : OperatorTable}
    {column : Column}
    (found : table.column? condition.column = some column)
    (geometric : column.isGeometry = true)
    (notSpatial : SpatialTest.ofSpelling? condition.operator = none) :
    condition.compile operators table = .error condition.unsupported := by
  rw [compile, found]
  dsimp only
  split_ifs
  · rfl
  · rw [compileSpatial, notSpatial]

end Clause

/-! ## Trees -/

namespace Filter

mutual

/-- The filter with all aliases replaced by the standard spellings. -/
def standardised (aliases : List Alias) : Filter → Filter
  | .clause condition => .clause (condition.standardised aliases)
  | .block mode children => .block mode (standardisedChildren aliases children)

/-- A list of filters with all aliases replaced by the standard spellings. -/
def standardisedChildren (aliases : List Alias) : List Filter → List Filter
  | [] => []
  | child :: rest => standardised aliases child :: standardisedChildren aliases rest

end

/-- Some clause of the filter spells its operator with an alias. -/
def UsesAlias (aliases : List Alias) (filter : Filter) : Prop :=
  ∃ condition ∈ filter.clauses, ∃ entry ∈ aliases, entry.spelling = condition.operator

instance (aliases : List Alias) (filter : Filter) : Decidable (filter.UsesAlias aliases) :=
  inferInstanceAs <| Decidable <|
    ∃ condition ∈ filter.clauses, ∃ entry ∈ aliases, entry.spelling = condition.operator

section

variable {left right : OperatorTable} {table : Table}

mutual

/-- Tables that agree on all operators of a filter compile it alike. -/
theorem compile_congr :
    ∀ {filter : Filter},
      (∀ condition ∈ filter.clauses,
        left.get? condition.operator = right.get? condition.operator) →
      filter.compile left table = filter.compile right table
  | .clause condition, same => by
      rw [compile, Clause.compile_congr (same condition (by simp [clauses])), compile]
  | .block mode children, same => by
      rw [compile, compileChildren_congr same, compile]

theorem compileChildren_congr :
    ∀ {children : List Filter},
      (∀ condition ∈ clausesOf children,
        left.get? condition.operator = right.get? condition.operator) →
      compileChildren left table children = compileChildren right table children
  | [], _ => rfl
  | child :: rest, same => by
      rw [clausesOf, List.forall_mem_append] at same
      rw [compileChildren, compile_congr same.1, compileChildren_congr same.2,
        compileChildren]

end

end

section

variable {aliases : List Alias} {table : Table}

mutual

/-- A filter compiles with aliases exactly as it does in the standard spelling. -/
theorem compile_extended_eq_ok_iff :
    ∀ {filter : Filter} {result : Option Predicate},
      filter.compile (.extended aliases) table = .ok result ↔
        (filter.standardised aliases).compile .standard table = .ok result
  | .clause condition, result => by
      rw [standardised, compile, compile, Outcome.map_eq_ok, Outcome.map_eq_ok]
      exact exists_congr fun leaf => and_congr_left' Clause.compile_extended_eq_ok_iff
  | .block mode children, result => by
      rw [standardised, compile, compile, Outcome.bind_eq_ok, Outcome.bind_eq_ok]
      exact exists_congr fun kept => and_congr_left' compileChildren_extended_eq_ok_iff

theorem compileChildren_extended_eq_ok_iff :
    ∀ {children : List Filter} {kept : List Predicate},
      compileChildren (.extended aliases) table children = .ok kept ↔
        compileChildren .standard table (standardisedChildren aliases children) = .ok kept
  | [], kept => Iff.rfl
  | child :: rest, kept => by
      simp only [standardisedChildren, compileChildren, Outcome.bind_eq_ok]
      exact exists_congr fun result => and_congr compile_extended_eq_ok_iff
        (exists_congr fun others => and_congr_left' compileChildren_extended_eq_ok_iff)

end

end

/--
A filter without aliases is compiled with the extended table exactly as with the
standard one.  With or without aliases, a filter compiles with the extended table if
and only if it does with the standard table in the standard spelling, and to the same
predicate.  On columns of geometries aliases are not supported.
-/
theorem aliases_extend_standard
    (aliases : List Alias)
    (table : Table)
    (filter : Filter) :
    (¬filter.UsesAlias aliases →
      filter.compile (.extended aliases) table = filter.compile .standard table) ∧
    (∀ result,
      filter.compile (.extended aliases) table = .ok result ↔
        (filter.standardised aliases).compile .standard table = .ok result) ∧
    ∀ entry ∈ aliases, ∀ (condition : Clause) (column : Column),
      condition.operator = entry.spelling →
      table.column? condition.column = some column →
      column.isGeometry = true →
      condition.compile (.extended aliases) table = .error condition.unsupported := by
  refine ⟨fun unused => compile_congr fun condition member => ?_,
    fun result => compile_extended_eq_ok_iff, ?_⟩
  · rw [OperatorTable.get?_extended, Alias.standardSpelling_of_unused]
    intro entry isEntry same
    exact unused ⟨condition, member, entry, isEntry, same⟩
  · intro entry _ condition column spelled found geometric
    exact Clause.compile_of_not_spatial found geometric (spelled ▸ entry.isNotSpatial)

/-- Aliases of which one is added twice, first for another operator. -/
def wordAliases : List Alias :=
  [⟨"EQ", "<>", .compare .ne, by decide +kernel, by decide +kernel, by decide +kernel⟩,
    ⟨"MISSING", "NULL", .isNull, by decide +kernel, by decide +kernel, by decide +kernel⟩,
    ⟨"EQ", "=", .compare .eq, by decide +kernel, by decide +kernel, by decide +kernel⟩]

/-- The parcel of a number, if its area is not known. -/
def unmeasured (equals missing : String) : Filter :=
  .block "AND" [
    .block "XOR" [.clause ⟨"id", equals, some (.string "7")⟩],
    .clause ⟨"area", missing, none⟩]

/-- A clause that compares a geometry by an alias. -/
def siteEquals : Clause :=
  ⟨"site", "EQ", some (.string "POINT(1 1)")⟩

theorem aliases_extend_standard_unmeasured :
    ¬(unmeasured "=" "NULL").UsesAlias wordAliases ∧
    (unmeasured "=" "NULL").compile (.extended wordAliases) parcelsTable =
      (unmeasured "=" "NULL").compile .standard parcelsTable ∧
    (unmeasured "EQ" "MISSING").compile (.extended wordAliases) parcelsTable =
      .ok (some (.and [.compare "id" .eq (.int 7), .isNull "area"])) ∧
    siteEquals.compile (.extended wordAliases) parcelsTable =
      .error (.unsupportedOperator "EQ" "site") := by
  have plain : ¬(unmeasured "=" "NULL").UsesAlias wordAliases := by decide +kernel
  have compiled :
      ((unmeasured "EQ" "MISSING").standardised wordAliases).compile .standard parcelsTable =
        .ok (some (.and [.compare "id" .eq (.int 7), .isNull "area"])) := by
    rfl
  have last : wordAliases[2] ∈ wordAliases := List.getElem_mem _
  exact ⟨plain,
    (aliases_extend_standard wordAliases parcelsTable (unmeasured "=" "NULL")).1 plain,
    ((aliases_extend_standard wordAliases parcelsTable (unmeasured "EQ" "MISSING")).2.1 _).mpr
      compiled,
    (aliases_extend_standard wordAliases parcelsTable (unmeasured "EQ" "MISSING")).2.2 _ last
      siteEquals parcelsTable.columns[2] rfl rfl rfl⟩

end Filter

end GeoTables
