import GeoTables.Proofs.Filter.Reading
import GeoTables.Proofs.Table.Columns

/-!
# Why a filter does not compile

The nodes of a filter are visited children first, from left to right, and then
the block around them.  Each node can fail on its own account: a clause that
has no leaf, or a block that has to join in a mode that is neither `AND` nor
`OR`.  Compilation reports the failure of the first node that fails in this
order, and succeeds if none does.

Which failures there are is settled clause by clause: they are all the
client's, and one that misses an operand names the clause it belongs to.
-/

namespace GeoTables

/-! ## Failures of a single clause -/

/-- A failure that a client is told about its own clause. -/
structure Failure.Answers (condition : Clause) (failure : Failure) : Prop where
  isClient : failure.kind = .client
  isClassified : ∀ column, failure ≠ .unclassifiedGeometry column
  missesOwn :
    ∀ column operator,
      failure = .missingValue column operator →
        column = condition.column ∧ operator = condition.operator

namespace ScalarOperator

theorem compareLeaf_eq_error
    {column : Column}
    {comparison : Comparison}
    {operand : Json}
    {failure : Failure}
    (fails : compareLeaf column comparison operand = .error failure) :
    ∃ value reason, failure = .invalidValue column.name value reason := by
  unfold compareLeaf at fails
  split at fails
  · cases fails
  · cases fails
    exact ⟨_, _, rfl⟩

theorem likeLeaf_eq_error
    {column : Column}
    {operand : Json}
    {failure : Failure}
    (fails : likeLeaf column operand = .error failure) :
    ∃ value reason, failure = .invalidValue column.name value reason := by
  unfold likeLeaf at fails
  split at fails
  · cases fails
  · cases fails
    exact ⟨_, _, rfl⟩

theorem member_eq_error
    {column : Column}
    {text : List Char}
    {failure : Failure}
    (fails : member column text = .error failure) :
    ∃ value reason, failure = .invalidValue column.name value reason := by
  unfold member at fails
  split at fails
  · cases fails
  · cases fails
    exact ⟨_, _, rfl⟩

theorem inLeaf_eq_error
    {column : Column}
    {operand : Json}
    {failure : Failure}
    (fails : inLeaf column operand = .error failure) :
    ∃ value reason, failure = .invalidValue column.name value reason := by
  unfold inLeaf at fails
  split at fails
  · simp only [Outcome.bind_eq_error, Outcome.pure_ne_error, and_false, exists_const,
      or_false] at fails
    obtain ⟨text, _, own⟩ := Outcome.exists_fault_of_mapM fails
    exact member_eq_error own
  · cases fails
    exact ⟨_, _, rfl⟩

/-- An operator that gets the operand it needs can only refuse a value. -/
theorem leaf_eq_error
    {operator : ScalarOperator}
    {column : Column}
    {operand : Option Json}
    {failure : Failure}
    (supplied : operator.needsOperand = true → operand.isSome)
    (fails : operator.leaf column operand = .error failure) :
    ∃ value reason, failure = .invalidValue column.name value reason := by
  cases operator with
  | isNull => cases fails
  | isNotNull => cases fails
  | compare comparison =>
      obtain ⟨json, rfl⟩ := Option.isSome_iff_exists.mp (supplied rfl)
      exact compareLeaf_eq_error fails
  | like =>
      obtain ⟨json, rfl⟩ := Option.isSome_iff_exists.mp (supplied rfl)
      exact likeLeaf_eq_error fails
  | isIn =>
      obtain ⟨json, rfl⟩ := Option.isSome_iff_exists.mp (supplied rfl)
      exact inLeaf_eq_error fails

end ScalarOperator

namespace Clause

theorem compileScalar_eq_error
    {condition : Clause}
    {operators : OperatorTable}
    {column : Column}
    {failure : Failure}
    (fails : condition.compileScalar operators column = .error failure) :
    failure = condition.unsupported ∨ failure = condition.missing ∨
      ∃ value reason, failure = .invalidValue column.name value reason := by
  unfold compileScalar at fails
  split at fails
  · cases fails
    exact .inl rfl
  · rename_i operator _
    split_ifs at fails with lacking
    · cases fails
      exact .inr (.inl rfl)
    · refine .inr (.inr (ScalarOperator.leaf_eq_error ?_ fails))
      intro needed
      simpa [needed, Option.isSome_iff_ne_none] using lacking

theorem geometryText_eq_error
    {condition : Clause}
    {column : Column}
    {failure : Failure}
    (fails : condition.geometryText column = .error failure) :
    failure = condition.missing ∨
      ∃ reason, failure = .invalidGeometry column.name reason := by
  unfold geometryText at fails
  split at fails
  · cases fails
    exact .inl rfl
  · cases fails
  · cases fails
    exact .inr ⟨_, rfl⟩

theorem suppliedGeometry_eq_error
    {column : Column}
    {srid : Int}
    {text : String}
    {failure : Failure}
    (fails : suppliedGeometry column srid text = .error failure) :
    (∃ reason, failure = .invalidGeometry column.name reason) ∨
      ∃ actual, failure = .sridMismatch column.name srid actual := by
  unfold suppliedGeometry at fails
  split at fails
  · cases fails
    exact .inl ⟨_, rfl⟩
  · split at fails
    · cases fails
    · split_ifs at fails
      cases fails
      exact .inr ⟨_, rfl⟩

/-- A column of geometries with a reference system leaves a client few mistakes. -/
theorem compileSpatial_eq_error
    {condition : Clause}
    {table : Table}
    {column : Column}
    {failure : Failure}
    (geometric : column.isGeometry = true)
    (located : column.srid.isSome)
    (fails : condition.compileSpatial table column = .error failure) :
    failure = condition.unsupported ∨ failure = condition.missing ∨
      (∃ reason, failure = .invalidGeometry column.name reason) ∨
      ∃ srid actual, failure = .sridMismatch column.name srid actual := by
  obtain ⟨srid, located⟩ := Option.isSome_iff_exists.mp located
  unfold compileSpatial at fails
  split at fails
  · cases fails
    exact .inl rfl
  · rw [Outcome.bind_eq_error] at fails
    rcases fails with noText | ⟨text, _, fails⟩
    · rcases geometryText_eq_error noText with missing | refused
      · exact .inr (.inl missing)
      · exact .inr (.inr (.inl refused))
    · simp only [located, GeometryCase.classify?, geometric, if_true,
        Outcome.bind_eq_error, Outcome.pure_ne_error, and_false, exists_const,
        or_false] at fails
      rcases suppliedGeometry_eq_error fails with refused | ⟨actual, mismatch⟩
      · exact .inr (.inr (.inl refused))
      · exact .inr (.inr (.inr ⟨srid, actual, mismatch⟩))

/-- A clause on a described table fails through its client only. -/
theorem answers_of_compile_eq_error
    {declaration : TableDeclaration}
    {table : Table}
    (described : declaration.describe = .ok table)
    {operators : OperatorTable}
    {condition : Clause}
    {failure : Failure}
    (fails : condition.compile operators table = .error failure) :
    failure.Answers condition := by
  unfold compile at fails
  split at fails
  · cases fails
    constructor <;> simp [Failure.kind]
  · rename_i column found
    split_ifs at fails with relates geometric
    · cases fails
      constructor <;> simp [Failure.kind, unsupported]
    · have located :=
        TableDeclaration.srid_isSome_of_describe described
          (Table.mem_of_column? found).1 geometric
      rcases compileSpatial_eq_error geometric located fails with
        rfl | rfl | ⟨reason, rfl⟩ | ⟨srid, actual, rfl⟩
      all_goals constructor <;> simp_all [Failure.kind, unsupported, missing]
    · rcases compileScalar_eq_error fails with rfl | rfl | ⟨value, reason, rfl⟩
      all_goals constructor <;> simp_all [Failure.kind, unsupported, missing]

end Clause

/-! ## Nodes -/

namespace Filter

mutual

/-- The nodes of a filter, those of the children of a block before the block. -/
def nodes : Filter → List Filter
  | .clause condition => [.clause condition]
  | .block mode children => nodesOf children ++ [.block mode children]

/-- The nodes of a list of filters. -/
def nodesOf : List Filter → List Filter
  | [] => []
  | child :: rest => nodes child ++ nodesOf rest

end

/-- The failure of a node on its own account. -/
def ownFailure? (operators : OperatorTable) (table : Table) : Filter → Option Failure
  | .clause condition => Outcome.fault? (condition.compile operators table)
  | .block mode children =>
      if 2 ≤ (counted children).length ∧ mode ≠ "AND" ∧ mode ≠ "OR" then
        some (.unsupportedMode mode)
      else
        none

/-- Joining fails exactly as the block does on its own account. -/
theorem fault?_join
    {operators : OperatorTable}
    {table : Table}
    {mode : String}
    {children : List Filter}
    {predicates : List Predicate}
    (sameLength : predicates.length = (counted children).length) :
    Outcome.fault? (join mode predicates) =
      ownFailure? operators table (.block mode children) := by
  apply Option.ext
  intro failure
  rw [Outcome.fault?_eq_some, join_eq_error, sameLength, ownFailure?]
  split_ifs with offends
  · simp [offends, eq_comm]
  · simp only [iff_false]
    rintro ⟨several, notAnd, notOr, _⟩
    exact offends ⟨several, notAnd, notOr⟩

variable {operators : OperatorTable} {table : Table}

mutual

/-- Compilation fails with the failure of the first node that fails. -/
theorem findSome?_nodes :
    ∀ filter : Filter,
      filter.nodes.findSome? (ownFailure? operators table) =
        Outcome.fault? (filter.compile operators table)
  | .clause condition => by
      cases own : condition.compile operators table with
      | ok leaf => simp [nodes, ownFailure?, compile, own, Except.map, Outcome.fault?]
      | error failure => simp [nodes, ownFailure?, compile, own, Except.map, Outcome.fault?]
  | .block mode children => by
      have inChildren := findSome?_nodesOf children
      rw [nodes, List.findSome?_append, inChildren, compile]
      cases kept : compileChildren operators table children with
      | error failure => rfl
      | ok predicates =>
          have sameLength := length_of_compileChildren kept
          change
            Option.or none
                ([Filter.block mode children].findSome? (ownFailure? operators table)) =
              Outcome.fault? (join mode predicates)
          rw [fault?_join sameLength]
          cases found : ownFailure? operators table (.block mode children) <;>
            simp [found]

theorem findSome?_nodesOf :
    ∀ children : List Filter,
      (nodesOf children).findSome? (ownFailure? operators table) =
        Outcome.fault? (compileChildren operators table children)
  | [] => rfl
  | child :: rest => by
      have inChild := findSome?_nodes child
      have inRest := findSome?_nodesOf rest
      rw [nodesOf, List.findSome?_append, inChild, inRest, compileChildren]
      cases first : child.compile operators table with
      | error failure => rfl
      | ok result =>
          cases remaining : compileChildren operators table rest with
          | error failure => rfl
          | ok others => rfl

end

mutual

theorem clause_mem_nodes
    {condition : Clause} :
    ∀ filter : Filter,
      Filter.clause condition ∈ filter.nodes ↔ condition ∈ filter.clauses
  | .clause other => by simp [nodes, clauses]
  | .block mode children => by
      simp [nodes, clauses, clause_mem_nodesOf children]

theorem clause_mem_nodesOf
    {condition : Clause} :
    ∀ children : List Filter,
      Filter.clause condition ∈ nodesOf children ↔ condition ∈ clausesOf children
  | [] => by simp [nodesOf, clausesOf]
  | child :: rest => by
      simp [nodesOf, clausesOf, clause_mem_nodes child, clause_mem_nodesOf rest]

end

/-- Every node that fails on its own account is a clause without a leaf or a block
that joins in an unknown mode. -/
theorem ownFailure?_eq_none
    {filter : Filter} :
    (∀ node ∈ filter.nodes, ownFailure? operators table node = none) ↔
      (∀ condition ∈ filter.clauses,
        ∃ leaf, condition.compile operators table = .ok leaf) ∧
      ∀ mode children,
        Filter.block mode children ∈ filter.nodes →
        2 ≤ (counted children).length →
        mode = "AND" ∨ mode = "OR" := by
  constructor
  · intro sound
    constructor
    · intro condition member
      have own := sound (.clause condition) ((clause_mem_nodes filter).mpr member)
      simpa [ownFailure?] using own
    · intro mode children member several
      have own := sound (.block mode children) member
      simp only [ownFailure?, several, true_and, ite_eq_right_iff] at own
      by_contra unknown
      rw [not_or] at unknown
      cases own unknown
  · rintro ⟨clauses, blocks⟩ node member
    cases node with
    | clause condition =>
        have own := clauses condition ((clause_mem_nodes filter).mp member)
        simpa [ownFailure?] using own
    | block mode children =>
        rw [ownFailure?, if_neg]
        rintro ⟨several, notAnd, notOr⟩
        rcases blocks mode children member several with conjunctive | disjunctive
        · exact notAnd conjunctive
        · exact notOr disjunctive

/-- A failure of a filter is the failure of one of its nodes. -/
theorem exists_node_of_compile_eq_error
    {filter : Filter}
    {failure : Failure}
    (fails : filter.compile operators table = .error failure) :
    ∃ node ∈ filter.nodes, ownFailure? operators table node = some failure := by
  have first : Outcome.fault? (filter.compile operators table) = some failure := by
    rw [fails]
    rfl
  rw [← findSome?_nodes] at first
  exact List.exists_of_findSome?_eq_some first

/-- A failure of a filter on a described table is due to a mode or to a clause. -/
theorem exists_offender_of_compile_eq_error
    {declaration : TableDeclaration}
    (described : declaration.describe = .ok table)
    {filter : Filter}
    {failure : Failure}
    (fails : filter.compile operators table = .error failure) :
    (∃ mode, failure = .unsupportedMode mode) ∨
      ∃ condition ∈ filter.clauses,
        condition.compile operators table = .error failure ∧
          failure.Answers condition := by
  obtain ⟨node, member, own⟩ := exists_node_of_compile_eq_error fails
  cases node with
  | clause condition =>
      right
      simp only [ownFailure?, Outcome.fault?_eq_some] at own
      exact ⟨condition, (clause_mem_nodes filter).mp member, own,
        Clause.answers_of_compile_eq_error described own⟩
  | block mode children =>
      left
      simp only [ownFailure?, Option.ite_none_right_eq_some, Option.some.injEq] at own
      exact ⟨mode, own.2.symm⟩

/-- When a filter compiles, and what is reported when it does not. -/
structure Diagnosed
    (operators : OperatorTable)
    (table : Table)
    (filter : Filter) :
    Prop where
  /-- All clauses have leaves, and blocks that join know how. -/
  compiles_iff :
    (∃ result, filter.compile operators table = .ok result) ↔
      (∀ condition ∈ filter.clauses,
        ∃ leaf, condition.compile operators table = .ok leaf) ∧
      ∀ mode children,
        Filter.block mode children ∈ filter.nodes →
        2 ≤ (counted children).length →
        mode = "AND" ∨ mode = "OR"
  /-- The first node that fails on its own account is reported. -/
  fails_iff :
    ∀ failure,
      filter.compile operators table = .error failure ↔
        filter.nodes.findSome? (ownFailure? operators table) = some failure
  /-- No failure is the table's. -/
  isClient :
    ∀ failure,
      filter.compile operators table = .error failure →
        failure.kind = .client ∧
        (∀ name column, failure ≠ .schema (.missingSrid name column)) ∧
        (∀ column, failure ≠ .unclassifiedGeometry column)
  /-- A missing operand is missing in a clause with that column and that operator. -/
  missesOwn :
    ∀ column operator,
      filter.compile operators table = .error (.missingValue column operator) →
        column ≠ "" ∧ operator ≠ "" ∧
        ∃ condition ∈ filter.clauses,
          condition.column = column ∧ condition.operator = operator ∧
          condition.compile operators table =
            .error (.missingValue column operator)

/--
A filter that was read compiles for a described table exactly if all of its
clauses do and every block that joins several children does so with `AND` or
`OR`; otherwise the first node that fails is reported, children before their
block, and the failure is the client's.
-/
theorem compile_diagnosed
    {operators : OperatorTable}
    {declaration : TableDeclaration}
    {table : Table}
    {json : Json}
    {filter : Filter}
    (described : declaration.describe = .ok table)
    (wasRead : ofJson json = .ok filter) :
    Diagnosed operators table filter := by
  constructor
  · rw [← ownFailure?_eq_none, ← List.findSome?_eq_none_iff, findSome?_nodes,
      Outcome.fault?_eq_none]
  · intro failure
    rw [findSome?_nodes, Outcome.fault?_eq_some]
  · intro failure fails
    rcases exists_offender_of_compile_eq_error described fails with
      ⟨mode, rfl⟩ | ⟨condition, _, _, answers⟩
    · simp [Failure.kind]
    · refine ⟨answers.isClient, ?_, answers.isClassified⟩
      rintro name column rfl
      cases answers.isClient
  · intro column operator fails
    rcases exists_offender_of_compile_eq_error described fails with
      ⟨mode, impossible⟩ | ⟨condition, member, own, answers⟩
    · cases impossible
    · obtain ⟨rfl, rfl⟩ := answers.missesOwn column operator rfl
      obtain ⟨namesColumn, namesOperator⟩ := named_of_ofJson wasRead condition member
      exact ⟨namesColumn, namesOperator, condition, member, rfl, rfl, own⟩

/-- A filter that lacks an operand deep inside and goes wrong in two more places. -/
def unfinished : Json :=
  .object [
    ("clauses", .array [
      .object [
        ("clauses", .array [
          .object [("column_name", .string "id"), ("operator", .string "NOT_NULL")],
          .object [("column_name", .string "site"), ("operator", .string "WITHIN")]]),
        ("mode", .string "XOR")],
      .object [("column_name", .string "owner"), ("operator", .string "NULL")]]),
    ("mode", .string "AND")]

theorem compile_diagnosed_unfinished :
    ∃ filter,
      parcels.describe = .ok parcelsTable ∧
      ofJson unfinished = .ok filter ∧
      filter.compile .standard parcelsTable = .error (.missingValue "site" "WITHIN") ∧
      Diagnosed .standard parcelsTable filter :=
  ⟨_, describe_parcels, rfl, rfl,
    compile_diagnosed describe_parcels (show ofJson unfinished = .ok _ from rfl)⟩

end Filter

end GeoTables
