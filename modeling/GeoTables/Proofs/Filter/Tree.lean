import GeoTables.Filter.Compilation
import GeoTables.Proofs.Outcome

/-!
# Which parts of a filter count

A child of a block counts if a clause stands in it somewhere.  Compilation
keeps exactly the children that count, so the number of predicates that a block
joins can be read off the filter alone.
-/

namespace GeoTables.Filter

/-- Some clause stands in the filter. -/
def hasClause (filter : Filter) : Bool :=
  !filter.clauses.isEmpty

/-- The children of a block that have clauses. -/
def counted (children : List Filter) : List Filter :=
  children.filter hasClause

theorem clausesOf_eq_flatMap
    (children : List Filter) :
    clausesOf children = children.flatMap clauses := by
  induction children with
  | nil => rfl
  | cons child rest induction => simp [clausesOf, induction]

@[simp]
theorem hasClause_clause
    (condition : Clause) :
    (Filter.clause condition).hasClause = true := rfl

/-- A block has a clause exactly if one of its children counts. -/
theorem hasClause_block
    (mode : String)
    (children : List Filter) :
    (Filter.block mode children).hasClause = !(counted children).isEmpty := by
  induction children with
  | nil => rfl
  | cons child rest induction =>
      cases found : child.clauses with
      | nil =>
          have uncounted : child.hasClause = false := by
            simp [hasClause, found]
          simpa [hasClause, clauses, clausesOf, counted, found, uncounted]
            using induction
      | cons condition others =>
          simp [hasClause, clauses, clausesOf, counted, found]

/-! ## Joining -/

theorem join_eq_none
    {mode : String}
    {predicates : List Predicate} :
    join mode predicates = .ok none ↔ predicates = [] := by
  match predicates with
  | [] => simp [join]
  | [child] => simp [join]
  | first :: second :: rest =>
      simp only [join]
      split_ifs <;> simp

/-- What a block joins its predicates to, if there are any. -/
theorem join_eq_some
    {mode : String}
    {predicates : List Predicate}
    {joined : Predicate} :
    join mode predicates = .ok (some joined) ↔
      predicates = [joined] ∨
        2 ≤ predicates.length ∧
          (mode = "AND" ∧ joined = .and predicates ∨
            mode = "OR" ∧ joined = .or predicates) := by
  match predicates with
  | [] => simp [join]
  | [child] => simp [join]
  | first :: second :: rest =>
      simp only [join]
      split_ifs with conjunctive disjunctive
      · subst conjunctive
        simp [eq_comm]
      · subst disjunctive
        simp [eq_comm]
      · simp [conjunctive, disjunctive]

/-- A block fails on its own exactly if it has to join in an unknown mode. -/
theorem join_eq_error
    {mode : String}
    {predicates : List Predicate}
    {failure : Failure} :
    join mode predicates = .error failure ↔
      2 ≤ predicates.length ∧ mode ≠ "AND" ∧ mode ≠ "OR" ∧
        failure = .unsupportedMode mode := by
  match predicates with
  | [] => simp [join]
  | [child] => simp [join]
  | first :: second :: rest =>
      simp only [join]
      split_ifs with conjunctive disjunctive
      · simp [conjunctive]
      · simp [disjunctive]
      · simp [conjunctive, disjunctive, eq_comm]

/-! ## Induction -/

/--
A relation of filters and results that holds of every clause with its leaf, and
of every block once it holds of the children.  The results of the children
stand in one list with nothing in the place of a child that vanishes.
-/
structure Inductive
    (operators : OperatorTable)
    (table : Table)
    (motive : Filter → Option Predicate → Prop) :
    Prop where
  clause :
    ∀ condition leaf,
      condition.compile operators table = .ok leaf →
      motive (.clause condition) (some leaf)
  block :
    ∀ mode children results result,
      List.Forall₂ motive children results →
      join mode (results.filterMap id) = .ok result →
      motive (.block mode children) result

variable
  {operators : OperatorTable}
  {table : Table}
  {motive : Filter → Option Predicate → Prop}

mutual

/-- An inductive relation holds of every filter that compiles and its result. -/
theorem compile_induction (steps : Inductive operators table motive) :
    ∀ {filter : Filter} {result : Option Predicate},
      filter.compile operators table = .ok result → motive filter result
  | .clause condition, result, compiled => by
      simp only [compile, Outcome.map_eq_ok] at compiled
      obtain ⟨leaf, own, rfl⟩ := compiled
      exact steps.clause condition leaf own
  | .block mode children, result, compiled => by
      simp only [compile, Outcome.bind_eq_ok] at compiled
      obtain ⟨predicates, kept, joined⟩ := compiled
      obtain ⟨results, each, rfl⟩ := compileChildren_induction steps kept
      exact steps.block mode children results result each joined

theorem compileChildren_induction (steps : Inductive operators table motive) :
    ∀ {children : List Filter} {predicates : List Predicate},
      compileChildren operators table children = .ok predicates →
      ∃ results,
        List.Forall₂ motive children results ∧ predicates = results.filterMap id
  | [], predicates, compiled => by
      simp only [compileChildren, Except.ok.injEq] at compiled
      subst compiled
      exact ⟨[], .nil, rfl⟩
  | child :: rest, predicates, compiled => by
      simp only [compileChildren, Outcome.bind_eq_ok, Outcome.pure_eq_ok] at compiled
      obtain ⟨result, first, others, remaining, rfl⟩ := compiled
      have head := compile_induction steps first
      obtain ⟨results, each, rfl⟩ := compileChildren_induction steps remaining
      refine ⟨result :: results, .cons head each, ?_⟩
      cases result <;> rfl

end

/-! ## Children that count -/

/-- As many results as children count are predicates. -/
theorem length_results
    {children : List Filter}
    {results : List (Option Predicate)}
    (agree :
      List.Forall₂ (fun child result => Option.isSome result = child.hasClause)
        children results) :
    (results.filterMap id).length = (counted children).length := by
  induction agree with
  | nil => rfl
  | cons head tail induction =>
      rename_i child result children results
      cases result with
      | none =>
          have uncounted : child.hasClause = false := head.symm
          simpa [counted, uncounted] using induction
      | some predicate =>
          have present : child.hasClause = true := head.symm
          simpa [counted, present] using induction

/-- A block becomes a predicate exactly if one of its children counts. -/
theorem isSome_of_join
    (mode : String)
    (children : List Filter)
    (results : List (Option Predicate))
    (result : Option Predicate)
    (agree :
      List.Forall₂ (fun child result => Option.isSome result = child.hasClause)
        children results)
    (joined : join mode (results.filterMap id) = .ok result) :
    result.isSome = (Filter.block mode children).hasClause := by
  have sameLength := length_results agree
  rw [hasClause_block]
  cases result with
  | none =>
      rw [join_eq_none] at joined
      rw [joined] at sameLength
      have noneCounted : counted children = [] :=
        List.eq_nil_of_length_eq_zero sameLength.symm
      simp [noneCounted]
  | some predicate =>
      have someKept : results.filterMap id ≠ [] := by
        intro nothing
        rw [nothing] at joined
        cases joined
      have someCounted : counted children ≠ [] := by
        intro nothing
        rw [nothing] at sameLength
        exact someKept (List.eq_nil_of_length_eq_zero sameLength)
      rw [List.isEmpty_eq_false_iff.mpr someCounted]
      rfl

theorem inductive_isSome :
    Inductive operators table fun filter result => result.isSome = filter.hasClause := by
  constructor
  · intro condition leaf _
    rfl
  · exact isSome_of_join

/-- A filter becomes a predicate exactly if it has a clause. -/
theorem isSome_of_compile
    {filter : Filter}
    {result : Option Predicate}
    (compiled : filter.compile operators table = .ok result) :
    result.isSome = filter.hasClause :=
  compile_induction inductive_isSome compiled

/-- As many predicates are kept for children as count. -/
theorem length_of_compileChildren
    {children : List Filter}
    {predicates : List Predicate}
    (kept : compileChildren operators table children = .ok predicates) :
    predicates.length = (counted children).length := by
  obtain ⟨results, agree, rfl⟩ := compileChildren_induction inductive_isSome kept
  exact length_results agree

end GeoTables.Filter
