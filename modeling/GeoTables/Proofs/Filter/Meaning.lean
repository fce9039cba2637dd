import GeoTables.Proofs.Filter.Tree
import GeoTables.Proofs.Predicate.Tests
import GeoTables.Proofs.Table.Columns

/-!
# The meaning of a filter

A filter can be read directly, without compiling it: a clause means what it is
given to mean, and a block joins what its counted children mean in its mode.
Children without clauses are left out of every block, so they are neutral in
both modes, and a block with a single counted child means what that child
means.

Compilation preserves this reading.  What the induction carries through a list
of children is that the predicates kept for them and the values read off them
agree pairwise.
-/

namespace GeoTables

/-- The clause becomes a leaf, and the leaf has the value on the record. -/
def Clause.Means
    (operators : OperatorTable)
    (table : Table)
    (record : Record)
    (meaning : Clause → Bool)
    (condition : Clause) :
    Prop :=
  ∃ leaf,
    condition.compile operators table = .ok leaf ∧
      leaf.holds record = .ok (meaning condition)

namespace Filter

open Predicate (Evaluable allHold_of_values someHold_of_values
  exists_holds_of_evaluable testsOf_eq_flatMap)

/-- Values joined in a mode; a single one is not joined to anything. -/
def joinedValue (mode : String) : List Bool → Bool
  | [value] => value
  | values =>
      if mode = "AND" then
        values.all id
      else if mode = "OR" then
        values.any id
      else
        false

mutual

/-- The value of a filter, given the values of its clauses. -/
def value (meaning : Clause → Bool) : Filter → Bool
  | .clause condition => meaning condition
  | .block mode children => joinedValue mode (countedValues meaning children)

/-- The values of those filters of a list that have clauses. -/
def countedValues (meaning : Clause → Bool) : List Filter → List Bool
  | [] => []
  | child :: rest =>
      if child.hasClause then
        value meaning child :: countedValues meaning rest
      else
        countedValues meaning rest

end

variable {operators : OperatorTable} {table : Table} {record : Record}

/-! ## Values -/

/-- Joining predicates joins their values. -/
theorem holds_of_join
    {mode : String}
    {predicates : List Predicate}
    {values : List Bool}
    {joined : Predicate}
    (compiled : join mode predicates = .ok (some joined))
    (evaluated :
      List.Forall₂ (fun predicate value => predicate.holds record = .ok value)
        predicates values) :
    joined.holds record = .ok (joinedValue mode values) := by
  rw [join_eq_some] at compiled
  rcases compiled with single | ⟨several, known⟩
  · subst single
    cases evaluated with
    | cons head tail =>
        cases tail
        exact head
  · rw [evaluated.length_eq] at several
    match values with
    | [] => simp at several
    | [_] => simp at several
    | first :: second :: rest =>
        rcases known with ⟨rfl, rfl⟩ | ⟨rfl, rfl⟩
        · exact allHold_of_values evaluated
        · exact someHold_of_values evaluated

/-- The result of a filter has the value of the filter, if its clauses have theirs. -/
def Agrees
    (operators : OperatorTable)
    (table : Table)
    (record : Record)
    (meaning : Clause → Bool)
    (filter : Filter)
    (result : Option Predicate) :
    Prop :=
  result.isSome = filter.hasClause ∧
    ((∀ condition ∈ filter.clauses,
        Clause.Means operators table record meaning condition) →
      ∀ predicate,
        result = some predicate →
        predicate.holds record = .ok (filter.value meaning))

/-- The predicates kept for a list of children have the values that are counted. -/
theorem countedValues_of_agrees
    {meaning : Clause → Bool}
    {children : List Filter}
    {results : List (Option Predicate)}
    (agree :
      List.Forall₂ (Agrees operators table record meaning) children results)
    (means :
      ∀ condition ∈ clausesOf children,
        Clause.Means operators table record meaning condition) :
    List.Forall₂ (fun predicate value => predicate.holds record = .ok value)
      (results.filterMap id) (countedValues meaning children) := by
  induction agree with
  | nil => exact .nil
  | cons head tail induction =>
      rename_i child result children results
      have others :=
        induction fun condition member =>
          means condition (by simp [clausesOf, member])
      obtain ⟨present, valued⟩ := head
      cases result with
      | none =>
          have uncounted : child.hasClause = false := present.symm
          simpa [countedValues, uncounted] using others
      | some predicate =>
          have counts : child.hasClause = true := present.symm
          have first : predicate.holds record = .ok (child.value meaning) :=
            valued
              (fun condition member => means condition (by simp [clausesOf, member]))
              predicate rfl
          simpa [countedValues, counts] using ⟨first, others⟩

theorem inductive_agrees
    (meaning : Clause → Bool) :
    Inductive operators table (Agrees operators table record meaning) := by
  constructor
  · intro condition leaf own
    refine ⟨rfl, ?_⟩
    intro means predicate equal
    obtain ⟨leaf', own', evaluated⟩ := means condition (by simp [clauses])
    obtain rfl : leaf = leaf' := by simpa [own] using own'
    obtain rfl : leaf = predicate := by simpa using equal
    exact evaluated
  · intro mode children results result agree joined
    refine ⟨?_, ?_⟩
    · exact isSome_of_join mode children results result
        (agree.imp fun _ _ agrees => agrees.1) joined
    · rintro means predicate rfl
      exact holds_of_join joined (countedValues_of_agrees agree means)

/-! ## Tests -/

/-- Joining predicates keeps their tests. -/
theorem tests_of_join
    {mode : String}
    {predicates : List Predicate}
    {joined : Predicate}
    (compiled : join mode predicates = .ok (some joined)) :
    joined.tests = Predicate.testsOf predicates := by
  rw [join_eq_some] at compiled
  rcases compiled with rfl | ⟨_, ⟨_, rfl⟩ | ⟨_, rfl⟩⟩
  · simp [Predicate.testsOf]
  · rfl
  · rfl

/-- The clause has a leaf, and the result tests whatever the leaf tests. -/
def Tested
    (operators : OperatorTable)
    (table : Table)
    (result : Option Predicate)
    (condition : Clause) :
    Prop :=
  ∃ leaf predicate,
    condition.compile operators table = .ok leaf ∧
      result = some predicate ∧ leaf.tests ⊆ predicate.tests

theorem inductive_tested :
    Inductive operators table fun filter result =>
      ∀ condition ∈ filter.clauses, Tested operators table result condition := by
  constructor
  · intro condition leaf own other member
    obtain rfl : other = condition := by simpa [clauses] using member
    exact ⟨leaf, leaf, own, rfl, List.Subset.refl _⟩
  · intro mode children results result tested joined condition member
    rw [clauses, clausesOf_eq_flatMap, List.mem_flatMap] at member
    obtain ⟨child, isChild, member⟩ := member
    obtain ⟨childResult, isResult, childTested⟩ :=
      Outcome.exists_partner tested isChild
    obtain ⟨leaf, predicate, own, rfl, included⟩ := childTested condition member
    have kept : predicate ∈ results.filterMap id := by
      simpa using isResult
    cases result with
    | none =>
        rw [join_eq_none] at joined
        rw [joined] at kept
        cases kept
    | some whole =>
        refine ⟨leaf, whole, own, rfl, ?_⟩
        intro test tests
        rw [tests_of_join joined, testsOf_eq_flatMap, List.mem_flatMap]
        exact ⟨predicate, kept, included tests⟩

/-! ## The reading of compiled filters -/

/-- Values of the clauses that a record gives them, each by its own leaf. -/
theorem exists_meaning
    {filter : Filter}
    {predicate : Predicate}
    (compiled : filter.compile operators table = .ok (some predicate))
    (evaluable : Evaluable record predicate) :
    ∃ meaning : Clause → Bool,
      ∀ condition ∈ filter.clauses,
        Clause.Means operators table record meaning condition := by
  classical
  have valued :
      ∀ condition ∈ filter.clauses,
        ∃ leaf value,
          condition.compile operators table = .ok leaf ∧
            leaf.holds record = .ok value := by
    intro condition member
    obtain ⟨leaf, whole, own, equal, included⟩ :=
      compile_induction inductive_tested compiled condition member
    obtain rfl : predicate = whole := by simpa using equal
    obtain ⟨value, evaluated⟩ :=
      exists_holds_of_evaluable record
        (fun test tests => evaluable test (included tests))
    exact ⟨leaf, value, own, evaluated⟩
  choose! leaf value own evaluated using valued
  exact ⟨value, fun condition member =>
    ⟨leaf condition, own condition member, evaluated condition member⟩⟩

/--
Compilation preserves the meaning of a filter.  Nothing comes out exactly if the
filter has no clause.  Otherwise the predicate has, on every record on which its
tests have outcomes, the value of the filter read directly, each clause meaning
what its own leaf says.
-/
theorem compile_preserves_meaning
    {operators : OperatorTable}
    {table : Table}
    {filter : Filter}
    {result : Option Predicate}
    (compiled : filter.compile operators table = .ok result) :
    (result = none ↔ filter.clauses = []) ∧
      ∀ predicate record,
        result = some predicate →
        Evaluable record predicate →
        ∃ meaning : Clause → Bool,
          (∀ condition ∈ filter.clauses,
            Clause.Means operators table record meaning condition) ∧
          predicate.holds record = .ok (filter.value meaning) := by
  constructor
  · have present := isSome_of_compile compiled
    cases result with
    | none =>
        have uncounted : filter.hasClause = false := present.symm
        simpa [hasClause] using uncounted
    | some predicate =>
        have counts : filter.hasClause = true := present.symm
        simpa [hasClause] using counts
  · rintro predicate record rfl evaluable
    obtain ⟨meaning, means⟩ := exists_meaning compiled evaluable
    have agrees : Agrees operators table record meaning filter (some predicate) :=
      compile_induction (inductive_agrees meaning) compiled
    exact ⟨meaning, means, agrees.2 means predicate rfl⟩

/-- Blocks without clauses in both modes, and a mode that joins nothing. -/
def padded : Filter :=
  .block "OR" [
    .block "AND" [],
    .block "XOR" [.clause ⟨"id", ">", some (.number (.integer 7))⟩, .block "OR" []],
    .block "AND" [
      .block "OR" [.block "AND" []],
      .clause ⟨"id", "NOT_NULL", none⟩,
      .clause ⟨"id", "<", some (.number (.integer 3))⟩]]

theorem compile_preserves_meaning_padded :
    ∃ predicate,
      parcels.describe = .ok parcelsTable ∧
      padded.compile .standard parcelsTable = .ok (some predicate) ∧
      Evaluable (Record.ofFields [("id", .int 2)]) predicate ∧
      ∃ meaning : Clause → Bool,
        (∀ condition ∈ padded.clauses,
          Clause.Means .standard parcelsTable (Record.ofFields [("id", .int 2)])
            meaning condition) ∧
        predicate.holds (Record.ofFields [("id", .int 2)]) = .ok (padded.value meaning) :=
  ⟨_, describe_parcels, rfl, by simp [Evaluable, Predicate.tests, Predicate.testsOf],
    (compile_preserves_meaning
      (show padded.compile .standard parcelsTable = .ok (some _) from rfl)).2 _ _ rfl
      (by simp [Evaluable, Predicate.tests, Predicate.testsOf])⟩

end Filter

end GeoTables
