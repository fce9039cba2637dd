import GeoTables.Predicate.Evaluation
import GeoTables.Proofs.Outcome

/-!
# The spatial tests of a predicate

Only a spatial test can make the evaluation of a predicate fail.  This file
names the tests of a predicate and what it means that all of them can be
carried out on a record.
-/

namespace GeoTables.Predicate

mutual

/-- The spatial tests of a predicate, from left to right. -/
def tests : Predicate → List SpatialClause
  | .and children | .or children => testsOf children
  | .compare _ _ _ | .like _ _ | .isIn _ _ | .isNull _ | .isNotNull _ => []
  | .spatial clause => [clause]

/-- The spatial tests of a list of predicates. -/
def testsOf : List Predicate → List SpatialClause
  | [] => []
  | child :: rest => tests child ++ testsOf rest

end

/-- The test of a record has an outcome. -/
def Settled (record : Record) (clause : SpatialClause) : Prop :=
  ∃ outcome, holdsSpatially clause (record.get clause.column) = .ok outcome

/-- Every spatial test of the predicate has an outcome on the record. -/
def Evaluable (record : Record) (predicate : Predicate) : Prop :=
  ∀ clause ∈ predicate.tests, Settled record clause

theorem testsOf_eq_flatMap
    (children : List Predicate) :
    testsOf children = children.flatMap tests := by
  induction children with
  | nil => rfl
  | cons child rest induction => simp [testsOf, induction]

@[simp]
theorem evaluable_and
    {record : Record}
    {children : List Predicate} :
    Evaluable record (.and children) ↔ ∀ child ∈ children, Evaluable record child := by
  simp only [Evaluable, tests, testsOf_eq_flatMap, List.mem_flatMap]
  constructor
  · intro settled child member clause tested
    exact settled clause ⟨child, member, tested⟩
  · rintro settled clause ⟨child, member, tested⟩
    exact settled child member clause tested

@[simp]
theorem evaluable_or
    {record : Record}
    {children : List Predicate} :
    Evaluable record (.or children) ↔ ∀ child ∈ children, Evaluable record child := by
  have both : Evaluable record (.and children) ↔ _ := evaluable_and
  simpa only [Evaluable, tests] using both

/-! ## Junctions of evaluated children -/

/-- A conjunction of children with values has the conjunction of the values. -/
theorem allHold_of_values
    {record : Record}
    {children : List Predicate}
    {values : List Bool}
    (evaluated :
      List.Forall₂ (fun child value => holds child record = .ok value)
        children values) :
    allHold children record = .ok (values.all id) := by
  induction evaluated with
  | nil => rfl
  | cons head tail induction =>
      rename_i child value children values
      rw [allHold, head]
      cases value with
      | false => rfl
      | true => simpa using induction

/-- A disjunction of children with values has the disjunction of the values. -/
theorem someHold_of_values
    {record : Record}
    {children : List Predicate}
    {values : List Bool}
    (evaluated :
      List.Forall₂ (fun child value => holds child record = .ok value)
        children values) :
    someHold children record = .ok (values.any id) := by
  induction evaluated with
  | nil => rfl
  | cons head tail induction =>
      rename_i child value children values
      rw [someHold, head]
      cases value with
      | false => simpa using induction
      | true => rfl

mutual

/-- A predicate whose tests have outcomes has a value. -/
theorem exists_holds_of_evaluable
    (record : Record) :
    ∀ {predicate : Predicate},
      Evaluable record predicate → ∃ value, predicate.holds record = .ok value
  | .and children, evaluable => by
      obtain ⟨values, evaluated⟩ :=
        exists_values_of_evaluable record (evaluable_and.mp evaluable)
      exact ⟨_, allHold_of_values evaluated⟩
  | .or children, evaluable => by
      obtain ⟨values, evaluated⟩ :=
        exists_values_of_evaluable record (evaluable_or.mp evaluable)
      exact ⟨_, someHold_of_values evaluated⟩
  | .compare _ _ _, _ => ⟨_, rfl⟩
  | .like _ _, _ => ⟨_, rfl⟩
  | .isIn _ _, _ => ⟨_, rfl⟩
  | .isNull _, _ => ⟨_, rfl⟩
  | .isNotNull _, _ => ⟨_, rfl⟩
  | .spatial clause, evaluable => evaluable clause (by simp [tests])

/-- Predicates whose tests have outcomes have values. -/
theorem exists_values_of_evaluable
    (record : Record) :
    ∀ {children : List Predicate},
      (∀ child ∈ children, Evaluable record child) →
      ∃ values,
        List.Forall₂ (fun child value => holds child record = .ok value)
          children values
  | [], _ => ⟨[], .nil⟩
  | child :: rest, evaluable => by
      obtain ⟨value, first⟩ :=
        exists_holds_of_evaluable record (evaluable child (by simp))
      obtain ⟨values, others⟩ :=
        exists_values_of_evaluable record
          (fun other member => evaluable other (List.mem_cons_of_mem child member))
      exact ⟨value :: values, .cons first others⟩

end

end GeoTables.Predicate
