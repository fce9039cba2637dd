import GeoTables.Proofs.Filter.WellFormed
import GeoTables.Proofs.Predicate.Truth
import GeoTables.Query.Execution

/-!
# Evaluation and the null logic of databases

A compiled predicate can be evaluated here or be handed to a database as a
condition.  On records on which all of its spatial tests have outcomes, both
keep the same rows: those for which the predicate is true in the three-valued
logic of the database.
-/

namespace GeoTables.Query

/-- Selection keeps the records that pass the test with which evaluation agrees. -/
theorem selected_eq_filter
    {table : Table}
    {predicate : Predicate}
    {kept : Record → Bool}
    {records : List Record}
    (agrees : ∀ record ∈ records, predicate.holds record = .ok (kept record)) :
    selected table predicate records = .ok (records.filter kept) := by
  induction records with
  | nil => rfl
  | cons record rest induction =>
      rw [List.forall_mem_cons] at agrees
      rw [selected, accepts, agrees.1, induction agrees.2, List.filter_cons]
      rfl

theorem countSelected_eq_countP
    {table : Table}
    {predicate : Predicate}
    {kept : Record → Bool}
    (counted : Nat)
    {records : List Record}
    (agrees : ∀ record ∈ records, predicate.holds record = .ok (kept record)) :
    countSelected table predicate counted records = .ok (counted + records.countP kept) := by
  induction records generalizing counted with
  | nil => rfl
  | cons record rest induction =>
      rw [List.forall_mem_cons] at agrees
      have further := fun counted => induction counted agrees.2
      rw [countSelected, accepts, agrees.1, List.countP_cons]
      cases kept record with
      | false => exact further counted
      | true =>
          have one := further (counted + 1)
          rw [Nat.add_right_comm, Nat.add_assoc] at one
          exact one

variable {operators : OperatorTable} {table : Table} {filter : Filter} {predicate : Predicate}

/-- A database keeps a record exactly if evaluation accepts it. -/
theorem holds_of_compile
    (compiled : filter.compile operators table = .ok (some predicate))
    {record : Record}
    (evaluable : predicate.Evaluable record) :
    ∃ truth,
      predicate.truth record = .ok truth ∧
        predicate.databaseTruth record = .ok truth ∧
        predicate.holds record = .ok truth.isYes := by
  obtain ⟨truth, known⟩ := Predicate.exists_truth evaluable
  have wellFormed := Filter.wellFormed_of_compile compiled
  exact ⟨truth, known, (Predicate.databaseTruth_eq_truth wellFormed).trans known,
    Predicate.holds_of_truth known⟩

theorem holds_eq_keeps
    (compiled : filter.compile operators table = .ok (some predicate))
    {record : Record}
    (evaluable : predicate.Evaluable record) :
    predicate.holds record = .ok (predicate.keeps record) := by
  obtain ⟨truth, _, found, holds⟩ := holds_of_compile compiled evaluable
  rw [holds, Predicate.keeps, found]

/--
On a record on which no test fails, a compiled predicate holds exactly if it is
true in three-valued logic, whether leaves are unknown by their fields or, as in
a database, by either side of a comparison.  So reading and counting keep the
records that a condition in a database keeps.
-/
theorem evaluation_agrees_with_null_logic
    (compiled : filter.compile operators table = .ok (some predicate)) :
    (∀ record, predicate.Evaluable record →
      ∃ value truth,
        predicate.holds record = .ok value ∧
          predicate.truth record = .ok truth ∧
          predicate.databaseTruth record = .ok truth ∧
          (value = true ↔ truth = .yes)) ∧
    ∀ (sorter : Sorter) (session : Session) (records : List Record),
      session.scan table = .ok records →
      (∀ record ∈ records, predicate.Evaluable record) →
      execute sorter session table ⟨some predicate, none, none⟩ =
          .ok (some (records.filter predicate.keeps)) ∧
        count session table (some predicate) = .ok (records.countP predicate.keeps) := by
  constructor
  · intro record evaluable
    obtain ⟨truth, known, found, holds⟩ := holds_of_compile compiled evaluable
    exact ⟨truth.isYes, truth, holds, known, found, Truth.isYes_eq_true⟩
  · intro sorter session records scanned evaluable
    have agrees :
        ∀ record ∈ records, predicate.holds record = .ok (predicate.keeps record) :=
      fun record member => holds_eq_keeps compiled (evaluable record member)
    have rows :
        matching table (some predicate) records = .ok (records.filter predicate.keeps) :=
      selected_eq_filter agrees
    constructor
    · rw [execute, checkSort, scanned]
      dsimp only [bind, Except.bind]
      rw [rows]
      rfl
    · rw [count, scanned]
      dsimp only [bind, Except.bind]
      rw [countSelected_eq_countP 0 agrees, Nat.zero_add]

/-- A parcel of which only the number is known. -/
def barelyKnown : Record :=
  .ofFields [("id", .int 7)]

/-- A parcel of which all but the site is known. -/
def measured : Record :=
  .ofFields [("id", .int 7), ("area", .decimal ⟨1250, 2, by decide +kernel, by decide⟩)]

/-- The rows of every table are these parcels. -/
def unsitedSession : Session :=
  ⟨fun _ => .ok [barelyKnown, measured]⟩

/-- Every test is settled on a record without a site. -/
theorem evaluable_nearOrListed
    {record : Record}
    (unsited : (record.get "site").isNull = true) :
    Filter.nearOrListed.Evaluable record := by
  have onSite : ∀ clause ∈ Filter.nearOrListed.tests, clause.column = "site" := by
    decide +kernel
  intro clause tested
  have isOpen : (Predicate.spatial clause).isOpen record = true := by
    rw [Predicate.isOpen, onSite clause tested]
    exact unsited
  exact ⟨false, Predicate.holds_of_isOpen isOpen⟩

theorem keeps_measured : Filter.nearOrListed.keeps measured = true := by
  have text : (measured.get "area").text? = some "12.50" := by decide +kernel
  have matched : Predicate.matchesField (measured.get "area") "1%" = true := by
    rw [Predicate.matchesField, text]
    change matchesPattern "12.50" "1%" = true
    cbv
  have liked :
      Predicate.databaseLeaf measured (.like "area" "1%") = .ok .yes := by
    rw [Predicate.databaseLeaf, matched]
    rfl
  rw [Predicate.keeps, Predicate.databaseTruth, Filter.nearOrListed]
  simp only [Predicate.kleene, Predicate.kleeneOf, liked]
  rfl

/-- Without its area it is unknown whether a parcel is wanted, but its site does not matter. -/
theorem evaluation_agrees_with_null_logic_unsited :
    Filter.atTwoPointsOrListed.compile .standard parcelsTable =
        .ok (some Filter.nearOrListed) ∧
      (∃ value truth,
        Filter.nearOrListed.holds barelyKnown = .ok value ∧
          Filter.nearOrListed.databaseTruth barelyKnown = .ok truth ∧
          (value = true ↔ truth = .yes) ∧ truth = .unknown) ∧
      execute .insertion unsitedSession parcelsTable ⟨some Filter.nearOrListed, none, none⟩ =
        .ok (some [measured]) ∧
      count unsitedSession parcelsTable (some Filter.nearOrListed) = .ok 1 := by
  have compiled := Filter.compile_atTwoPointsOrListed
  obtain ⟨single, several⟩ := evaluation_agrees_with_null_logic compiled
  have evaluable :
      ∀ record ∈ [barelyKnown, measured], Filter.nearOrListed.Evaluable record := by
    simp only [List.forall_mem_cons]
    exact ⟨evaluable_nearOrListed rfl, evaluable_nearOrListed rfl, by simp⟩
  obtain ⟨value, truth, holds, _, found, agrees⟩ :=
    single barelyKnown (evaluable_nearOrListed rfl)
  obtain ⟨rows, number⟩ := several .insertion unsitedSession _ rfl evaluable
  have unknown : Except.ok truth = .ok Truth.unknown := found.symm.trans rfl
  have kept : [barelyKnown, measured].filter Filter.nearOrListed.keeps = [measured] := by
    rw [List.filter_cons_of_neg (by decide), List.filter_cons_of_pos keeps_measured,
      List.filter_nil]
  have keptNumber : [barelyKnown, measured].countP Filter.nearOrListed.keeps = 1 := by
    rw [List.countP_eq_length_filter, kept]
    rfl
  rw [kept] at rows
  rw [keptNumber] at number
  refine ⟨compiled, ?_, rows, number⟩
  exact ⟨value, truth, holds, found, agrees, Except.ok.inj unknown⟩

end GeoTables.Query
