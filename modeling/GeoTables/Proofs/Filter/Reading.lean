import GeoTables.Filter.Reading
import GeoTables.Proofs.Filter.Tree

/-!
# Clauses of filters that were read

A filter that is read from JSON has no clause without the name of a column or
without an operator, however deep the clause lies.
-/

namespace GeoTables

/-- The clause names a column and an operator. -/
def Clause.Named (condition : Clause) : Prop :=
  condition.column ≠ "" ∧ condition.operator ≠ ""

namespace Filter

theorem ne_empty_of_requiredText
    {fields : List (String × Json)}
    {field text : String}
    (found : requiredText fields field = .ok text) :
    text ≠ "" := by
  unfold requiredText at found
  split at found
  · cases found
  · cases found
  · split_ifs at found with empty
    cases found
    simpa using empty
  · cases found

theorem named_of_clauseOf
    {fields : List (String × Json)}
    {condition : Clause}
    (found : clauseOf fields = .ok condition) :
    condition.Named := by
  simp only [clauseOf, Outcome.bind_eq_ok, Outcome.pure_eq_ok] at found
  obtain ⟨column, namesColumn, operator, namesOperator, rfl⟩ := found
  exact ⟨ne_empty_of_requiredText namesColumn, ne_empty_of_requiredText namesOperator⟩

section

variable {Holds : Clause → Prop}

mutual

/-- What holds of all clauses that can be read from fields holds of the clauses of a read filter. -/
theorem forall_clauses_of_ofJson
    (each : ∀ {fields condition}, clauseOf fields = .ok condition → Holds condition) :
    ∀ {json : Json} {filter : Filter},
      ofJson json = .ok filter → ∀ condition ∈ filter.clauses, Holds condition
  | .object fields, filter, found => by
      rw [ofJson] at found
      split at found
      · simp only [Outcome.map_eq_ok] at found
        obtain ⟨children, read, rfl⟩ := found
        exact forall_clauses_of_childrenOf each read
      · cases found
      · simp only [Outcome.map_eq_ok] at found
        obtain ⟨condition, read, rfl⟩ := found
        intro other member
        obtain rfl : other = condition := by simpa [clauses] using member
        exact each read
  | .null, _, found | .bool _, _, found | .number _, _, found | .string _, _, found
  | .array _, _, found => by
      simp [ofJson] at found

theorem forall_clauses_of_childrenOf
    (each : ∀ {fields condition}, clauseOf fields = .ok condition → Holds condition) :
    ∀ {fields : List (String × Json)} {children : List Filter},
      childrenOf fields = .ok children →
      ∀ condition ∈ clausesOf children, Holds condition
  | [], children, found => by
      simp [childrenOf] at found
  | (name, value) :: rest, children, found => by
      rw [childrenOf] at found
      split_ifs at found
      · exact forall_clauses_of_listOf each found
      · exact forall_clauses_of_childrenOf each found

theorem forall_clauses_of_listOf
    (each : ∀ {fields condition}, clauseOf fields = .ok condition → Holds condition) :
    ∀ {json : Json} {children : List Filter},
      listOf json = .ok children →
      ∀ condition ∈ clausesOf children, Holds condition
  | .array items, children, found =>
      forall_clauses_of_itemsOf each (by simpa [listOf] using found)
  | .null, _, found | .bool _, _, found | .number _, _, found | .string _, _, found
  | .object _, _, found => by
      simp [listOf] at found

theorem forall_clauses_of_itemsOf
    (each : ∀ {fields condition}, clauseOf fields = .ok condition → Holds condition) :
    ∀ {items : List Json} {children : List Filter},
      itemsOf items = .ok children →
      ∀ condition ∈ clausesOf children, Holds condition
  | [], children, found => by
      simp only [itemsOf, Except.ok.injEq] at found
      subst found
      simp [clausesOf]
  | item :: rest, children, found => by
      simp only [itemsOf, Outcome.bind_eq_ok, Outcome.pure_eq_ok] at found
      obtain ⟨child, first, others, remaining, rfl⟩ := found
      intro condition member
      rcases List.mem_append.mp member with inChild | inOthers
      · exact forall_clauses_of_ofJson each first condition inChild
      · exact forall_clauses_of_itemsOf each remaining condition inOthers

end

end

/-- Every clause of a filter that was read names a column and an operator. -/
theorem named_of_ofJson
    {json : Json}
    {filter : Filter}
    (found : ofJson json = .ok filter) :
    ∀ condition ∈ filter.clauses, condition.Named :=
  forall_clauses_of_ofJson named_of_clauseOf found

end Filter

end GeoTables
