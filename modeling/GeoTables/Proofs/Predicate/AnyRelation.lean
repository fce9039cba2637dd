import GeoTables.Proofs.Geometry.Entailment
import GeoTables.Proofs.Predicate.Reach

/-!
# Evaluation by any relation

Which pairs of places two geometries meet in matters to a predicate only through
its spatial tests.  Here predicates are evaluated with any relation between
geometries, so that what is found to hold for all of them rests on nothing that
is known about pairs of places.  Evaluation itself goes by the relation that is
found on sample points.
-/

namespace GeoTables.Predicate

/-- The outcome of a spatial test of a field, by any relation. -/
def holdsSpatiallyBy
    (relation : Geometry → Geometry → Relation)
    (clause : SpatialClause)
    (field : Value) :
    Except Failure Bool :=
  match field.geometry? with
  | none => .ok false
  | some stored =>
      (Geometry.relateBy relation clause.test (clause.storedSide stored) clause.geometry).mapError
        (Failure.spatial clause.column none)

mutual

/-- The predicate holds of a record, with spatial tests by any relation. -/
def holdsBy
    (relation : Geometry → Geometry → Relation)
    (predicate : Predicate)
    (record : Record) :
    Except Failure Bool :=
  match predicate with
  | .and children => allHoldBy relation children record
  | .or children => someHoldBy relation children record
  | .spatial clause => holdsSpatiallyBy relation clause (record.get clause.column)
  | leaf => leaf.holds record

/-- Every predicate holds of a record, looked at up to the first that does not. -/
def allHoldBy
    (relation : Geometry → Geometry → Relation)
    (predicates : List Predicate)
    (record : Record) :
    Except Failure Bool :=
  match predicates with
  | [] => .ok true
  | child :: rest => do
      if ← holdsBy relation child record then allHoldBy relation rest record else return false

/-- Some predicate holds of a record, looked at up to the first that does. -/
def someHoldBy
    (relation : Geometry → Geometry → Relation)
    (predicates : List Predicate)
    (record : Record) :
    Except Failure Bool :=
  match predicates with
  | [] => .ok false
  | child :: rest => do
      if ← holdsBy relation child record then return true else someHoldBy relation rest record

end

theorem holdsSpatiallyBy_of
    (clause : SpatialClause)
    (field : Value) :
    holdsSpatiallyBy Relation.of clause field = holdsSpatially clause field := by
  cases field with
  | geometry stored =>
      rw [holdsSpatially_geometry, holdsSpatiallyBy, Geometry.relateBy_of]
      rfl
  | _ => rfl

mutual

/-- Evaluation goes by the relation that is found on sample points. -/
theorem holdsBy_of
    (record : Record) :
    ∀ predicate : Predicate, predicate.holdsBy Relation.of record = predicate.holds record
  | .and children => by rw [holdsBy, holds, allHoldBy_of record children]
  | .or children => by rw [holdsBy, holds, someHoldBy_of record children]
  | .spatial clause => by rw [holdsBy, holds, holdsSpatiallyBy_of]
  | .compare _ _ _ | .like _ _ | .isIn _ _ | .isNull _ | .isNotNull _ => rfl

theorem allHoldBy_of
    (record : Record) :
    ∀ predicates : List Predicate,
      allHoldBy Relation.of predicates record = allHold predicates record
  | [] => rfl
  | child :: rest => by rw [allHoldBy, allHold, holdsBy_of record child, allHoldBy_of record rest]

theorem someHoldBy_of
    (record : Record) :
    ∀ predicates : List Predicate,
      someHoldBy Relation.of predicates record = someHold predicates record
  | [] => rfl
  | child :: rest => by
      rw [someHoldBy, someHold, holdsBy_of record child, someHoldBy_of record rest]

end

variable {relation : Geometry → Geometry → Relation} {record : Record}

theorem holdsSpatiallyBy_geometry
    (clause : SpatialClause)
    (stored : Geometry) :
    holdsSpatiallyBy relation clause (.geometry stored) =
      (Geometry.relateBy relation clause.test (clause.storedSide stored) clause.geometry).mapError
        (Failure.spatial clause.column none) :=
  rfl

/-! ## Disjunctions in which one child matters -/

/-- Children that do not hold leave a disjunction to the others. -/
theorem someHoldBy_append
    {before rest : List Predicate}
    (open_ : ∀ earlier ∈ before, earlier.holdsBy relation record = .ok false) :
    someHoldBy relation (before ++ rest) record = someHoldBy relation rest record := by
  induction before with
  | nil => rfl
  | cons earlier before induction =>
      obtain ⟨first, others⟩ := List.forall_mem_cons.mp open_
      rw [List.cons_append, someHoldBy, first]
      exact induction others

/-- A disjunction comes to what one child comes to if no other one holds or fails. -/
theorem someHoldBy_of_others
    {before after : List Predicate}
    {child : Predicate}
    (others : ∀ other ∈ before ++ after, other.holdsBy relation record = .ok false) :
    someHoldBy relation (before ++ child :: after) record = child.holdsBy relation record := by
  obtain ⟨first, last⟩ := List.forall_mem_append.mp others
  have rest : someHoldBy relation after record = .ok false := by
    rw [← List.append_nil after, someHoldBy_append last]
    rfl
  rw [someHoldBy_append first, someHoldBy, rest]
  rcases child.holdsBy relation record with failure | outcome
  · rfl
  · cases outcome <;> rfl

/-- Of children for all dimensions only one matters. -/
theorem someHoldBy_map_dimensions
    {child : Dimension → Predicate}
    {dimension : Dimension}
    (others : ∀ other, other ≠ dimension → (child other).holdsBy relation record = .ok false) :
    someHoldBy relation (Dimension.all.map child) record =
      (child dimension).holdsBy relation record := by
  obtain ⟨before, after, parts, apart⟩ :
      ∃ before after, Dimension.all = before ++ dimension :: after ∧
        ∀ other ∈ before ++ after, other ≠ dimension := by
    cases dimension with
    | point => exact ⟨[], [.line, .polygon], rfl, by decide⟩
    | line => exact ⟨[.point], [.polygon], rfl, by decide⟩
    | polygon => exact ⟨[.point, .line], [], rfl, by decide⟩
  rw [parts, List.map_append, List.map_cons, someHoldBy_of_others]
  intro other member
  rw [← List.map_append] at member
  obtain ⟨part, isPart, rfl⟩ := List.mem_map.mp member
  exact others part (apart part isPart)

end GeoTables.Predicate
