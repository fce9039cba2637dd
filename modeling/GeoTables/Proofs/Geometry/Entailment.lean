import GeoTables.Geometry.Relation
import Mathlib.Tactic.SplitIfs

/-!
# Tests that entail each other

The four tests are read off the same pairs of places, two of them cell by cell.
What lies within a geometry is covered by it, and what is covered by it or touches
it intersects it, whichever pairs of places the two meet in; and nothing both lies
within a geometry and only touches it.

Emptiness and coordinates that are not finite are looked at before the test is, so
they come out alike for all tests and leave this order as it is.
-/

namespace GeoTables

/-! ## Outcomes that carry others -/

/-- If the first outcome is there then so is the second, and it is true if the first one is. -/
def Outcome.Carries {Fault : Type} (stronger weaker : Except Fault Bool) : Prop :=
  ∀ outcome, stronger = .ok outcome →
    ∃ later, weaker = .ok later ∧ (outcome = true → later = true)

theorem Outcome.Carries.eq_ok_true
    {Fault : Type}
    {stronger weaker : Except Fault Bool}
    (carries : Carries stronger weaker)
    (isTrue : stronger = .ok true) :
    weaker = .ok true := by
  obtain ⟨later, isLater, follows⟩ := carries true isTrue
  rw [isLater, follows rfl]

/-! ## Tests of one relation -/

/-- Wherever the first test holds, the second does. -/
inductive SpatialTest.Entails : SpatialTest → SpatialTest → Prop where
  | within_coveredBy : Entails .within .coveredBy
  | coveredBy_intersects : Entails .coveredBy .intersects
  | touches_intersects : Entails .touches .intersects

namespace Relation

variable {relation : Relation}

/-- Each pair of places that makes the stronger test hold makes the weaker one hold. -/
theorem holds_of_entails
    {stronger weaker : SpatialTest}
    (entails : stronger.Entails weaker)
    (holds : relation.holds stronger = true) :
    relation.holds weaker = true := by
  cases entails with
  | within_coveredBy =>
      obtain ⟨inside, nothing⟩ := Bool.and_eq_true_iff.mp holds
      refine Bool.and_eq_true_iff.mpr ⟨?_, nothing⟩
      rw [intersects, inside, Bool.true_or, Bool.true_or, Bool.true_or]
  | coveredBy_intersects => exact (Bool.and_eq_true_iff.mp holds).1
  | touches_intersects =>
      obtain ⟨_, edges⟩ := Bool.and_eq_true_iff.mp holds
      have parts :
          relation.intersects =
            (relation.meets .interior .interior || (relation.meets .interior .boundary ||
              relation.meets .boundary .interior || relation.meets .boundary .boundary)) := by
        simp only [intersects, Bool.or_assoc]
      change relation.intersects = true
      rw [parts, edges, Bool.or_true]

/-- What lies within the other geometry meets its interior, and what touches it does not. -/
theorem not_within_of_touches
    (touches : relation.holds .touches = true) :
    relation.holds .within = false := by
  obtain ⟨apart, _⟩ := Bool.and_eq_true_iff.mp touches
  rw [Bool.not_eq_true'] at apart
  rw [holds, apart, Bool.false_and]

end Relation

/-! ## Tests of two geometries -/

namespace Geometry

/-- Test the relation of two geometries, by whichever means it is found, as far as they are
    not empty and finite. -/
def relateBy
    (relation : Geometry → Geometry → Relation)
    (test : SpatialTest)
    (left right : Geometry) :
    Except UnsupportedRelation Bool :=
  if left.isEmpty || right.isEmpty then
    .ok false
  else if left.isFinite && right.isFinite then
    .ok ((relation left right).holds test)
  else
    .error ⟨test⟩

theorem relateBy_of : relateBy Relation.of = relate := rfl

variable {relation : Geometry → Geometry → Relation} {left right : Geometry}

theorem carries_relateBy
    {stronger weaker : SpatialTest}
    (entails : stronger.Entails weaker) :
    Outcome.Carries (relateBy relation stronger left right)
      (relateBy relation weaker left right) := by
  rintro outcome related
  unfold relateBy at related ⊢
  split_ifs at related ⊢
  · cases related
    exact ⟨false, rfl, id⟩
  · cases related
    exact ⟨_, rfl, Relation.holds_of_entails entails⟩

theorem not_relateBy_within_of_touches
    (touches : relateBy relation .touches left right = .ok true) :
    relateBy relation .within left right = .ok false := by
  unfold relateBy at touches ⊢
  split_ifs at touches ⊢
  · rfl
  · rw [Except.ok.injEq] at touches
    rw [Relation.not_within_of_touches touches]

end Geometry

end GeoTables
