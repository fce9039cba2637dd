import GeoTables.Geometry.Relation
import Mathlib.Tactic.SplitIfs

/-!
# Finite coordinates

The parts of one dimension take their coordinates from the geometry they are
collected from, the corners of rectangles included, so the parts of a geometry
with finite coordinates have finite coordinates.  A relation is refused exactly
if neither side is empty and one of them has a coordinate that is not finite.
-/

namespace GeoTables

/-- All of the positions have finite ordinates. -/
def AllFinite (positions : List Coordinate) : Prop :=
  ∀ position ∈ positions, position.isFinite = true

namespace AllFinite

@[simp]
theorem nil : AllFinite [] := by
  intro position member
  cases member

@[simp]
theorem append
    {left right : List Coordinate} :
    AllFinite (left ++ right) ↔ AllFinite left ∧ AllFinite right := by
  simp only [AllFinite, List.mem_append]
  constructor
  · intro finite
    exact ⟨fun position member => finite position (.inl member),
      fun position member => finite position (.inr member)⟩
  · rintro ⟨inLeft, inRight⟩ position (member | member)
    · exact inLeft position member
    · exact inRight position member

@[simp]
theorem cons
    {first : Coordinate}
    {rest : List Coordinate} :
    AllFinite (first :: rest) ↔ first.isFinite = true ∧ AllFinite rest := by
  simp [AllFinite]

/-- Closing a ring repeats a position at most. -/
theorem closed
    {path : Path}
    (finite : AllFinite path) :
    AllFinite (Path.closed path) := by
  unfold Path.closed
  split
  · rename_i first last isFirst isLast
    split_ifs
    · exact finite
    · have member : first ∈ path := List.mem_of_head? isFirst
      exact append.mpr ⟨finite, by simpa using finite first member⟩
  · exact finite

end AllFinite

theorem Geometry.isFinite_iff
    {geometry : Geometry} :
    geometry.isFinite = true ↔ AllFinite geometry.positions := by
  simp [Geometry.isFinite, AllFinite]

theorem Coordinate.isFinite_iff
    {position : Coordinate} :
    position.isFinite = true ↔
      position.x.isFinite = true ∧ position.y.isFinite = true := by
  simp [Coordinate.isFinite]

/-- The corners of a rectangle are finite if the two that are given are. -/
theorem AllFinite.aroundRectangle
    {low high : Coordinate}
    (lowFinite : low.isFinite = true)
    (highFinite : high.isFinite = true) :
    AllFinite (Path.aroundRectangle low high) := by
  rw [Coordinate.isFinite_iff] at lowFinite highFinite
  simp [Path.aroundRectangle, Coordinate.isFinite_iff, lowFinite, highFinite]

/-- An area that is bounded by one ring has the positions of that ring. -/
theorem AllFinite.ofRing
    {ring : Path}
    (finite : AllFinite ring) :
    AllFinite (Polygon.ofRings ring []).positions := by
  simpa [Polygon.ofRings, Polygon.positions] using finite.closed

namespace Geometry

mutual

theorem allFinite_points :
    ∀ {geometry : Geometry},
      AllFinite geometry.positions → AllFinite geometry.points
  | .point _, finite => finite
  | .multiPoint _, finite => finite
  | .collection _, finite => allFinite_memberPoints finite
  | .segment _ _, _ | .lineString _, _ | .polygon _, _ | .multiLineString _, _
  | .multiPolygon _, _ | .rectangle _ _, _ | .triangle _ _ _, _ => .nil

theorem allFinite_memberPoints :
    ∀ {members : List Geometry},
      AllFinite (memberPositions members) → AllFinite (memberPoints members)
  | [], _ => .nil
  | member :: rest, finite => by
      rw [memberPositions, AllFinite.append] at finite
      rw [memberPoints, AllFinite.append]
      exact ⟨allFinite_points finite.1, allFinite_memberPoints finite.2⟩

end

mutual

theorem allFinite_lines :
    ∀ {geometry : Geometry},
      AllFinite geometry.positions → AllFinite geometry.lines.flatten
  | .segment _ _, finite => by simpa [lines, positions] using finite
  | .lineString _, finite => by simpa [lines, positions] using finite
  | .multiLineString _, finite => finite
  | .collection _, finite => allFinite_memberLines finite
  | .point _, _ | .polygon _, _ | .multiPoint _, _ | .multiPolygon _, _
  | .rectangle _ _, _ | .triangle _ _ _, _ => .nil

theorem allFinite_memberLines :
    ∀ {members : List Geometry},
      AllFinite (memberPositions members) → AllFinite (memberLines members).flatten
  | [], _ => .nil
  | member :: rest, finite => by
      rw [memberPositions, AllFinite.append] at finite
      rw [memberLines, List.flatten_append, AllFinite.append]
      exact ⟨allFinite_lines finite.1, allFinite_memberLines finite.2⟩

end

mutual

theorem allFinite_areas :
    ∀ {geometry : Geometry},
      AllFinite geometry.positions →
      AllFinite (geometry.areas.flatMap Polygon.positions)
  | .polygon _, finite => by simpa [areas, positions] using finite
  | .multiPolygon _, finite => finite
  | .rectangle low high, finite => by
      simp only [positions, AllFinite.cons] at finite
      simpa [areas] using
        (AllFinite.aroundRectangle finite.1 finite.2.1).ofRing
  | .triangle first second third, finite => by
      simp only [positions, AllFinite.cons] at finite
      obtain ⟨firstFinite, secondFinite, thirdFinite, _⟩ := finite
      have ring : AllFinite (Path.aroundTriangle first second third) := by
        simp [Path.aroundTriangle, firstFinite, secondFinite, thirdFinite]
      simpa [areas] using ring.ofRing
  | .collection _, finite => allFinite_memberAreas finite
  | .point _, _ | .segment _ _, _ | .lineString _, _ | .multiPoint _, _
  | .multiLineString _, _ => .nil

theorem allFinite_memberAreas :
    ∀ {members : List Geometry},
      AllFinite (memberPositions members) →
      AllFinite ((memberAreas members).flatMap Polygon.positions)
  | [], _ => .nil
  | member :: rest, finite => by
      rw [memberPositions, AllFinite.append] at finite
      rw [memberAreas, List.flatMap_append, AllFinite.append]
      exact ⟨allFinite_areas finite.1, allFinite_memberAreas finite.2⟩

end

/-- The parts of a geometry with finite coordinates have finite coordinates. -/
theorem isFinite_extract
    {geometry : Geometry}
    (finite : geometry.isFinite = true)
    (dimension : Dimension) :
    (geometry.extract dimension).isFinite = true := by
  rw [isFinite_iff] at finite ⊢
  cases dimension with
  | point => exact allFinite_points finite
  | line => exact allFinite_lines finite
  | polygon => exact allFinite_areas finite

/-- A relation is refused between geometries with points, if one is not finite. -/
theorem relate_eq_error
    {test : SpatialTest}
    {left right : Geometry}
    {fault : UnsupportedRelation} :
    relate test left right = .error fault ↔
      left.isEmpty = false ∧ right.isEmpty = false ∧
        ¬(left.isFinite = true ∧ right.isFinite = true) ∧ fault = ⟨test⟩ := by
  unfold relate
  split_ifs with empty finite
  · simp only [Bool.or_eq_true] at empty
    rcases empty with leftEmpty | rightEmpty
    · simp [leftEmpty]
    · simp [rightEmpty]
  · simp only [Bool.and_eq_true] at finite
    simp [finite]
  · simp only [Bool.or_eq_true, not_or, Bool.not_eq_true] at empty
    simp only [Bool.and_eq_true] at finite
    constructor
    · intro refused
      cases refused
      exact ⟨empty.1, empty.2, finite, rfl⟩
    · rintro ⟨_, _, _, rfl⟩
      rfl

end Geometry

end GeoTables
