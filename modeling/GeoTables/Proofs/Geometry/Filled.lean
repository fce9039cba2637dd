import GeoTables.Proofs.Geometry.Durable
import GeoTables.Proofs.Geometry.Finite
import GeoTables.Proofs.Geometry.Wkt.Spelled

/-!
# Geometries without empty members

An empty line, ring or area inside another geometry is written as a pair of
parentheses, which is not read again.  If a geometry that was read from a text
has none of them and all of its coordinates are finite, its own text is read as
the geometry again: the rings have been closed by then, and closing them once
more adds nothing.
-/

namespace GeoTables

/-! ## Closed rings -/

theorem Binary64.same_self
    {value : Binary64}
    (finite : value.isFinite = true) :
    value.same value = true := by
  cases value with
  | nan => cases finite
  | number negative rank => simp [same, compare?, place?]

theorem Coordinate.same_self
    {position : Coordinate}
    (finite : position.isFinite = true) :
    position.same position = true := by
  rw [isFinite_iff] at finite
  rw [same, Binary64.same_self finite.1, Binary64.same_self finite.2]
  rfl

/-- A ring that has been closed is closed, if it starts at a finite position. -/
theorem Path.closed_closed
    {path : Path}
    (finite : AllFinite (closed path)) :
    closed (closed path) = closed path := by
  cases path with
  | nil => rfl
  | cons first rest =>
      obtain ⟨last, isLast⟩ := Option.isSome_iff_exists.mp
        (List.getLast?_isSome.mpr (List.cons_ne_nil first rest))
      have once :
          closed (first :: rest) =
            if first.same last then first :: rest else first :: rest ++ [first] := by
        rw [closed, isLast]
        rfl
      cases ends : first.same last with
      | true =>
          have same : closed (first :: rest) = first :: rest := by rw [once, ends]; rfl
          rw [same, same]
      | false =>
          have added : closed (first :: rest) = first :: rest ++ [first] := by
            rw [once, ends]
            rfl
          rw [added] at finite ⊢
          have own : first.same first = true := Coordinate.same_self (finite first (by simp))
          rw [closed, List.getLast?_concat]
          simp [own]

/-! ## Filled geometries -/

/-- No ring of the area is empty. -/
def Polygon.IsFilled (area : Polygon) : Prop :=
  area.exterior ≠ [] ∧ ∀ ring ∈ area.interiors, ring ≠ []

namespace Geometry

mutual

/--
No line or area of a list and no ring of an area is empty.  A list may have no
members, and a line or an area that stands for itself may be empty as a whole,
within a collection too.
-/
def IsFilled : Geometry → Prop
  | .polygon area => area = ⟨[], []⟩ ∨ area.IsFilled
  | .multiLineString paths => ∀ path ∈ paths, path ≠ []
  | .multiPolygon areas => ∀ area ∈ areas, area.IsFilled
  | .collection members => AreFilled members
  | .point _ | .segment _ _ | .lineString _ | .multiPoint _ | .rectangle _ _
  | .triangle _ _ _ => True

/-- Every geometry of the list is filled. -/
def AreFilled : List Geometry → Prop
  | [] => True
  | member :: rest => IsFilled member ∧ AreFilled rest

end

end Geometry

/-! ## Filled geometries are durable -/

theorem Coordinate.isReadable_of_isFinite
    {position : Coordinate}
    (finite : position.isFinite = true) :
    position.IsReadable := by
  rw [isFinite_iff] at finite
  exact ⟨.inl finite.1, .inl finite.2⟩

theorem AllFinite.isReadable
    {positions : List Coordinate}
    (finite : AllFinite positions) :
    ∀ position ∈ positions, position.IsReadable :=
  fun position member => Coordinate.isReadable_of_isFinite (finite position member)

theorem AllFinite.of_mem_flatten
    {lists : List (List Coordinate)}
    (finite : AllFinite lists.flatten) :
    ∀ list ∈ lists, AllFinite list :=
  fun list isList position member => finite position (List.mem_flatten.mpr ⟨list, isList, member⟩)

/-- A ring that has been closed may stand inside an area. -/
theorem Path.isRing_closed
    {path : Path}
    (finite : AllFinite (closed path))
    (filled : closed path ≠ []) :
    IsRing (closed path) :=
  ⟨⟨filled, finite.isReadable⟩, closed_closed finite⟩

theorem Polygon.isSolid_of_isFilled
    {area : Polygon}
    (spelled : area.IsSpelled)
    (finite : AllFinite area.positions)
    (filled : area.IsFilled) :
    area.IsSolid := by
  obtain ⟨exterior, interiors, rfl⟩ := spelled
  rw [positions, AllFinite.append] at finite
  refine ⟨Path.isRing_closed finite.1 filled.1, fun ring member => ?_⟩
  have ringFinite := finite.2.of_mem_flatten ring member
  have ringFilled := filled.2 ring member
  obtain ⟨interior, _, rfl⟩ := List.mem_map.mp member
  exact Path.isRing_closed ringFinite ringFilled

namespace Geometry

mutual

/-- A filled geometry that was read from a text and is finite is what its own text says. -/
theorem isDurable_of_isFilled :
    ∀ {geometry : Geometry},
      geometry.IsSpelled → AllFinite geometry.positions → geometry.IsFilled →
      geometry.IsDurable
  | .point position, _, finite, _ => by
      rw [positions, AllFinite.cons] at finite
      rw [IsDurable]
      exact Coordinate.isReadable_of_isFinite finite.1
  | .lineString path, _, finite, _ | .multiPoint path, _, finite, _ => by
      rw [positions] at finite
      rw [IsDurable]
      exact finite.isReadable
  | .multiLineString paths, _, finite, filled => by
      rw [positions] at finite
      rw [IsFilled] at filled
      rw [IsDurable]
      exact fun path member =>
        ⟨filled path member, (finite.of_mem_flatten path member).isReadable⟩
  | .polygon area, spelled, finite, filled => by
      rw [IsSpelled] at spelled
      rw [positions] at finite
      rw [IsFilled] at filled
      rw [IsDurable]
      exact filled.imp id fun rings => Polygon.isSolid_of_isFilled spelled finite rings
  | .multiPolygon areas, spelled, finite, filled => by
      rw [IsSpelled] at spelled
      rw [positions] at finite
      rw [IsFilled] at filled
      rw [IsDurable]
      intro area member
      have areaFinite : AllFinite area.positions := fun position inArea =>
        finite position (List.mem_flatMap.mpr ⟨area, member, inArea⟩)
      exact Polygon.isSolid_of_isFilled (spelled area member) areaFinite (filled area member)
  | .collection members, spelled, finite, filled => by
      rw [IsSpelled] at spelled
      rw [positions] at finite
      rw [IsFilled] at filled
      rw [IsDurable]
      exact areDurable_of_areFilled spelled finite filled
  | .segment _ _, spelled, _, _ | .rectangle _ _, spelled, _, _
  | .triangle _ _ _, spelled, _, _ => by
      rw [IsSpelled] at spelled
      exact spelled.elim

theorem areDurable_of_areFilled :
    ∀ {members : List Geometry},
      AreSpelled members → AllFinite (memberPositions members) → AreFilled members →
      AreDurable members
  | [], _, _, _ => trivial
  | member :: rest, spelled, finite, filled => by
      rw [AreSpelled] at spelled
      rw [memberPositions, AllFinite.append] at finite
      rw [AreFilled] at filled
      rw [AreDurable]
      exact ⟨isDurable_of_isFilled spelled.1 finite.1 filled.1,
        areDurable_of_areFilled spelled.2 finite.2 filled.2⟩

end

end Geometry

end GeoTables
