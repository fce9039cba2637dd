import GeoTables.Geometry.Parts
import Mathlib.Data.List.Basic
import Mathlib.Tactic.SplitIfs

/-!
# The parts of a geometry

Every geometry consists of single points, lines and areas, in the order in which
a text names them.  The parts of one dimension are exactly those of its parts
that have the dimension, so no part is lost between the dimensions and none is
found in two of them.  A list of parts of one dimension is its own part of that
dimension, and has no part of another one.
-/

namespace GeoTables

/-- A single point, line or area. -/
inductive Part where
  | point (position : Coordinate)
  | line (path : Path)
  | area (area : Polygon)
  deriving DecidableEq, Repr

/-- The dimension of a part. -/
def Part.dimension : Part → Dimension
  | .point _ => .point
  | .line _ => .line
  | .area _ => .polygon

namespace Geometry

mutual

/-- The parts of a geometry in document order, however deep they lie in collections. -/
def parts : Geometry → List Part
  | .point position => [.point position]
  | .segment start stop => [.line [start, stop]]
  | .lineString path => [.line path]
  | .polygon area => [.area area]
  | .multiPoint positions => positions.map .point
  | .multiLineString paths => paths.map .line
  | .multiPolygon areas => areas.map .area
  | .collection members => memberParts members
  | .rectangle low high => [.area (.ofRings (Path.aroundRectangle low high) [])]
  | .triangle first second third => [.area (.ofRings (Path.aroundTriangle first second third) [])]

/-- The parts of a list of geometries. -/
def memberParts : List Geometry → List Part
  | [] => []
  | member :: rest => parts member ++ memberParts rest

end

/-- The geometry is a list of points, of lines or of areas. -/
inductive IsListOf : Dimension → Geometry → Prop where
  | points (positions : List Coordinate) : IsListOf .point (.multiPoint positions)
  | lines (paths : List Path) : IsListOf .line (.multiLineString paths)
  | areas (areas : List Polygon) : IsListOf .polygon (.multiPolygon areas)

variable {dimension other : Dimension} {geometry : Geometry}

/-! ## Parts by dimension -/

/-- Parts that have one dimension in common are left for it and for no other dimension. -/
theorem filter_dimension
    {found : List Part}
    {common : Dimension}
    (each : ∀ part ∈ found, part.dimension = common)
    (dimension : Dimension) :
    found.filter (fun part => part.dimension = dimension) =
      if common = dimension then found else [] := by
  split_ifs with same
  · exact List.filter_eq_self.mpr fun part member => by simp [each part member, same]
  · exact List.filter_eq_nil_iff.mpr fun part member => by simp [each part member, same]

/-- Every part has one of the dimensions. -/
theorem length_filter_dimensions (found : List Part) :
    (found.filter fun part => part.dimension = .point).length +
        (found.filter fun part => part.dimension = .line).length +
        (found.filter fun part => part.dimension = .polygon).length =
      found.length := by
  induction found with
  | nil => rfl
  | cons part rest induction =>
      cases own : part.dimension with
      | point | line | polygon =>
          simp [own]
          omega

/-! ## Lists of parts of one dimension -/

theorem isListOf_extract (geometry : Geometry) (dimension : Dimension) :
    IsListOf dimension (geometry.extract dimension) := by
  cases dimension with
  | point => exact .points geometry.points
  | line => exact .lines geometry.lines
  | polygon => exact .areas geometry.areas

namespace IsListOf

theorem dimension_eq
    (isList : IsListOf dimension geometry) :
    ∀ part ∈ geometry.parts, part.dimension = dimension := by
  cases isList <;> simp [parts, Part.dimension]

/-- A list of parts of one dimension is all there is of the dimension. -/
theorem extract_eq_self (isList : IsListOf dimension geometry) :
    geometry.extract dimension = geometry := by
  cases isList <;> rfl

/-- A list without parts is empty. -/
theorem isEmpty_of_parts_eq_nil
    (isList : IsListOf dimension geometry)
    (nothing : geometry.parts = []) :
    geometry.isEmpty = true := by
  cases isList with
  | points found | lines found | areas found =>
      rw [parts, List.map_eq_nil_iff] at nothing
      rw [nothing]
      rfl

end IsListOf

/-! ## The parts of one dimension -/

theorem parts_extract_cons
    (member : Geometry)
    (rest : List Geometry)
    (dimension : Dimension) :
    ((collection (member :: rest)).extract dimension).parts =
      (member.extract dimension).parts ++ ((collection rest).extract dimension).parts := by
  cases dimension with
  | point => exact List.map_append
  | line => exact List.map_append
  | polygon => exact List.map_append

/-- The parts of a collection are those of its members, one member after the other. -/
theorem parts_extract_collection
    (members : List Geometry)
    (dimension : Dimension) :
    ((collection members).extract dimension).parts =
      members.flatMap fun member => (member.extract dimension).parts := by
  induction members with
  | nil => cases dimension <;> rfl
  | cons member rest induction => rw [parts_extract_cons, induction, List.flatMap_cons]

mutual

/-- The parts of one dimension are the parts that have the dimension. -/
theorem parts_extract (dimension : Dimension) :
    ∀ geometry : Geometry,
      (geometry.extract dimension).parts =
        geometry.parts.filter fun part => part.dimension = dimension
  | .point _ | .segment _ _ | .lineString _ | .polygon _ | .rectangle _ _ | .triangle _ _ _ => by
      cases dimension <;> rfl
  | .multiPoint found => by
      rw [filter_dimension (IsListOf.points found).dimension_eq]
      cases dimension <;> rfl
  | .multiLineString found => by
      rw [filter_dimension (IsListOf.lines found).dimension_eq]
      cases dimension <;> rfl
  | .multiPolygon found => by
      rw [filter_dimension (IsListOf.areas found).dimension_eq]
      cases dimension <;> rfl
  | .collection members => parts_extract_members dimension members

theorem parts_extract_members (dimension : Dimension) :
    ∀ members : List Geometry,
      ((collection members).extract dimension).parts =
        (memberParts members).filter fun part => part.dimension = dimension
  | [] => by cases dimension <;> rfl
  | member :: rest => by
      rw [parts_extract_cons, memberParts, List.filter_append, parts_extract dimension member,
        parts_extract_members dimension rest]

end

namespace IsListOf

/-- A list of parts of one dimension has no part of another one. -/
theorem parts_extract_of_ne
    (isList : IsListOf dimension geometry)
    (differs : other ≠ dimension) :
    (geometry.extract other).parts = [] := by
  rw [parts_extract, filter_dimension isList.dimension_eq, if_neg differs.symm]

theorem isEmpty_extract_of_ne
    (isList : IsListOf dimension geometry)
    (differs : other ≠ dimension) :
    (geometry.extract other).isEmpty = true :=
  (isListOf_extract geometry other).isEmpty_of_parts_eq_nil (isList.parts_extract_of_ne differs)

end IsListOf

/--
The parts of one dimension are a list of exactly those parts of the geometry that
have the dimension, in their order; over all dimensions there are as many as the
geometry has parts.  A collection has the parts of its members one after the
other.  Of the parts of one dimension there are all for that dimension, and none
for another.
-/
theorem extraction_partitions (geometry : Geometry) (dimension : Dimension) :
    IsListOf dimension (geometry.extract dimension) ∧
      (geometry.extract dimension).parts =
        (geometry.parts.filter fun part => part.dimension = dimension) ∧
      (geometry.extract .point).parts.length + (geometry.extract .line).parts.length +
        (geometry.extract .polygon).parts.length = geometry.parts.length ∧
      (∀ members, ((collection members).extract dimension).parts =
        members.flatMap fun member => (member.extract dimension).parts) ∧
      (geometry.extract dimension).extract dimension = geometry.extract dimension ∧
      ∀ other, other ≠ dimension →
        ((geometry.extract dimension).extract other).parts = [] ∧
          ((geometry.extract dimension).extract other).isEmpty = true := by
  have isList := isListOf_extract geometry dimension
  refine ⟨isList, parts_extract dimension geometry, ?_,
    fun members => parts_extract_collection members dimension, isList.extract_eq_self, ?_⟩
  · simp only [parts_extract]
    exact length_filter_dimensions geometry.parts
  · intro other differs
    exact ⟨isList.parts_extract_of_ne differs, isList.isEmpty_extract_of_ne differs⟩

/-! ## A collection in which all shapes occur -/

/-- A rectangle and points around a collection of a segment, an empty line and a triangle. -/
def mixedShapes : Geometry :=
  .collection [
    .rectangle ⟨.ofNat 0, .ofNat 0⟩ ⟨.ofNat 2, .ofNat 1⟩,
    .collection [
      .segment ⟨.ofNat 0, .ofNat 0⟩ ⟨.ofNat 1, .ofNat 1⟩,
      .lineString [],
      .triangle ⟨.ofNat 0, .ofNat 0⟩ ⟨.ofNat 1, .ofNat 0⟩ ⟨.ofNat 0, .ofNat 1⟩],
    .multiPoint [⟨.ofNat 3, .ofNat 3⟩, ⟨.ofNat 3, .ofNat 3⟩],
    .point ⟨.ofNat 4, .ofNat 4⟩]

theorem extraction_partitions_mixedShapes :
    (mixedShapes.extract .point).parts.length = 3 ∧
      (mixedShapes.extract .line).parts.length = 2 ∧
      (mixedShapes.extract .polygon).parts.length = 2 ∧
      mixedShapes.parts.length = 7 ∧
      ((mixedShapes.extract .point).extract .polygon).parts = [] := by
  obtain ⟨_, _, _, _, _, others⟩ := extraction_partitions mixedShapes .point
  exact ⟨rfl, rfl, rfl, rfl, (others .polygon (by decide)).1⟩

end Geometry

end GeoTables
