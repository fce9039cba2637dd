import GeoTables.Geometry.Place

/-!
# Spatial relations

Two geometries are related by the pairs of places in which they meet: their
interiors, boundaries and exteriors.  Which pairs occur is found on finitely
many sample points.  The vertices of both shapes and the crossings of their
edges cut all edges into pieces that lie wholly in one place of either shape,
and the rings cut the plane into regions that do; a sample of each vertex, of
each piece and of each region therefore finds all pairs.

The four tests are read off the pairs.  An empty geometry stands in no
relation, whatever the coordinates of the other; only then are coordinates
that are not finite refused.
-/

namespace GeoTables

/-- A spatial test between a stored and a supplied geometry. -/
inductive SpatialTest where
  | intersects
  | touches
  | coveredBy
  | within
  deriving DecidableEq, Repr

namespace SpatialTest

/-- All tests. -/
def all : List SpatialTest := [.intersects, .touches, .coveredBy, .within]

/-- The spelling of the test in a clause. -/
def spelling : SpatialTest → String
  | .intersects => "INTERSECTS"
  | .touches => "TOUCHES"
  | .coveredBy => "COVERED_BY"
  | .within => "WITHIN"

/-- The test with a given spelling. -/
def ofSpelling? (text : String) : Option SpatialTest :=
  all.find? fun test => test.spelling == text

end SpatialTest

namespace Plane

/-- Pairs of members, each with every later one. -/
def pairs {α : Type} : List α → List (α × α)
  | [] => []
  | first :: rest => rest.map (fun second => (first, second)) ++ pairs rest

/-- Each member with the next one. -/
def neighbours {α : Type} : List α → List (α × α)
  | first :: second :: rest => (first, second) :: neighbours (second :: rest)
  | _ => []

/-- The vertices of two shapes and the crossings of their edges. -/
def nodes (left right : Shape) : List Point :=
  let edges := left.edges ++ right.edges
  let crossings := (pairs edges).filterMap fun (first, second) => first.crossing? second
  (left.vertices ++ right.vertices ++ crossings).eraseDups

/-- The middle of each piece into which nodes cut an edge. -/
def pieceSamples (nodes : List Point) (edge : Segment) : List Point :=
  let cuts := (nodes.filter edge.contains).mergeSort Point.before
  (neighbours cuts).map fun (first, second) => midpoint first second

/-- Points between the rings on an upright line between two nodes. -/
def regionSamplesAt (rings : List Segment) (x : Rat) : List Point :=
  let heights := (rings.filterMap fun edge => edge.height? x).mergeSort fun a b => a ≤ b
  (neighbours heights).filterMap fun (low, high) =>
    if low < high then some ⟨x, (low + high) / 2⟩ else none

/-- A point of every region that is bounded by rings. -/
def regionSamples (nodes : List Point) (left right : Shape) : List Point :=
  let rings := (left.rings ++ right.rings).flatMap segments
  if rings.isEmpty then
    []
  else
    let places := ((nodes.map Point.x).eraseDups).mergeSort fun a b => a ≤ b
    (neighbours places).flatMap fun (low, high) =>
      regionSamplesAt rings ((low + high) / 2)

/-- Sample points of all places in which two shapes may meet. -/
def samples (left right : Shape) : List Point :=
  let nodes := nodes left right
  nodes ++ (left.edges ++ right.edges).flatMap (pieceSamples nodes)
    ++ regionSamples nodes left right

end Plane

/-- The pairs of places in which two geometries meet. -/
structure Relation where
  meetings : List (Place × Place)

namespace Relation

/-- The relation of two geometries with finite coordinates. -/
def of (left right : Geometry) : Relation :=
  let leftShape := Plane.Shape.of left
  let rightShape := Plane.Shape.of right
  ⟨(Plane.samples leftShape rightShape).map fun point =>
    (leftShape.place point, rightShape.place point)⟩

/-- Some point lies in the two given places. -/
def meets (relation : Relation) (left right : Place) : Bool :=
  relation.meetings.contains (left, right)

/-- The two geometries have a point in common. -/
def intersects (relation : Relation) : Bool :=
  relation.meets .interior .interior || relation.meets .interior .boundary ||
    relation.meets .boundary .interior || relation.meets .boundary .boundary

/-- No point of the first geometry lies outside the second. -/
def leavesNothingOutside (relation : Relation) : Bool :=
  !relation.meets .interior .exterior && !relation.meets .boundary .exterior

/-- The result of a test on the pairs of places. -/
def holds (relation : Relation) : SpatialTest → Bool
  | .intersects => relation.intersects
  | .within => relation.meets .interior .interior && relation.leavesNothingOutside
  | .touches =>
      !relation.meets .interior .interior &&
        (relation.meets .interior .boundary || relation.meets .boundary .interior ||
          relation.meets .boundary .boundary)
  | .coveredBy => relation.intersects && relation.leavesNothingOutside

end Relation

/-- Why two geometries cannot be related. -/
structure UnsupportedRelation where
  test : SpatialTest
  deriving DecidableEq, Repr

/-- The wording of the reason. -/
def UnsupportedRelation.message (fault : UnsupportedRelation) : String :=
  "unsupported geometry operation: " ++ fault.test.spelling
    ++ " with non-finite coordinates"

/-- Test a spatial relation, unless a coordinate is not finite. -/
def Geometry.relate
    (test : SpatialTest)
    (left right : Geometry) :
    Except UnsupportedRelation Bool :=
  if left.isEmpty || right.isEmpty then
    .ok false
  else if left.isFinite && right.isFinite then
    .ok ((Relation.of left right).holds test)
  else
    .error ⟨test⟩

end GeoTables
