import GeoTables.Geometry.Basic

/-!
# Parts of one dimension

The points, lines or areas of a geometry are collected into one list, however
deep they lie in collections.  Segments count as lines, rectangles and
triangles as areas.  The result is always a list geometry of the dimension
asked for, empty if there is nothing to collect.
-/

namespace GeoTables

/-- The dimension of a part of a geometry. -/
inductive Dimension where
  | point
  | line
  | polygon
  deriving DecidableEq, Repr

namespace Dimension

/-- All dimensions, in the order in which parts are compared. -/
def all : List Dimension := [.point, .line, .polygon]

/-- The number that stands for the dimension in a query. -/
def code : Dimension → Nat
  | .point => 1
  | .line => 2
  | .polygon => 3

/-- The dimension that a number stands for. -/
def ofCode? : Nat → Option Dimension
  | 1 => some .point
  | 2 => some .line
  | 3 => some .polygon
  | _ => none

end Dimension

namespace Geometry

mutual

/-- The points of a geometry in document order. -/
def points : Geometry → List Coordinate
  | .point position => [position]
  | .multiPoint positions => positions
  | .collection members => memberPoints members
  | _ => []

/-- The points of a list of geometries. -/
def memberPoints : List Geometry → List Coordinate
  | [] => []
  | member :: rest => points member ++ memberPoints rest

end

mutual

/-- The lines of a geometry in document order. -/
def lines : Geometry → List Path
  | .segment start stop => [[start, stop]]
  | .lineString path => [path]
  | .multiLineString paths => paths
  | .collection members => memberLines members
  | _ => []

/-- The lines of a list of geometries. -/
def memberLines : List Geometry → List Path
  | [] => []
  | member :: rest => lines member ++ memberLines rest

end

mutual

/-- The areas of a geometry in document order. -/
def areas : Geometry → List Polygon
  | .polygon area => [area]
  | .multiPolygon found => found
  | .rectangle low high => [Polygon.ofRings (Path.aroundRectangle low high) []]
  | .triangle first second third =>
      [Polygon.ofRings (Path.aroundTriangle first second third) []]
  | .collection members => memberAreas members
  | _ => []

/-- The areas of a list of geometries. -/
def memberAreas : List Geometry → List Polygon
  | [] => []
  | member :: rest => areas member ++ memberAreas rest

end

/-- All parts of one dimension as one geometry. -/
def extract (geometry : Geometry) : Dimension → Geometry
  | .point => .multiPoint geometry.points
  | .line => .multiLineString geometry.lines
  | .polygon => .multiPolygon geometry.areas

end Geometry

end GeoTables
