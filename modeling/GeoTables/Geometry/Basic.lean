import GeoTables.Number.Binary64

/-!
# Planar geometries

A geometry is a point, a line, an area, a list of one of these, or a
collection of arbitrary geometries.  Besides the shapes that well-known text
can spell there are three that only programs supply: a single segment, an
upright rectangle and a triangle.

Coordinates are binary floating-point numbers.  They need not be finite, and
lists of points may be empty; what such geometries mean is decided where they
are compared.
-/

namespace GeoTables

/-- A position in the plane. -/
structure Coordinate where
  x : Binary64
  y : Binary64
  deriving DecidableEq, Repr

/-- A line through a list of positions. -/
abbrev Path := List Coordinate

/-- An area bounded by an outer ring, with a ring for each hole. -/
structure Polygon where
  exterior : Path
  interiors : List Path
  deriving DecidableEq, Repr

/-- A geometry in the plane. -/
inductive Geometry where
  | point (position : Coordinate)
  | segment (start stop : Coordinate)
  | lineString (path : Path)
  | polygon (area : Polygon)
  | multiPoint (positions : List Coordinate)
  | multiLineString (paths : List Path)
  | multiPolygon (areas : List Polygon)
  | collection (members : List Geometry)
  | rectangle (low high : Coordinate)
  | triangle (first second third : Coordinate)

instance : Inhabited Geometry := ⟨.collection []⟩

namespace Coordinate

/-- Both ordinates are equal as numbers. -/
def same (left right : Coordinate) : Bool :=
  left.x.same right.x && left.y.same right.y

/-- Both ordinates are finite. -/
def isFinite (position : Coordinate) : Bool :=
  position.x.isFinite && position.y.isFinite

end Coordinate

/-- Two lists of the same length whose members agree pairwise. -/
def agree {α : Type} (same : α → α → Bool) : List α → List α → Bool
  | [], [] => true
  | left :: lefts, right :: rights => same left right && agree same lefts rights
  | _, _ => false

namespace Path

/-- The same positions in the same order. -/
def same (left right : Path) : Bool :=
  agree Coordinate.same left right

/--
The ring of a list of positions: the first position is repeated at the end
unless it stands there already.
-/
def closed (path : Path) : Path :=
  match path.head?, path.getLast? with
  | some first, some last => if first.same last then path else path ++ [first]
  | _, _ => path

/-- The corners of an upright rectangle, from the lower right one round to it. -/
def aroundRectangle (low high : Coordinate) : Path :=
  [⟨high.x, low.y⟩, ⟨high.x, high.y⟩, ⟨low.x, high.y⟩, ⟨low.x, low.y⟩,
    ⟨high.x, low.y⟩]

/-- The corners of a triangle, from the first one round to it. -/
def aroundTriangle (first second third : Coordinate) : Path :=
  [first, second, third, first]

end Path

namespace Polygon

/-- The polygon of an outer ring and holes, every ring closed. -/
def ofRings (exterior : Path) (interiors : List Path) : Polygon where
  exterior := Path.closed exterior
  interiors := interiors.map Path.closed

/-- The same rings in the same order. -/
def same (left right : Polygon) : Bool :=
  Path.same left.exterior right.exterior &&
    agree Path.same left.interiors right.interiors

/-- All positions of all rings. -/
def positions (area : Polygon) : List Coordinate :=
  area.exterior ++ area.interiors.flatten

end Polygon

namespace Geometry

/-- The upright rectangle between two opposite corners. -/
def ofCorners (first second : Coordinate) : Geometry :=
  let lower := fun (left right : Binary64) => left.compare? right == some .lt
  let (lowX, highX) :=
    if lower first.x second.x then (first.x, second.x) else (second.x, first.x)
  let (lowY, highY) :=
    if lower first.y second.y then (first.y, second.y) else (second.y, first.y)
  .rectangle ⟨lowX, lowY⟩ ⟨highX, highY⟩

/-- The name of the geometry's type. -/
def typeName : Geometry → String
  | .point _ => "Point"
  | .segment _ _ => "Line"
  | .lineString _ => "LineString"
  | .polygon _ => "Polygon"
  | .multiPoint _ => "MultiPoint"
  | .multiLineString _ => "MultiLineString"
  | .multiPolygon _ => "MultiPolygon"
  | .collection _ => "GeometryCollection"
  | .rectangle _ _ => "Rect"
  | .triangle _ _ _ => "Triangle"

mutual

/-- The geometry has no point at all. -/
def isEmpty : Geometry → Bool
  | .point _ | .segment _ _ | .rectangle _ _ | .triangle _ _ _ => false
  | .lineString path => path.isEmpty
  | .polygon area => area.exterior.isEmpty
  | .multiPoint positions => positions.isEmpty
  | .multiLineString paths => paths.all List.isEmpty
  | .multiPolygon areas => areas.all fun area => area.exterior.isEmpty
  | .collection members => allEmpty members

/-- Every geometry of the list is empty. -/
def allEmpty : List Geometry → Bool
  | [] => true
  | member :: rest => isEmpty member && allEmpty rest

end

mutual

/-- All positions that occur in the geometry, in document order. -/
def positions : Geometry → List Coordinate
  | .point position => [position]
  | .segment start stop => [start, stop]
  | .lineString path => path
  | .polygon area => area.positions
  | .multiPoint found => found
  | .multiLineString paths => paths.flatten
  | .multiPolygon areas => areas.flatMap Polygon.positions
  | .collection members => memberPositions members
  | .rectangle low high => [low, high]
  | .triangle first second third => [first, second, third]

/-- All positions that occur in the members of a collection. -/
def memberPositions : List Geometry → List Coordinate
  | [] => []
  | member :: rest => positions member ++ memberPositions rest

end

/-- Every coordinate of the geometry is finite. -/
def isFinite (geometry : Geometry) : Bool :=
  geometry.positions.all Coordinate.isFinite

mutual

/-- The same shape with the same coordinates. -/
def same : Geometry → Geometry → Bool
  | .point left, .point right => left.same right
  | .segment start stop, .segment start' stop' =>
      start.same start' && stop.same stop'
  | .lineString left, .lineString right => Path.same left right
  | .polygon left, .polygon right => left.same right
  | .multiPoint left, .multiPoint right => agree Coordinate.same left right
  | .multiLineString left, .multiLineString right => agree Path.same left right
  | .multiPolygon left, .multiPolygon right => agree Polygon.same left right
  | .collection left, .collection right => sameMembers left right
  | .rectangle low high, .rectangle low' high' => low.same low' && high.same high'
  | .triangle first second third, .triangle first' second' third' =>
      first.same first' && second.same second' && third.same third'
  | _, _ => false

/-- Pairwise the same geometries. -/
def sameMembers : List Geometry → List Geometry → Bool
  | [], [] => true
  | left :: lefts, right :: rights => same left right && sameMembers lefts rights
  | _, _ => false

end

end Geometry

end GeoTables
