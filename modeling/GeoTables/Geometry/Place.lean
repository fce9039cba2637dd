import GeoTables.Geometry.Plane

/-!
# Where a point lies in a geometry

A point of the plane lies in the interior of a geometry, on its boundary or
outside of it.

* A point that the geometry consists of is interior.
* The boundary of lines are the ends that an odd number of open lines have in
  common; all other points of the lines are interior.
* The boundary of an area are its rings; the inside of the outer ring without
  the holes is its interior.

In a mixed collection areas count before lines and lines before points.
-/

namespace GeoTables

/-- The part of the plane that a point belongs to, as seen from a geometry. -/
inductive Place where
  | interior
  | boundary
  | exterior
  deriving DecidableEq, Repr

namespace Plane

/-- An area given by its rings. -/
structure Area where
  outer : List Point
  holes : List (List Point)

/-- The points, lines and areas of a geometry with exact coordinates. -/
structure Shape where
  points : List Point
  lines : List (List Point)
  areas : List Area

namespace Shape

/-- The shape of a geometry with finite coordinates. -/
def of (geometry : Geometry) : Shape where
  points := geometry.points.map Point.of
  lines := geometry.lines.map fun path => path.map Point.of
  areas :=
    geometry.areas.map fun area =>
      ⟨area.exterior.map Point.of, area.interiors.map fun ring => ring.map Point.of⟩

/-- All rings of all areas. -/
def rings (shape : Shape) : List (List Point) :=
  shape.areas.flatMap fun area => area.outer :: area.holes

/-- The segments of all lines and rings. -/
def edges (shape : Shape) : List Segment :=
  (shape.lines ++ shape.rings).flatMap segments

/-- All points by which the shape is given. -/
def vertices (shape : Shape) : List Point :=
  shape.points ++ (shape.lines ++ shape.rings).flatten

end Shape

/-- Where a point lies in an area. -/
def Area.place (area : Area) (point : Point) : Place :=
  if onPath area.outer point then
    .boundary
  else if withinRing area.outer point then
    if area.holes.any fun hole => onPath hole point then
      .boundary
    else if area.holes.any fun hole => withinRing hole point then
      .exterior
    else
      .interior
  else
    .exterior

/-- Where a point lies in a list of areas. -/
def areasPlace (areas : List Area) (point : Point) : Place :=
  let places := areas.map fun area => area.place point
  if places.contains .interior then
    .interior
  else if places.contains .boundary then
    .boundary
  else
    .exterior

/-- The ends of a line, none if it is closed. -/
def ends (line : List Point) : List Point :=
  match line.head?, line.getLast? with
  | some first, some last => if first = last then [] else [first, last]
  | _, _ => []

/-- Where a point lies in a list of lines. -/
def linesPlace (lines : List (List Point)) (point : Point) : Place :=
  if (lines.flatMap ends).count point % 2 == 1 then
    .boundary
  else if lines.any fun line => onPath line point then
    .interior
  else
    .exterior

/-- Where a point lies in a shape. -/
def Shape.place (shape : Shape) (point : Point) : Place :=
  match areasPlace shape.areas point with
  | .exterior =>
      match linesPlace shape.lines point with
      | .exterior => if shape.points.contains point then .interior else .exterior
      | place => place
  | place => place

end Plane

end GeoTables
