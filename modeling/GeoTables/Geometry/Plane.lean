import GeoTables.Geometry.Parts

/-!
# Exact points and segments

Finite coordinates are rational numbers, and so are the coordinates of the
points where two segments cross.  All geometric decisions are therefore made
without rounding.
-/

namespace GeoTables.Plane

/-- A point with exact coordinates. -/
structure Point where
  x : Rat
  y : Rat
  deriving DecidableEq

/-- The exact value of a finite number, zero for any other. -/
def exact (value : Binary64) : Rat :=
  mkRat (value.units?.getD 0) Binary64.unitsInOne

/-- The exact point of a position with finite coordinates. -/
def Point.of (position : Coordinate) : Point :=
  ⟨exact position.x, exact position.y⟩

/-- The point in the middle between two points. -/
def midpoint (first second : Point) : Point :=
  ⟨(first.x + second.x) / 2, (first.y + second.y) / 2⟩

/-- The order of points from left to right and then upwards. -/
def Point.before (first second : Point) : Bool :=
  first.x < second.x || (first.x == second.x && first.y ≤ second.y)

/-- A straight line between two points. -/
structure Segment where
  start : Point
  stop : Point
  deriving DecidableEq

/-- The segments of a list of points, each to its successor. -/
def segments : List Point → List Segment
  | first :: second :: rest => ⟨first, second⟩ :: segments (second :: rest)
  | _ => []

/-- Twice the signed area of a triangle, positive when it turns to the left. -/
def turn (first second third : Point) : Rat :=
  (second.x - first.x) * (third.y - first.y) - (second.y - first.y) * (third.x - first.x)

/-- A number between two others, in either order, or one of them. -/
def between (value first second : Rat) : Bool :=
  (first ≤ value && value ≤ second) || (second ≤ value && value ≤ first)

namespace Segment

/-- The point lies on the segment, its ends included. -/
def contains (segment : Segment) (point : Point) : Bool :=
  between point.x segment.start.x segment.stop.x &&
    between point.y segment.start.y segment.stop.y &&
    turn segment.start segment.stop point == 0

/-- The point where two segments that are not parallel meet. -/
def crossing? (left right : Segment) : Option Point :=
  let leftX := left.stop.x - left.start.x
  let leftY := left.stop.y - left.start.y
  let rightX := right.stop.x - right.start.x
  let rightY := right.stop.y - right.start.y
  let determinant := leftX * rightY - leftY * rightX
  if determinant == 0 then
    none
  else
    let offsetX := right.start.x - left.start.x
    let offsetY := right.start.y - left.start.y
    let onLeft := (offsetX * rightY - offsetY * rightX) / determinant
    let onRight := (offsetX * leftY - offsetY * leftX) / determinant
    if between onLeft 0 1 && between onRight 0 1 then
      some ⟨left.start.x + onLeft * leftX, left.start.y + onLeft * leftY⟩
    else
      none

/-- The segment passes a ray from the point to the right. -/
def passesRightOf (segment : Segment) (point : Point) : Bool :=
  let rises := segment.start.y ≤ point.y && point.y < segment.stop.y
  let falls := segment.stop.y ≤ point.y && point.y < segment.start.y
  let side := turn segment.start segment.stop point
  (rises && 0 < side) || (falls && side < 0)

/-- The height of a segment above a place strictly between its ends. -/
def height? (segment : Segment) (x : Rat) : Option Rat :=
  let (left, right) :=
    if segment.start.x ≤ segment.stop.x then
      (segment.start, segment.stop)
    else
      (segment.stop, segment.start)
  if left.x < x && x < right.x then
    some (left.y + (x - left.x) / (right.x - left.x) * (right.y - left.y))
  else
    none

end Segment

/-- The point lies on a line through the given points. -/
def onPath (path : List Point) (point : Point) : Bool :=
  path.contains point || (segments path).any fun segment => segment.contains point

/-- The point lies within a closed ring, by the parity of its crossings. -/
def withinRing (ring : List Point) (point : Point) : Bool :=
  ((segments ring).filter fun segment => segment.passesRightOf point).length % 2 == 1

end GeoTables.Plane
