import GeoTables.Geometry.Basic
import GeoTables.Number.Shortest

/-!
# Writing well-known text

Coordinates are written with their fewest digits and never with an exponent,
and nothing but a comma stands between items.  An empty geometry is written
with the word `EMPTY`, an empty member of a list as a pair of parentheses.
Segments, rectangles and triangles are written as the lines and areas they
are.
-/

namespace GeoTables

/-- Texts with commas between them. -/
def commaSeparated : List (List Char) → List Char
  | [] => []
  | [text] => text
  | text :: rest => text ++ ',' :: commaSeparated rest

/-- A text in parentheses. -/
def parenthesized (text : List Char) : List Char :=
  '(' :: text ++ [')']

/-- A position, its ordinates separated by a space. -/
def Coordinate.wkt (position : Coordinate) : List Char :=
  position.x.plainText ++ ' ' :: position.y.plainText

/-- The positions of a line. -/
def Path.wkt (path : Path) : List Char :=
  parenthesized (commaSeparated (path.map Coordinate.wkt))

/-- The rings of an area. -/
def Polygon.wkt (area : Polygon) : List Char :=
  parenthesized (commaSeparated ((area.exterior :: area.interiors).map Path.wkt))

namespace Geometry

/-- A tag and a body, or the word for an empty geometry. -/
def tagged (tag : String) (empty : Bool) (body : List Char) : List Char :=
  tag.toList ++ if empty then " EMPTY".toList else body

/-- A tag and a list of items in parentheses. -/
def taggedItems (tag : String) (items : List (List Char)) : List Char :=
  tagged tag items.isEmpty (parenthesized (commaSeparated items))

/-- An area with its tag. -/
def areaWkt (area : Polygon) : List Char :=
  tagged "POLYGON" area.exterior.isEmpty area.wkt

mutual

/-- The well-known text of a geometry. -/
def wktCharacters : Geometry → List Char
  | .point position => tagged "POINT" false (parenthesized position.wkt)
  | .segment start stop => tagged "LINESTRING" false (Path.wkt [start, stop])
  | .lineString path => tagged "LINESTRING" path.isEmpty (Path.wkt path)
  | .polygon area => areaWkt area
  | .multiPoint positions =>
      taggedItems "MULTIPOINT" (positions.map fun position => parenthesized position.wkt)
  | .multiLineString paths => taggedItems "MULTILINESTRING" (paths.map Path.wkt)
  | .multiPolygon areas => taggedItems "MULTIPOLYGON" (areas.map Polygon.wkt)
  | .collection members => taggedItems "GEOMETRYCOLLECTION" (memberWkt members)
  | .rectangle low high => areaWkt ⟨Path.aroundRectangle low high, []⟩
  | .triangle first second third =>
      areaWkt ⟨Path.aroundTriangle first second third, []⟩

/-- The well-known texts of the members of a collection. -/
def memberWkt : List Geometry → List (List Char)
  | [] => []
  | member :: rest => wktCharacters member :: memberWkt rest

end

/-- The well-known text of a geometry. -/
def wkt (geometry : Geometry) : String :=
  String.ofList geometry.wktCharacters

end Geometry

end GeoTables
