import GeoTables.Geometry.Wkt.Token
import GeoTables.Geometry.Basic
import GeoTables.Text.Blank

/-!
# Reading well-known text

A geometry is written as the name of its type, optionally a layout word for
further ordinates, and either the word `EMPTY` or a body in parentheses.
Further ordinates are read and dropped.  Whatever goes wrong inside a body,
the parenthesis that should close it is looked for at the place where reading
stopped, and if it is missing there this is the fault that is reported.

In front of the geometry a spatial reference may be declared, as in
`SRID=2056;POINT(1 2)`.  What follows the geometry is ignored.
-/

namespace GeoTables.Wkt

/-- Why a text is not a geometry. -/
inductive Fault where
  | notAWord
  | notAscii
  | unknownType
  | unexpectedWord
  | noDimension
  | missingOpening
  | missingClosing
  | badNumber
  | missingOrdinate (name : Char)
  | missingMember
  | missingSemicolon (text : String)
  | badReference (text : String)
  deriving DecidableEq, Repr

/-- The wording of a fault. -/
def Fault.message : Fault → String
  | .notAWord => "Invalid WKT: Invalid WKT format"
  | .notAscii => "Invalid WKT: Encountered non-ascii word"
  | .unknownType => "Invalid WKT: Invalid type encountered"
  | .unexpectedWord => "Invalid WKT: Unexpected word before open paren"
  | .noDimension => "Invalid WKT: End of stream"
  | .missingOpening => "Invalid WKT: Missing open parenthesis for type"
  | .missingClosing => "Invalid WKT: Missing closing parenthesis for type"
  | .badNumber => "Invalid WKT: Unable to parse input number as the desired output type"
  | .missingOrdinate name =>
      "Invalid WKT: Expected a number for the " ++ name.toString ++ " coordinate"
  | .missingMember => "Invalid WKT: Expected a word in GEOMETRYCOLLECTION"
  | .missingSemicolon text => "missing ';' after SRID in " ++ text
  | .badReference text => "invalid SRID " ++ text

/-- A step that takes tokens; the tokens left are known after a fault too. -/
abbrev Reader := ExceptT Fault (StateM (List Token))

/-- Take the next token, if there is one. -/
def next : Reader (Option Token) := do
  match ← get with
  | [] => return none
  | token :: rest =>
      set rest
      match token with
      | .badNumber => throw .badNumber
      | .stop => return none
      | _ => return some token

/-- The next token, which stays where it is. -/
def peek : Reader (Option Token) :=
  return (← get).head?

/-- The next token is the given one. -/
def nextIs (token : Token) : Reader Bool :=
  return (← peek) == some token

/-- A word without regard to letter case. -/
def isWord (expected : String) (name : List Char) : Bool :=
  name.map Char.toUpper == expected.toList

/-- The names of the ordinates that follow `X` and `Y`. -/
abbrev Layout := List Char

/-- Layouts by the word that declares them. -/
def layouts : List (String × Layout) :=
  [("Z", ['Z']), ("M", ['M']), ("ZM", ['Z', 'M'])]

/-- The layout declared by the next word, if it declares one. -/
def layoutWord : Reader Layout := do
  match ← peek with
  | some (.word name) =>
      match layouts.find? fun layout => isWord layout.1 name with
      | some layout =>
          let _ ← next
          return layout.2
      | none => if isWord "EMPTY" name then return [] else throw .unexpectedWord
  | none | some .badNumber | some .stop => throw .noDimension
  | some _ => return []

/--
A body in parentheses, or `EMPTY` for the given value.  The closing
parenthesis is required where the body stopped, whether it failed or not.
-/
def enclosed {α : Type} (empty : α) (body : Reader α) : Reader α := do
  match ← next with
  | some .opening =>
      let (result, rest) := (body.run).run (← get)
      set rest
      match ← next with
      | some .closing =>
          match result with
          | .ok value => return value
          | .error fault => throw fault
      | _ => throw .missingClosing
  | some (.word name) =>
      if isWord "EMPTY" name then return empty else throw .missingOpening
  | _ => throw .missingOpening

/-- A number, for the ordinate of the given name. -/
def ordinate (name : Char) : Reader Binary64 := do
  match ← next with
  | some (.number value) => return value
  | _ => throw (.missingOrdinate name)

/-- A position with the ordinates of the layout, of which two are kept. -/
def position (layout : Layout) : Reader Coordinate := do
  let x ← ordinate 'X'
  let y ← ordinate 'Y'
  for name in layout do
    let _ ← ordinate name
  return ⟨x, y⟩

/-- Items with commas between them, at most `bound + 1` of them. -/
def separated {α : Type} (item : Reader α) (bound : Nat) : Reader (List α) := do
  let first ← item
  match bound with
  | 0 => return [first]
  | bound + 1 =>
      if ← nextIs .comma then
        let _ ← next
        return first :: (← separated item bound)
      else
        return [first]

/-- Items with commas between them. -/
def items {α : Type} (item : Reader α) : Reader (List α) := do
  separated item (← get).length

/-- The positions of a line in parentheses. -/
def path (layout : Layout) : Reader Path :=
  enclosed [] (items (position layout))

/-- The rings of an area in parentheses. -/
def area (layout : Layout) : Reader Polygon := do
  match ← enclosed [] (items (path layout)) with
  | [] => return ⟨[], []⟩
  | exterior :: interiors => return Polygon.ofRings exterior interiors

/-- A position whose parentheses may be left out. -/
def loosePosition (layout : Layout) : Reader (Option Coordinate) := do
  if ← nextIs .opening then
    enclosed none (some <$> position layout)
  else
    some <$> position layout

/-- The types of geometry that a word names. -/
inductive Tag where
  | point
  | lineString
  | polygon
  | multiPoint
  | multiLineString
  | multiPolygon
  | collection
  deriving DecidableEq, Repr

/-- The types by their names, to which a layout may be attached. -/
def tags : List (String × Tag) :=
  [("POINT", .point), ("LINESTRING", .lineString), ("POLYGON", .polygon),
    ("MULTIPOINT", .multiPoint), ("MULTILINESTRING", .multiLineString),
    ("MULTIPOLYGON", .multiPolygon), ("GEOMETRYCOLLECTION", .collection)]

/-- The type that a word names, and the layout if the word includes one. -/
def tag? (name : List Char) : Option (Tag × Option Layout) :=
  if isWord "LINEARRING" name then
    some (.lineString, none)
  else
    tags.findSome? fun (base, tag) =>
      if isWord base name then
        some (tag, none)
      else
        layouts.findSome? fun (suffix, layout) =>
          if isWord (base ++ suffix) name then some (tag, some layout) else none

/--
A geometry after the word for its type.  Collections nest at most `depth`
deep.
-/
def geometryAfter (depth : Nat) (name : List Char) : Reader Geometry := do
  match tag? name with
  | none => throw .unknownType
  | some (tag, attached) =>
      let layout ←
        match attached with
        | some layout => pure layout
        | none => layoutWord
      match tag with
      | .point =>
          match ← enclosed none (some <$> position layout) with
          | some found => return .point found
          | none => return .multiPoint []
      | .lineString => return .lineString (← path layout)
      | .polygon => return .polygon (← area layout)
      | .multiPoint =>
          let found ← enclosed [] (items (loosePosition layout))
          return .multiPoint (found.filterMap id)
      | .multiLineString =>
          return .multiLineString (← enclosed [] (items (path layout)))
      | .multiPolygon =>
          return .multiPolygon (← enclosed [] (items (area layout)))
      | .collection =>
          match depth with
          | 0 => throw .unknownType
          | depth + 1 =>
              let member : Reader Geometry := do
                match ← next with
                | some (.word inner) => geometryAfter depth inner
                | _ => throw .missingMember
              return .collection (← enclosed [] (items member))

/-- The geometry at the start of a list of tokens. -/
def geometry : Reader Geometry := do
  match ← next with
  | some (.word name) =>
      if name.all fun character => character.toNat < 128 then
        geometryAfter (← get).length name
      else
        throw .notAscii
  | _ => throw .notAWord

end GeoTables.Wkt

namespace GeoTables

/-- A geometry with the spatial reference that its text declares. -/
structure LocatedGeometry where
  geometry : Geometry
  srid : Option Int

namespace LocatedGeometry

open Wkt

/--
The spatial reference declared at the start of a text, and the text of the
geometry.
-/
def splitReference (text : String) : Except Fault (Option Int × List Char) :=
  let trimmed := Text.trim text.toList
  if isWord "SRID=" (trimmed.take 5) then
    let rest := trimmed.drop 5
    match rest.dropWhile (· != ';') with
    | [] => .error (.missingSemicolon text)
    | _ :: body =>
        let reference := rest.takeWhile (· != ';')
        match Text.signedWithin? 32 (Text.trim reference) with
        | some srid => .ok (some srid, Text.trim body)
        | none => .error (.badReference (String.ofList reference))
  else
    .ok (none, trimmed)

/-- Read a geometry with an optional spatial reference. -/
def ofText (text : String) : Except Fault LocatedGeometry := do
  let (srid, body) ← splitReference text
  let read := (Wkt.geometry.run).run (tokens body)
  return ⟨← read.1, srid⟩

end LocatedGeometry

end GeoTables
