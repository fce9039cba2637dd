import GeoTables.Output.Format
import GeoTables.Output.Value
import GeoTables.Output.Xml
import GeoTables.Json.Document

/-!
# Writing records

A format lays records out between an opening and a closing, with a separator
between them.  Records are written one by one; before each of them the writer
looks whether the work has been cancelled, and it fails when its outlet is
full.
-/

namespace GeoTables

/-- How records are laid out in a format. -/
structure Layout where
  opening : List Char
  separator : List Char
  closing : List Char
  item : Record → Except Failure (List Char)
  /-- The failure of an outlet that is full within a record. -/
  itemFailure : String → Failure

namespace Layout

/-- An array of objects, one for each record. -/
def plain (table : Table) : Layout where
  opening := ['[']
  separator := [',']
  closing := [']']
  item := fun record => do
    let fields ← record.formatted table table.columns
    return Json.objectOf (fields.map fun field => Json.entry field.1 field.2.characters)
  itemFailure := .unwritable

/-- The geometry of the feature for a record. -/
def featureGeometry (table : Table) (record : Record) : Except Failure Json :=
  match table.firstGeometry? with
  | none => .ok .null
  | some column =>
      ((record.get column.name).geometryObject column.name).mapError
        (Failure.onRecord (record.keyText? table))

/-- The feature for a record. -/
def feature (table : Table) (record : Record) : Except Failure (List Char) := do
  let geometry ← featureGeometry table record
  let columns := table.columns.filter fun column => !column.isGeometry
  let properties ← record.formatted table columns
  return Json.objectOf [
    Json.entry "type" (Json.quoted "Feature"),
    Json.entry "geometry" geometry.characters,
    Json.entry "properties"
      (Json.objectOf (properties.map fun field => Json.entry field.1 field.2.characters))]

/-- A collection of features, one for each record. -/
def features (table : Table) : Layout where
  opening := "\x7b\"type\":\"FeatureCollection\",\"features\":[".toList
  separator := [',']
  closing := [']', '\x7d']
  item := feature table
  itemFailure := .unwritable

/-- An element with one item for each record. -/
def xml (table : Table) : Layout where
  opening := Xml.declaration ++ "<root>".toList
  separator := []
  closing := "</root>".toList
  item := fun record => do
    let fields ← record.formatted table table.columns
    return "<item>".toList ++ Xml.fieldElements fields ++ "</item>".toList
  itemFailure := .write

/-- The layout of a format. -/
def ofFormat (table : Table) : Format → Layout
  | .json => plain table
  | .geoJson => features table
  | .xml => xml table

end Layout

/-- Where records are written to, and who may cancel the work. -/
structure Outlet where
  /-- The number of bytes that fit, if there is a bound. -/
  capacity : Option Nat
  /-- The reason that is given when no more fits. -/
  fullReason : String
  /-- The work is seen cancelled after a number of records and bytes. -/
  isCancelled : Nat → Nat → Bool

namespace Outlet

/-- An outlet without a bound, whose work is never cancelled. -/
def unbounded : Outlet where
  capacity := none
  fullReason := ""
  isCancelled := fun _ _ => false

/-- So many bytes fit. -/
def fits (outlet : Outlet) (size : Nat) : Bool :=
  match outlet.capacity with
  | some capacity => size ≤ capacity
  | none => true

end Outlet

/-- The number of bytes of a text. -/
def Text.byteSize (characters : List Char) : Nat :=
  characters.foldr (fun character size => character.utf8Size + size) 0

/-- What has been written, as a list of pieces from the last to the first. -/
structure Written where
  pieces : List (List Char)
  size : Nat

namespace Written

/-- Nothing has been written. -/
def nothing : Written := ⟨[], 0⟩

/-- All that has been written. -/
def characters (written : Written) : List Char :=
  written.pieces.reverse.flatten

/-- Add a piece. -/
def add (written : Written) (piece : List Char) : Written :=
  ⟨piece :: written.pieces, written.size + Text.byteSize piece⟩

end Written

/-- A step of writing; what has been written is known after a failure too. -/
abbrev Writing := ExceptT Failure (StateM Written)

namespace Writing

/-- Write a piece, or fail because it does not fit. -/
def write
    (outlet : Outlet)
    (failure : String → Failure)
    (piece : List Char) :
    Writing Unit := do
  let written := (← get).add piece
  if outlet.fits written.size then set written else throw (failure outlet.fullReason)

/-- Write records after `index` other ones. -/
def writeRecords (outlet : Outlet) (layout : Layout) (index : Nat) : List Record → Writing Unit
  | [] => pure ()
  | record :: rest => do
      if outlet.isCancelled index (← get).size then throw .cancelled
      if index > 0 then write outlet .write layout.separator
      match layout.item record with
      | .ok text => write outlet layout.itemFailure text
      | .error failure => throw failure
      writeRecords outlet layout (index + 1) rest

/-- Write records as a whole. -/
def writeAll (outlet : Outlet) (layout : Layout) (records : List Record) : Writing Unit := do
  write outlet .write layout.opening
  writeRecords outlet layout 0 records
  write outlet .write layout.closing

end Writing

/-- Write records in a format; the result tells what was written and whether it is all. -/
def writeRecords
    (outlet : Outlet)
    (table : Table)
    (format : Format)
    (records : List Record) :
    Except Failure Unit × List Char :=
  let (outcome, written) :=
    ((Writing.writeAll outlet (Layout.ofFormat table format) records).run).run .nothing
  (outcome, written.characters)

/-- The text of records in a format. -/
def serialize
    (table : Table)
    (format : Format)
    (records : List Record) :
    Except Failure (List Char) :=
  match writeRecords .unbounded table format records with
  | (.ok (), text) => .ok text
  | (.error failure, _) => .error failure

/-- The description of a table in a format; there is none as features. -/
def serializeTable (table : Table) : Format → Except Failure (List Char)
  | .json => .ok table.document.characters
  | .xml => .ok (Xml.document table.document.toJson)
  | .geoJson => .error (.unknownFormat Format.geoJson.name)

/-- The text of a number of records. -/
def serializeCount (count : Nat) : List Char :=
  Json.objectOf [Json.entry "count" (Text.natDigits count)]

end GeoTables
