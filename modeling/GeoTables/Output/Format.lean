import GeoTables.Text.Ascii

/-!
# Formats

Records are written in one of three formats.  A client names the format
without regard to letter case.
-/

namespace GeoTables

/-- The format of a response. -/
inductive Format where
  | json
  | geoJson
  | xml
  deriving DecidableEq, Repr

namespace Format

/-- All formats. -/
def all : List Format := [.json, .geoJson, .xml]

/-- The name of the format. -/
def name : Format → String
  | .json => "json"
  | .geoJson => "geojson"
  | .xml => "xml"

/-- The media type of the format. -/
def contentType : Format → String
  | .json => "application/json"
  | .geoJson => "application/geo+json"
  | .xml => "application/xml"

/-- The format that a text names. -/
def ofName? (text : String) : Option Format :=
  all.find? fun format => format.name == Text.lowerAscii text

end Format

end GeoTables
