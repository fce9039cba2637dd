/-!
# ASCII letter case

Operators of the type grammar, format names, directions and geometry tags are
matched without regard to the case of ASCII letters.  No other letter changes:
a dotless i or a long s never matches its ASCII look-alike.
-/

namespace GeoTables.Text

/-- A string with its ASCII letters in upper case. -/
def upperAscii (text : String) : String :=
  String.ofList (text.toList.map Char.toUpper)

/-- A string with its ASCII letters in lower case. -/
def lowerAscii (text : String) : String :=
  String.ofList (text.toList.map Char.toLower)

end GeoTables.Text
