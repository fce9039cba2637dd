import GeoTables.Json.Printing
import GeoTables.Text.Letter

/-!
# JSON values as XML

A field becomes an element named after it and an item of an array an element
`item`; scalars become character data and null nothing at all.  Names are made
valid by replacing what may not stand in the name of an element.
-/

namespace GeoTables.Xml

/-- The line at the start of a document. -/
def declaration : List Char :=
  "<?xml version=\"1.0\" encoding=\"UTF-8\" ?>".toList

/-- Character data for a character. -/
def escapeCharacter : Char → List Char
  | '&' => "&amp;".toList
  | '<' => "&lt;".toList
  | '>' => "&gt;".toList
  | '"' => "&quot;".toList
  | '\'' => "&apos;".toList
  | character => [character]

/-- Character data for a text. -/
def escape (text : String) : List Char :=
  text.toList.flatMap escapeCharacter

/-- A character of the name of an element, or an underscore in its place. -/
def nameCharacter (character : Char) : Char :=
  if Text.isLetterOrNumber character || character == '_' || character == '-'
      || character == '.' then
    character
  else
    '_'

/-- A character that may begin the name of an element. -/
def startsName (character : Char) : Bool :=
  Text.isLetter character || character == '_'

/-- The name of the element for a name. -/
def elementName (name : String) : List Char :=
  match name.toList.map nameCharacter with
  | [] => ['_']
  | first :: rest => if startsName first then first :: rest else '_' :: first :: rest

/-- An element with its content. -/
def element (name : String) (content : List Char) : List Char :=
  let tag := elementName name
  '<' :: tag ++ '>' :: content ++ '<' :: '/' :: tag ++ ['>']

mutual

/-- The content of the element for a value. -/
def content : Json → List Char
  | .null => []
  | .bool true => "true".toList
  | .bool false => "false".toList
  | .number number => number.characters
  | .string text => escape text
  | .array items => itemElements items
  | .object fields => fieldElements fields

/-- The elements of the items of an array. -/
def itemElements : List Json → List Char
  | [] => []
  | item :: rest => element "item" (content item) ++ itemElements rest

/-- The elements of the fields of an object. -/
def fieldElements : List (String × Json) → List Char
  | [] => []
  | (name, value) :: rest => element name (content value) ++ fieldElements rest

end

/-- A value as a document. -/
def document (value : Json) : List Char :=
  declaration ++ element "root" (content value)

end GeoTables.Xml
