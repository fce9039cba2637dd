import GeoTables.Json.Printing

/-!
# Documents

A document is what is to be written as JSON.  Its records keep their entries
in the order in which they are to be written, and nothing keeps a name from
being repeated.  The value of a document is what a reader of the text has at
the end: entries in the order of their names, of repeated ones the last.
-/

namespace GeoTables.Json

/-- A JSON document in the order in which it is written. -/
inductive Document where
  | value (json : Json)
  | list (items : List Document)
  | record (entries : List (String × Document))

namespace Document

instance : Inhabited Document := ⟨.value .null⟩

/-- The document of a string. -/
def ofString (text : String) : Document := .value (.string text)

/-- The document of a string, null if there is none. -/
def ofString? (text : Option String) : Document := .value (Json.ofString? text)

/-- The document of a truth value. -/
def ofBool (truth : Bool) : Document := .value (.bool truth)

/-- The document of an integer. -/
def ofInt (number : Int) : Document := .value (Json.ofInt number)

/-- The document of an integer, null if there is none. -/
def ofInt? (number : Option Int) : Document :=
  .value ((number.map Json.ofInt).getD .null)

/-- The document of a number of things. -/
def ofNat (number : Nat) : Document := ofInt number

/-- The document of a list of strings. -/
def ofStrings (texts : List String) : Document := .list (texts.map ofString)

mutual

/-- The text of a document. -/
def characters : Document → List Char
  | .value json => json.characters
  | .list items => arrayOf (listCharacters items)
  | .record entries => objectOf (entryCharacters entries)

/-- The texts of a list of documents. -/
def listCharacters : List Document → List (List Char)
  | [] => []
  | item :: rest => characters item :: listCharacters rest

/-- The texts of the entries of a record. -/
def entryCharacters : List (String × Document) → List (List Char)
  | [] => []
  | (name, document) :: rest => entry name (characters document) :: entryCharacters rest

end

/-- The text of a document as a string. -/
def text (document : Document) : String :=
  String.ofList document.characters

mutual

/-- The value of a document. -/
def toJson : Document → Json
  | .value json => json
  | .list items => .array (listValues items)
  | .record entries => ofFields (entryValues entries)

/-- The values of a list of documents. -/
def listValues : List Document → List Json
  | [] => []
  | item :: rest => toJson item :: listValues rest

/-- The values of the entries of a record. -/
def entryValues : List (String × Document) → List (String × Json)
  | [] => []
  | (name, document) :: rest => (name, toJson document) :: entryValues rest

end

end Document

end GeoTables.Json
