import GeoTables.Json.Number

/-!
# Writing JSON

Values are written without blanks.  In strings only quotes, backslashes and
the control characters below the space are escaped; every other character
stands for itself.
-/

namespace GeoTables.Json

/-- A hexadecimal digit in lower case. -/
def hexDigit (value : Nat) : Char :=
  Char.ofNat (if value < 10 then value + 48 else value + 87)

/-- A character of a string as it is written. -/
def escapeCharacter (character : Char) : List Char :=
  match character with
  | '"' => ['\\', '"']
  | '\\' => ['\\', '\\']
  | '\x08' => ['\\', 'b']
  | '\x0c' => ['\\', 'f']
  | '\n' => ['\\', 'n']
  | '\r' => ['\\', 'r']
  | '\t' => ['\\', 't']
  | character =>
      let code := character.toNat
      if code < 0x20 then
        ['\\', 'u', '0', '0', hexDigit (code / 16), hexDigit (code % 16)]
      else
        [character]

/-- A string in quotes. -/
def quoted (text : String) : List Char :=
  '"' :: text.toList.flatMap escapeCharacter ++ ['"']

/-- Written items with commas between them. -/
def joined : List (List Char) → List Char
  | [] => []
  | [item] => item
  | item :: rest => item ++ ',' :: joined rest

/-- A written name with its written value. -/
def entry (name : String) (value : List Char) : List Char :=
  quoted name ++ ':' :: value

/-- Written items as an array. -/
def arrayOf (items : List (List Char)) : List Char :=
  '[' :: joined items ++ [']']

/-- Written entries as an object. -/
def objectOf (entries : List (List Char)) : List Char :=
  '\x7b' :: joined entries ++ ['\x7d']

mutual

/-- The text of a value. -/
def characters : Json → List Char
  | .null => "null".toList
  | .bool value => (if value then "true" else "false").toList
  | .number value => value.characters
  | .string text => quoted text
  | .array items => arrayOf (itemTexts items)
  | .object fields => objectOf (fieldTexts fields)

/-- The texts of the items of an array. -/
def itemTexts : List Json → List (List Char)
  | [] => []
  | item :: rest => characters item :: itemTexts rest

/-- The texts of the fields of an object. -/
def fieldTexts : List (String × Json) → List (List Char)
  | [] => []
  | (name, value) :: rest => entry name (characters value) :: fieldTexts rest

end

/-- The text of a value as a string. -/
def text (value : Json) : String :=
  String.ofList value.characters

end GeoTables.Json
