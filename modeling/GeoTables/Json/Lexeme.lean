import GeoTables.Json.Number

/-!
# Lexemes of JSON texts

A text is scanned character by character.  The scanner keeps the lexemes found
so far and what it is in the middle of: a word, a number or a string.  Scanning
is a left fold over the characters, so scanning a text in two parts is the same
as scanning it in one.

Strings are scanned for their shape only.  An escaped UTF-16 unit is kept as a
number, because whether it belongs to a pair is known only later.
-/

namespace GeoTables.Json

/-- A character of a string, or a UTF-16 unit given by its number. -/
inductive StringUnit where
  | plain (character : Char)
  | escaped (unit : Nat)
  deriving DecidableEq, Repr

/-- The content of a string before pairs of units are joined. -/
abbrev StringText := List StringUnit

/-- A lexeme of a JSON text. -/
inductive Lexeme where
  | openArray
  | closeArray
  | openObject
  | closeObject
  | comma
  | colon
  | null
  | bool (value : Bool)
  | number (text : NumberText)
  | string (text : StringText)
  deriving DecidableEq, Repr

/-- What the scanner is in the middle of; runs are reversed. -/
inductive ScanMode where
  | between
  | word (run : List Char)
  | number (run : List Char)
  | string (units : StringText)
  | escape (units : StringText)
  | hex (units : StringText) (unit left : Nat)
  deriving DecidableEq, Repr

/-- The state of the scanner; lexemes are reversed. -/
structure Scan where
  lexemes : List Lexeme
  mode : ScanMode
  deriving DecidableEq, Repr

namespace Scan

/-- Nothing has been scanned. -/
def start : Scan := ⟨[], .between⟩

/-- The characters that separate lexemes. -/
def isSpace (character : Char) : Bool :=
  character == ' ' || character == '\t' || character == '\n' || character == '\r'

/-- The characters that a number may hold after its first one. -/
def continuesNumber (character : Char) : Bool :=
  character.isDigit || character == '.' || character == '-' || character == '+' ||
    character == 'e' || character == 'E'

/-- The lexeme that a character is on its own. -/
def mark? : Char → Option Lexeme
  | '[' => some .openArray
  | ']' => some .closeArray
  | '\x7b' => some .openObject
  | '\x7d' => some .closeObject
  | ',' => some .comma
  | ':' => some .colon
  | _ => none

/-- The lexeme of a word. -/
def wordLexeme? (run : List Char) : Option Lexeme :=
  if run = "null".toList then
    some .null
  else if run = "true".toList then
    some (.bool true)
  else if run = "false".toList then
    some (.bool false)
  else
    none

/-- The character that a letter after a backslash stands for. -/
def escapedCharacter? : Char → Option Char
  | '"' => some '"'
  | '\\' => some '\\'
  | '/' => some '/'
  | 'b' => some '\x08'
  | 'f' => some '\x0c'
  | 'n' => some '\n'
  | 'r' => some '\r'
  | 't' => some '\t'
  | _ => none

/-- The value of a hexadecimal digit. -/
def hexValue? (digit : Char) : Option Nat :=
  let code := digit.toNat
  if digit.isDigit then
    some (code - 48)
  else if 97 ≤ code && code ≤ 102 then
    some (code - 87)
  else if 65 ≤ code && code ≤ 70 then
    some (code - 55)
  else
    none

/-- End the word or number that the scanner is in, if it is in one. -/
def flush (scan : Scan) : Option Scan :=
  match scan.mode with
  | .word run => do return ⟨(← wordLexeme? run.reverse) :: scan.lexemes, .between⟩
  | .number run => do
      return ⟨.number (← NumberText.ofRun? run.reverse) :: scan.lexemes, .between⟩
  | _ => some scan

/-- Take a character that stands between lexemes or begins one. -/
def begin (lexemes : List Lexeme) (character : Char) : Option Scan :=
  if isSpace character then
    some ⟨lexemes, .between⟩
  else if character == '"' then
    some ⟨lexemes, .string []⟩
  else if character.isDigit || character == '-' then
    some ⟨lexemes, .number [character]⟩
  else if character.isAlpha then
    some ⟨lexemes, .word [character]⟩
  else
    (mark? character).map fun lexeme => ⟨lexeme :: lexemes, .between⟩

/-- Take one character. -/
def step (scan : Scan) (character : Char) : Option Scan :=
  match scan.mode with
  | .between => begin scan.lexemes character
  | .word run =>
      if character.isAlpha then
        some { scan with mode := .word (character :: run) }
      else do
        begin (← scan.flush).lexemes character
  | .number run =>
      if continuesNumber character then
        some { scan with mode := .number (character :: run) }
      else do
        begin (← scan.flush).lexemes character
  | .string units =>
      if character == '"' then
        some ⟨.string units.reverse :: scan.lexemes, .between⟩
      else if character == '\\' then
        some { scan with mode := .escape units }
      else if character.toNat < 0x20 then
        none
      else
        some { scan with mode := .string (.plain character :: units) }
  | .escape units =>
      if character == 'u' then
        some { scan with mode := .hex units 0 4 }
      else do
        let plain ← escapedCharacter? character
        return { scan with mode := .string (.plain plain :: units) }
  | .hex units unit left => do
      let unit := 16 * unit + (← hexValue? character)
      if left ≤ 1 then
        return { scan with mode := .string (.escaped unit :: units) }
      else
        return { scan with mode := .hex units unit (left - 1) }

/-- The lexemes of a scan that is in the middle of nothing. -/
def finish (scan : Scan) : Option (List Lexeme) := do
  let ended ← scan.flush
  match ended.mode with
  | .between => return ended.lexemes.reverse
  | _ => none

end Scan

/-- The lexemes of a text. -/
def lexemes? (text : List Char) : Option (List Lexeme) := do
  (← text.foldlM Scan.step Scan.start).finish

end GeoTables.Json
