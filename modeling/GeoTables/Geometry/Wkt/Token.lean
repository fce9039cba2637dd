import GeoTables.Number.Reading

/-!
# Tokens of well-known text

Well-known text consists of parentheses, commas, numbers and words, separated
by spaces, tabs and line ends.  A run of other characters is a number when it
starts with a digit, a sign or a point, and a word otherwise; it extends to
the next separator.  One leading plus sign of a number is dropped before the
number is read.

A NUL character stops whatever is being read at that place as the end of the
text would, without ending the text.
-/

namespace GeoTables.Wkt

/-- A token of well-known text. -/
inductive Token where
  | opening
  | closing
  | comma
  | word (name : List Char)
  | number (value : Binary64)
  | badNumber
  | stop
  deriving DecidableEq, Repr

/-- A character that separates tokens and is no token itself. -/
def isSpace (character : Char) : Bool :=
  character == ' ' || character == '\t' || character == '\n' || character == '\r'

/-- The token that a character is on its own. -/
def mark? : Char → Option Token
  | '(' => some .opening
  | ')' => some .closing
  | ',' => some .comma
  | '\x00' => some .stop
  | _ => none

/-- A character that starts a number. -/
def startsNumber (character : Char) : Bool :=
  character.isDigit || character == '.' || character == '-' || character == '+'

/-- The token of a run of characters that are neither separators nor marks. -/
def tokenOfRun : List Char → Option Token
  | [] => none
  | first :: rest =>
      if startsNumber first then
        match Binary64.ofText? (if first == '+' then rest else first :: rest) with
        | some value => some (.number value)
        | none => some .badNumber
      else
        some (.word (first :: rest))

/-- The tokens of a text, `run` being the unfinished run before it, reversed. -/
def tokensAfter (run : List Char) : List Char → List Token
  | [] => (tokenOfRun run.reverse).toList
  | character :: rest =>
      if isSpace character then
        (tokenOfRun run.reverse).toList ++ tokensAfter [] rest
      else
        match mark? character with
        | some token => (tokenOfRun run.reverse).toList ++ token :: tokensAfter [] rest
        | none => tokensAfter (character :: run) rest

/-- The tokens of a text. -/
def tokens (text : List Char) : List Token :=
  tokensAfter [] text

end GeoTables.Wkt
