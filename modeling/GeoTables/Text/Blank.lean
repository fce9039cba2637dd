/-!
# Blank characters

Names, type texts, operands and well-known text are read after their outer
blanks are dropped.  A character is blank when it has the Unicode property
`White_Space`; this set is larger than the ASCII one and holds, for instance,
the no-break space and the line separator.

All operations work on the list of characters of a text, the form in which
they are reasoned about, with a thin form on `String` beside them.
-/

namespace GeoTables.Text

/-- A character with the Unicode property `White_Space`. -/
def isBlank (character : Char) : Bool :=
  let code := character.toNat
  (9 ≤ code && code ≤ 13) || code == 0x20 || code == 0x85 || code == 0xA0 ||
    code == 0x1680 || (0x2000 ≤ code && code ≤ 0x200A) || code == 0x2028 ||
    code == 0x2029 || code == 0x202F || code == 0x205F || code == 0x3000

/-- The text without its leading blanks. -/
def trimLeft (characters : List Char) : List Char :=
  characters.dropWhile isBlank

/-- The text without its trailing blanks. -/
def trimRight : List Char → List Char
  | [] => []
  | character :: rest =>
      match trimRight rest with
      | [] => if isBlank character then [] else [character]
      | kept => character :: kept

/-- The text without its outer blanks. -/
def trim (characters : List Char) : List Char :=
  trimRight (trimLeft characters)

/-- The maximal runs of characters that are not blank, in order. -/
def words (characters : List Char) : List (List Char) :=
  (characters.splitOnP isBlank).filter fun word => !word.isEmpty

/-- A string without its outer blanks. -/
def trimmed (text : String) : String :=
  String.ofList (trim text.toList)

@[simp]
theorem trimRight_nil : trimRight [] = [] := rfl

@[simp]
theorem trim_nil : trim [] = [] := rfl

/-- Trimming on the right stops at the last character that is not blank. -/
theorem trimRight_append_of_not_blank
    (characters : List Char)
    (last : Char)
    (visible : isBlank last = false) :
    trimRight (characters ++ [last]) = characters ++ [last] := by
  induction characters with
  | nil => simp [trimRight, visible]
  | cons character rest ih =>
      rw [List.cons_append, trimRight, ih]
      cases rest <;> rfl

end GeoTables.Text
