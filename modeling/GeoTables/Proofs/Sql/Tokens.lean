import GeoTables.Predicate.Sql
import GeoTables.Proofs.Text.Numeral
import Mathlib.Tactic.SplitIfs

/-!
# Tokens of SQL texts

A text in SQL is read character by character.  A double quote opens an
identifier, which the next quote closes unless a second one follows at once;
such a pair stands for one quote within the identifier.  A dollar sign starts a
placeholder, which takes in the digits that follow.  Every other character is a
token of its own.

Identifiers and placeholders end only with the character after them, so pieces
of a text can be read one by one if each starts with a character that ends the
piece before it.
-/

namespace GeoTables.Sql

/-- A token of a text. -/
inductive Token where
  | identifier (name : String)
  | placeholder (digits : List Char)
  | other (character : Char)
  deriving DecidableEq, Repr

/-- What a reader is in the middle of. -/
inductive Mode where
  | outside
  | counting (digits : List Char)
  | quoted (name : List Char)
  | closing (name : List Char)
  deriving DecidableEq, Repr

/-- The tokens that were read so far, and what the reader is in the middle of. -/
structure Reader where
  found : List Token
  mode : Mode
  deriving DecidableEq, Repr

namespace Reader

/-- The tokens if the text ends here; a text may not end within an identifier. -/
def finish? (reader : Reader) : Option (List Token) :=
  match reader.mode with
  | .outside => some reader.found
  | .counting digits => some (reader.found ++ [.placeholder digits])
  | .closing name => some (reader.found ++ [.identifier (String.ofList name)])
  | .quoted _ => none

/-- Read a character that belongs to no token before it. -/
def start (found : List Token) (character : Char) : Reader :=
  if character = '"' then
    ⟨found, .quoted []⟩
  else if character = '$' then
    ⟨found, .counting []⟩
  else
    ⟨found ++ [.other character], .outside⟩

/-- Read the next character. -/
def step (reader : Reader) (character : Char) : Reader :=
  match reader.mode with
  | .outside => start reader.found character
  | .counting digits =>
      if character.isDigit then
        { reader with mode := .counting (digits ++ [character]) }
      else
        start (reader.found ++ [.placeholder digits]) character
  | .quoted name =>
      if character = '"' then
        { reader with mode := .closing name }
      else
        { reader with mode := .quoted (name ++ [character]) }
  | .closing name =>
      if character = '"' then
        { reader with mode := .quoted (name ++ ['"']) }
      else
        start (reader.found ++ [.identifier (String.ofList name)]) character

/-- Read a text. -/
def read (reader : Reader) (text : List Char) : Reader :=
  text.foldl step reader

@[simp]
theorem read_nil (reader : Reader) : reader.read [] = reader := rfl

@[simp]
theorem read_cons
    (reader : Reader)
    (character : Char)
    (rest : List Char) :
    reader.read (character :: rest) = (reader.step character).read rest := rfl

theorem read_append
    (reader : Reader)
    (left right : List Char) :
    reader.read (left ++ right) = (reader.read left).read right :=
  List.foldl_append

end Reader

/-- The tokens of a text, if every identifier is closed. -/
def tokens? (text : List Char) : Option (List Token) :=
  (Reader.read ⟨[], .outside⟩ text).finish?

/-- The placeholders among tokens, each by its digits. -/
def placeholdersIn (tokens : List Token) : List (List Char) :=
  tokens.filterMap fun
    | .placeholder digits => some digits
    | _ => none

/-- The names of the identifiers among tokens. -/
def identifiersIn (tokens : List Token) : List String :=
  tokens.filterMap fun
    | .identifier name => some name
    | _ => none

/-! ## Pieces of a text -/

/-- The character ends any token before it. -/
def Separates (character : Char) : Prop :=
  character ≠ '"' ∧ character.isDigit = false

instance (character : Char) : Decidable (Separates character) :=
  inferInstanceAs (Decidable (_ ∧ _))

/-- The character is a token of its own outside of identifiers and placeholders. -/
def IsPlain (character : Char) : Prop :=
  character ≠ '"' ∧ character ≠ '$'

instance (character : Char) : Decidable (IsPlain character) :=
  inferInstanceAs (Decidable (_ ∧ _))

/-- All characters of the text are plain. -/
def IsPlainText (text : List Char) : Prop :=
  ∀ character ∈ text, IsPlain character

-- The characters of the text are looked at, not all characters there are.
instance (text : List Char) : Decidable (IsPlainText text) :=
  List.decidableBAll IsPlain text

/-- A separator is read as if the tokens before it were complete. -/
theorem Reader.step_of_separates
    {reader : Reader}
    {found : List Token}
    (complete : reader.finish? = some found)
    {character : Char}
    (separates : Separates character) :
    reader.step character = Reader.step ⟨found, .outside⟩ character := by
  obtain ⟨before, mode⟩ := reader
  obtain ⟨notQuote, notDigit⟩ := separates
  cases mode with
  | quoted name => cases complete
  | outside | counting digits | closing name =>
      obtain rfl := Option.some.inj complete
      simp [step, notQuote, notDigit]

/-- Behind any tokens, the text is read as these ones. -/
def Reads (text : List Char) (tokens : List Token) : Prop :=
  ∀ found, (Reader.read ⟨found, .outside⟩ text).finish? = some (found ++ tokens)

namespace Reads

theorem tokens?_eq
    {text : List Char}
    {tokens : List Token}
    (reads : Reads text tokens) :
    tokens? text = some tokens :=
  reads []

theorem nil : Reads [] [] := by
  intro found
  rw [List.append_nil]
  rfl

/-- Two pieces, the second of which starts with a separator. -/
theorem append
    {left rest : List Char}
    {first second : List Token}
    {character : Char}
    (readsLeft : Reads left first)
    (separates : Separates character)
    (readsRight : Reads (character :: rest) second) :
    Reads (left ++ character :: rest) (first ++ second) := by
  intro found
  have complete := readsLeft found
  have next := readsRight (found ++ first)
  rw [Reader.read_cons] at next
  rw [Reader.read_append, Reader.read_cons, Reader.step_of_separates complete separates, next,
    List.append_assoc]

/-- Plain characters in front of a piece. -/
theorem plain
    {text rest : List Char}
    {tokens : List Token}
    (each : IsPlainText text)
    (reads : Reads rest tokens) :
    Reads (text ++ rest) (text.map .other ++ tokens) := by
  induction text with
  | nil => exact reads
  | cons character text induction =>
      obtain ⟨⟨notQuote, notDollar⟩, others⟩ := List.forall_mem_cons.mp each
      intro found
      have further := induction others (found ++ [.other character])
      rw [List.cons_append, Reader.read_cons]
      simp only [Reader.step, Reader.start, notQuote, notDollar, if_false]
      rw [further]
      simp

end Reads

/-! ## Identifiers and placeholders -/

/-- The characters of a name within quotes. -/
theorem Reader.read_doubled
    (found : List Token)
    (before name : List Char) :
    Reader.read ⟨found, .quoted before⟩
        (name.flatMap fun character =>
          if character = '"' then ['"', '"'] else [character]) =
      ⟨found, .quoted (before ++ name)⟩ := by
  induction name generalizing before with
  | nil => simp
  | cons character name induction =>
      rw [List.flatMap_cons, read_append]
      by_cases isQuote : character = '"'
      · subst isQuote
        have pair :
            Reader.read ⟨found, .quoted before⟩ ['"', '"'] =
              ⟨found, .quoted (before ++ ['"'])⟩ := rfl
        rw [if_pos rfl, pair, induction]
        simp
      · have single :
            Reader.read ⟨found, .quoted before⟩ [character] =
              ⟨found, .quoted (before ++ [character])⟩ := by
          simp [step, isQuote]
        rw [if_neg isQuote, single, induction]
        simp

/-- A quoted name is read as an identifier of that name, whatever its characters. -/
theorem Reads.identifier (name : String) :
    Reads (Sql.identifier name) [.identifier name] := by
  intro found
  have opened :
      Reader.step ⟨found, .outside⟩ '"' = ⟨found, .quoted []⟩ := rfl
  rw [Sql.identifier, Reader.read_append, Reader.read_cons ⟨found, .outside⟩, opened,
    Reader.read_doubled]
  simp [Reader.step, Reader.finish?]

/-- The digits of a placeholder. -/
theorem Reader.read_digits
    (found : List Token)
    (before : List Char)
    {digits : List Char}
    (all : Text.AllDigits digits) :
    Reader.read ⟨found, .counting before⟩ digits =
      ⟨found, .counting (before ++ digits)⟩ := by
  induction digits generalizing before with
  | nil => simp
  | cons digit digits induction =>
      rw [Text.AllDigits.cons] at all
      rw [read_cons]
      simp only [step, all.1, if_true]
      rw [induction _ all.2]
      simp

theorem Reads.placeholder (bound : Nat) :
    Reads (Sql.placeholder bound) [.placeholder (Text.natDigits (bound + 1))] := by
  intro found
  have opened :
      Reader.step ⟨found, .outside⟩ '$' = ⟨found, .counting []⟩ := rfl
  rw [Sql.placeholder, Reader.read_cons, opened,
    Reader.read_digits found [] (Text.AllDigits.natDigits _)]
  rfl

end GeoTables.Sql
