import GeoTables.Proofs.Geometry.Wkt.Grammar
import GeoTables.Proofs.Geometry.Wkt.Names
import GeoTables.Proofs.Number.LetterCase

/-!
# Geometries in capitals

A text has the same tokens in capitals, but for its words.  No reader asks for
more of a word than what it is in capitals, so the same geometry is read, or the
same fault is found.
-/

namespace GeoTables.Wkt

open Text

/-- A token whose word is in capitals. -/
def Token.capitals : Token → Token
  | .word name => .word (Text.capitals name)
  | token => token

/-! ## Tokens -/

theorem isSpace_toUpper (character : Char) : isSpace character.toUpper = isSpace character :=
  apply_toUpper (by decide) character

theorem mark?_toUpper (character : Char) : mark? character.toUpper = mark? character :=
  apply_toUpper (by decide) character

theorem startsNumber_toUpper (character : Char) :
    startsNumber character.toUpper = startsNumber character :=
  apply_toUpper (by decide) character

theorem tokenOfRun_capitals (run : List Char) :
    tokenOfRun (capitals run) = (tokenOfRun run).map Token.capitals := by
  cases run with
  | nil => rfl
  | cons first rest =>
      have sign : (first.toUpper == '+') = (first == '+') :=
        @apply_toUpper Bool (· == '+') (by decide) first
      have number :
          (if first == '+' then capitals rest else first.toUpper :: capitals rest) =
            capitals (if first == '+' then rest else first :: rest) := by
        split <;> rfl
      rw [capitals_cons, tokenOfRun, tokenOfRun, startsNumber_toUpper, sign, number,
        Binary64.ofText?_capitals]
      split
      · split <;> rfl
      · rfl

/-- A mark has no word. -/
theorem capitals_of_mark?
    {character : Char}
    {token : Token}
    (isMark : mark? character = some token) :
    token.capitals = token := by
  cases token with
  | word name => exact absurd isMark (mark?_ne_word character name)
  | _ => rfl

theorem tokensAfter_capitals (run text : List Char) :
    tokensAfter (capitals run) (capitals text) = (tokensAfter run text).map Token.capitals := by
  have gathered (run : List Char) :
      (tokenOfRun (capitals run).reverse).toList =
        (tokenOfRun run.reverse).toList.map Token.capitals := by
    rw [capitals, ← List.map_reverse, ← capitals, tokenOfRun_capitals]
    cases tokenOfRun run.reverse <;> rfl
  induction text generalizing run with
  | nil => exact gathered run
  | cons character rest induction =>
      rw [capitals_cons, tokensAfter, tokensAfter, isSpace_toUpper, mark?_toUpper]
      split
      · rw [List.map_append, ← gathered, ← induction]
        rfl
      · split
        · rename_i token isMark
          rw [List.map_append, List.map_cons, ← gathered, ← induction, capitals_of_mark? isMark]
          rfl
        · exact induction (character :: run)

/-- The tokens of a text in capitals. -/
theorem tokens_capitals (text : List Char) :
    tokens (capitals text) = (tokens text).map Token.capitals :=
  tokensAfter_capitals [] text

/-! ## Readers -/

theorem isWord_capitals (expected : String) (name : List Char) :
    isWord expected (capitals name) = isWord expected name :=
  congrArg (· == expected.toList) (capitals_capitals name)

theorem tag?_capitals (name : List Char) : tag? (capitals name) = tag? name := by
  simp only [tag?, isWord_capitals]

/-- Behind the word for a type all depends on the type that it names. -/
theorem geometryAfter_capitals (depth : Nat) (name : List Char) :
    geometryAfter depth (capitals name) = geometryAfter depth name := by
  rw [geometryAfter.eq_def, geometryAfter.eq_def, tag?_capitals]

/-- The reader makes the same of tokens in capitals, and leaves the same in capitals. -/
def IgnoresCase {α : Type} (reader : Reader α) : Prop :=
  ∀ input, outcome reader (input.map Token.capitals) =
    ((outcome reader input).1, (outcome reader input).2.map Token.capitals)

namespace IgnoresCase

variable {α β : Type}

theorem bind
    {first : Reader α}
    {next : α → Reader β}
    (own : IgnoresCase first)
    (further : ∀ value, IgnoresCase (next value)) :
    IgnoresCase (first >>= next) := by
  intro input
  rw [outcome_bind, outcome_bind, own input]
  rcases outcome first input with ⟨fault | value, left⟩
  · rfl
  · exact further value left

theorem ordinate (name : Char) : IgnoresCase (ordinate name) := by
  intro input
  cases input with
  | nil => rfl
  | cons token rest => cases token <;> rfl

theorem layoutWord : IgnoresCase layoutWord := by
  intro input
  cases input with
  | nil => rfl
  | cons token rest =>
      cases token with
      | word name =>
          rw [List.map_cons, Token.capitals, outcome_layoutWord_word, outcome_layoutWord_word]
          simp only [isWord_capitals]
          split
          · rfl
          · split <;> rfl
      | _ => rfl

theorem beforeOpening
    {opened bare : Reader α}
    (ifOpened : IgnoresCase opened)
    (ifBare : IgnoresCase bare) :
    IgnoresCase (do if ← nextIs .opening then opened else bare) := by
  intro input
  cases input with
  | nil => exact ifBare []
  | cons token rest =>
      cases token with
      | opening => exact ifOpened (.opening :: rest)
      | _ => exact ifBare (_ :: rest)

theorem behindComma
    {further last : Reader α}
    (ifFurther : IgnoresCase further)
    (ifLast : IgnoresCase last) :
    IgnoresCase (do
      if ← nextIs .comma then
        let _ ← next
        further
      else
        last) := by
  intro input
  cases input with
  | nil => exact ifLast []
  | cons token rest =>
      cases token with
      | comma => exact ifFurther rest
      | _ => exact ifLast (_ :: rest)

/-- A body in parentheses, or the word for an empty geometry. -/
theorem enclosed
    {body : Reader α}
    (inside : IgnoresCase body)
    (empty : α) :
    IgnoresCase (enclosed empty body) := by
  intro input
  cases input with
  | nil => rfl
  | cons token rest =>
      cases token with
      | opening =>
          have shape : (Token.opening :: rest).map Token.capitals =
              .opening :: rest.map Token.capitals := rfl
          rw [shape, outcome_enclosed, outcome_enclosed, inside rest]
          rcases outcome body rest with ⟨result, left⟩
          cases left with
          | nil => rfl
          | cons last others => cases last <;> cases result <;> rfl
      | word name =>
          rw [List.map_cons, Token.capitals, outcome_enclosed_word, outcome_enclosed_word,
            isWord_capitals]
      | _ => rfl

end IgnoresCase

theorem compositional_ignoresCase : Compositional @IgnoresCase where
  pure _ _ := rfl
  fault _ _ := rfl
  bind := .bind
  ordinate := .ordinate
  layoutWord := .layoutWord
  sized := by
    intro α reader each input
    have same := each input.length input
    show outcome (reader (input.map Token.capitals).length) _ = _
    rw [List.length_map]
    exact same
  beforeOpening := .beforeOpening
  behindComma := .behindComma
  enclosed := .enclosed

/-- A member of a collection is read in capitals as otherwise. -/
theorem ignoresCase_member
    {depth : Nat}
    (inside : ∀ name, IgnoresCase (geometryAfter depth name)) :
    IgnoresCase (member depth) := by
  intro input
  cases input with
  | nil => rfl
  | cons token rest =>
      cases token with
      | word name =>
          change outcome (geometryAfter depth (Text.capitals name)) (rest.map Token.capitals) = _
          rw [geometryAfter_capitals]
          exact inside name rest
      | _ => rfl

theorem ignoresCase_geometryAfter (depth : Nat) (name : List Char) :
    IgnoresCase (geometryAfter depth name) := by
  -- The induction is on the depth of collections, since a word may name any type at any depth.
  induction depth generalizing name with
  | zero => exact compositional_ignoresCase.geometryAfter fun _ _ _ impossible => nomatch impossible
  | succ depth induction =>
      refine compositional_ignoresCase.geometryAfter fun _ inner _ same => ?_
      obtain rfl : depth = inner := Nat.succ.inj same
      exact ignoresCase_member induction

theorem ascii_toUpper (character : Char) :
    decide (character.toUpper.toNat < 128) = decide (character.toNat < 128) :=
  @apply_toUpper Bool (fun character => decide (character.toNat < 128)) (by decide) character

/-- The same geometry is read from tokens in capitals, or the same fault is found. -/
theorem ignoresCase_geometry : IgnoresCase geometry := by
  intro input
  cases input with
  | nil => rfl
  | cons token rest =>
      cases token with
      | word name =>
          have ascii :
              ((Text.capitals name).all fun character => character.toNat < 128) =
                name.all fun character => character.toNat < 128 := by
            rw [Text.capitals, List.all_map]
            exact congrArg (name.all ·) (funext ascii_toUpper)
          rw [List.map_cons, Token.capitals, outcome_geometry_word, outcome_geometry_word, ascii,
            geometryAfter_capitals, List.length_map]
          split
          · exact ignoresCase_geometryAfter rest.length name rest
          · rfl
      | _ => rfl

/-- Letter case makes no difference to the geometry that a text is read as. -/
theorem geometry_of_sameLetters
    {left right : List Char}
    (same : SameLetters left right) :
    (outcome geometry (tokens left)).1 = (outcome geometry (tokens right)).1 := by
  have inCapitals (text : List Char) :
      (outcome geometry (tokens (capitals text))).1 = (outcome geometry (tokens text)).1 := by
    rw [tokens_capitals, ignoresCase_geometry]
  rw [← inCapitals left, same, inCapitals]

end GeoTables.Wkt
