import GeoTables.Number.Reading
import GeoTables.Proofs.Text.LetterCase

/-!
# Numbers in capitals

The text of a number consists of digits, marks and the letters of the words for
infinity and for no number and of an exponent.  It is read as the same number in
capitals.
-/

namespace GeoTables

namespace Text

theorem numeral?_capitals (text : List Char) : numeral? (capitals text) = numeral? text := by
  have empty : (capitals text).isEmpty = text.isEmpty := by simp [capitals]
  have all : (capitals text).all Char.isDigit = text.all Char.isDigit := by
    simp [capitals, Function.comp_def]
  rw [numeral?, numeral?, empty, all]
  split
  · rename_i digits
    rw [Bool.and_eq_true, List.all_eq_true] at digits
    rw [AllDigits.capitals_eq digits.2]
  · rfl

theorem signed?_of_ne
    {first : Char}
    (notPlus : first ≠ '+')
    (notMinus : first ≠ '-')
    (rest : List Char) :
    signed? (first :: rest) = (numeral? (first :: rest)).map Int.ofNat :=
  signed?.eq_3 _ (by simp [notPlus]) (by simp [notMinus])

theorem signed?_capitals (text : List Char) : signed? (capitals text) = signed? text := by
  cases text with
  | nil => rfl
  | cons first rest =>
      by_cases isPlus : first = '+'
      · subst isPlus
        exact congrArg (Option.map Int.ofNat) (numeral?_capitals rest)
      · by_cases isMinus : first = '-'
        · subst isMinus
          exact congrArg (Option.map fun value => -Int.ofNat value) (numeral?_capitals rest)
        · have notPlus : first.toUpper ≠ '+' := by rwa [ne_eq, toUpper_eq_iff (by decide)]
          have notMinus : first.toUpper ≠ '-' := by rwa [ne_eq, toUpper_eq_iff (by decide)]
          rw [capitals_cons, signed?_of_ne notPlus notMinus, signed?_of_ne isPlus isMinus,
            ← capitals_cons, numeral?_capitals]

theorem unsigned?_of_ne
    {first : Char}
    (notPlus : first ≠ '+')
    (rest : List Char) :
    unsigned? (first :: rest) = numeral? (first :: rest) :=
  unsigned?.eq_2 _ (by simp [notPlus])

theorem unsigned?_capitals (text : List Char) : unsigned? (capitals text) = unsigned? text := by
  cases text with
  | nil => rfl
  | cons first rest =>
      by_cases isPlus : first = '+'
      · subst isPlus
        exact numeral?_capitals rest
      · have notPlus : first.toUpper ≠ '+' := by rwa [ne_eq, toUpper_eq_iff (by decide)]
        rw [capitals_cons, unsigned?_of_ne notPlus, unsigned?_of_ne isPlus, ← capitals_cons,
          numeral?_capitals]

theorem unsignedWithin?_capitals (bits : Nat) (text : List Char) :
    unsignedWithin? bits (capitals text) = unsignedWithin? bits text := by
  rw [unsignedWithin?, unsigned?_capitals, unsignedWithin?]

theorem signedWithin?_capitals (bits : Nat) (text : List Char) :
    signedWithin? bits (capitals text) = signedWithin? bits text := by
  rw [signedWithin?, signed?_capitals, signedWithin?]

end Text

namespace Binary64

open Text

/-- The digits behind a point, if there is one, and what stands behind them. -/
def fractionParts : List Char → List Char × List Char
  | '.' :: rest => (rest.takeWhile Char.isDigit, rest.dropWhile Char.isDigit)
  | rest => ([], rest)

theorem magnitude?_eq (negative : Bool) (text : List Char) :
    magnitude? negative text =
      let whole := text.takeWhile Char.isDigit
      let parts := fractionParts (text.dropWhile Char.isDigit)
      if whole.isEmpty && parts.1.isEmpty then
        none
      else
        (exponentPart? parts.2).map fun exponent =>
          ofDecimal negative (digitsValue 0 (whole ++ parts.1)) (exponent - parts.1.length) := by
  rw [magnitude?]
  split
  rename_i fraction behind parts
  have same : fractionParts (text.dropWhile Char.isDigit) = (fraction, behind) := by
    rw [fractionParts.eq_def]
    exact parts
  rw [same]
  dsimp only
  rw [Option.map_eq_bind]
  rfl

theorem fractionParts_of_ne
    {first : Char}
    (notPoint : first ≠ '.')
    (rest : List Char) :
    fractionParts (first :: rest) = ([], first :: rest) :=
  fractionParts.eq_2 _ (by simp [notPoint])

theorem takeWhile_isDigit_capitals (text : List Char) :
    (capitals text).takeWhile Char.isDigit = text.takeWhile Char.isDigit := by
  have digits : AllDigits (text.takeWhile Char.isDigit) :=
    fun _ member => List.mem_takeWhile_imp member
  rw [capitals_takeWhile isDigit_toUpper, digits.capitals_eq]

theorem fractionParts_capitals (text : List Char) :
    fractionParts (capitals text) =
      ((fractionParts text).1, capitals (fractionParts text).2) := by
  cases text with
  | nil => rfl
  | cons first rest =>
      by_cases isPoint : first = '.'
      · subst isPoint
        exact Prod.ext (takeWhile_isDigit_capitals rest) (capitals_dropWhile isDigit_toUpper rest)
      · have notPoint : first.toUpper ≠ '.' := by rwa [ne_eq, toUpper_eq_iff (by decide)]
        rw [capitals_cons, fractionParts_of_ne notPoint, fractionParts_of_ne isPoint,
          ← capitals_cons]

theorem exponentPart?_capitals (text : List Char) :
    exponentPart? (capitals text) = exponentPart? text := by
  cases text with
  | nil => rfl
  | cons first rest =>
      have letter : (first.toUpper == 'e' || first.toUpper == 'E') =
          (first == 'e' || first == 'E') :=
        @apply_toUpper Bool (fun character => character == 'e' || character == 'E')
          (by decide) first
      rw [capitals_cons, exponentPart?, exponentPart?, letter, signed?_capitals]

theorem magnitude?_capitals (negative : Bool) (text : List Char) :
    magnitude? negative (capitals text) = magnitude? negative text := by
  rw [magnitude?_eq, magnitude?_eq, takeWhile_isDigit_capitals, capitals_dropWhile isDigit_toUpper,
    fractionParts_capitals]
  dsimp only
  rw [exponentPart?_capitals]

theorem unsigned?_capitals (negative : Bool) (text : List Char) :
    unsigned? negative (capitals text) = unsigned? negative text := by
  have folded : (capitals text).map Char.toLower = text.map Char.toLower := by
    simp [capitals, Function.comp_def]
  rw [unsigned?, unsigned?, folded, magnitude?_capitals]

theorem ofText?_of_ne
    {first : Char}
    (notMinus : first ≠ '-')
    (notPlus : first ≠ '+')
    (rest : List Char) :
    ofText? (first :: rest) = unsigned? false (first :: rest) :=
  ofText?.eq_3 _ (by simp [notMinus]) (by simp [notPlus])

/-- A text is the same number in capitals. -/
theorem ofText?_capitals (text : List Char) : ofText? (capitals text) = ofText? text := by
  cases text with
  | nil => rfl
  | cons first rest =>
      by_cases isMinus : first = '-'
      · subst isMinus
        exact unsigned?_capitals true rest
      · by_cases isPlus : first = '+'
        · subst isPlus
          exact unsigned?_capitals false rest
        · have notMinus : first.toUpper ≠ '-' := by rwa [ne_eq, toUpper_eq_iff (by decide)]
          have notPlus : first.toUpper ≠ '+' := by rwa [ne_eq, toUpper_eq_iff (by decide)]
          rw [capitals_cons, ofText?_of_ne notMinus notPlus, ofText?_of_ne isMinus isPlus,
            ← capitals_cons, unsigned?_capitals]

/-! ## Characters of numbers -/

/-- A character of the text of a number. -/
def IsNumeric (character : Char) : Prop :=
  character.isDigit = true ∨ character.toLower ∈ "+-.aefinty".toList

theorem isNumeric_of_exponentPart?
    {text : List Char}
    {exponent : Int}
    (read : exponentPart? text = some exponent) :
    ∀ character ∈ text, IsNumeric character := by
  cases text with
  | nil => nofun
  | cons letter rest =>
      rw [exponentPart?] at read
      split_ifs at read with isLetter
      rw [Bool.or_eq_true, beq_iff_eq, beq_iff_eq] at isLetter
      rintro character (_ | ⟨_, member⟩)
      · rcases isLetter with rfl | rfl <;> exact .inr (by decide)
      · rcases isDigit_or_sign_of_signed? read character member with digit | rfl | rfl
        · exact .inl digit
        · exact .inr (by decide)
        · exact .inr (by decide)

theorem isNumeric_of_fractionParts
    {text : List Char}
    (behind : ∀ character ∈ (fractionParts text).2, IsNumeric character) :
    ∀ character ∈ text, IsNumeric character := by
  cases text with
  | nil => nofun
  | cons first rest =>
      by_cases isPoint : first = '.'
      · subst isPoint
        rintro character (_ | ⟨_, member⟩)
        · exact .inr (by decide)
        · rw [← List.takeWhile_append_dropWhile (p := Char.isDigit) (l := rest)] at member
          rcases List.mem_append.mp member with inFraction | inExponent
          · exact .inl (List.mem_takeWhile_imp inFraction)
          · exact behind character inExponent
      · rw [fractionParts_of_ne isPoint] at behind
        exact behind

theorem isNumeric_of_magnitude?
    {negative : Bool}
    {text : List Char}
    {value : Binary64}
    (read : magnitude? negative text = some value) :
    ∀ character ∈ text, IsNumeric character := by
  rw [magnitude?_eq] at read
  dsimp only at read
  split_ifs at read
  obtain ⟨exponent, isExponent, _⟩ := Option.map_eq_some_iff.mp read
  have behind := isNumeric_of_fractionParts (isNumeric_of_exponentPart? isExponent)
  intro character member
  rw [← List.takeWhile_append_dropWhile (p := Char.isDigit) (l := text)] at member
  rcases List.mem_append.mp member with inWhole | later
  · exact .inl (List.mem_takeWhile_imp inWhole)
  · exact behind character later

theorem isNumeric_of_unsigned?
    {negative : Bool}
    {text : List Char}
    {value : Binary64}
    (read : unsigned? negative text = some value) :
    ∀ character ∈ text, IsNumeric character := by
  have ofFolded : ∀ word : List Char, (word.all ("+-.aefinty".toList.contains ·)) = true →
      text.map Char.toLower = word → ∀ character ∈ text, IsNumeric character := by
    rintro word letters rfl character member
    have letter := List.all_eq_true.mp letters _ (List.mem_map_of_mem member)
    exact .inr (List.contains_iff_mem.mp letter)
  rw [unsigned?] at read
  split_ifs at read with infinite invalid
  · rw [Bool.or_eq_true, decide_eq_true_iff, decide_eq_true_iff] at infinite
    rcases infinite with short | long
    · exact ofFolded _ (by decide) short
    · exact ofFolded _ (by decide) long
  · exact ofFolded _ (by decide) invalid
  · exact isNumeric_of_magnitude? read

/-- A text that is a number has the characters of numbers only. -/
theorem isNumeric_of_ofText?
    {text : List Char}
    {value : Binary64}
    (read : ofText? text = some value) :
    ∀ character ∈ text, IsNumeric character := by
  unfold ofText? at read
  split at read
  · rintro character (_ | ⟨_, member⟩)
    · exact .inr (by decide)
    · exact isNumeric_of_unsigned? read character member
  · rintro character (_ | ⟨_, member⟩)
    · exact .inr (by decide)
    · exact isNumeric_of_unsigned? read character member
  · exact isNumeric_of_unsigned? read

end Binary64

end GeoTables
