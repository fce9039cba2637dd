import GeoTables.Calendar.Basic
import GeoTables.Proofs.Output.Markup

/-!
# Texts that need no escape

Truth values, numbers, dates and times are written with visible ASCII
characters that are no part of markup, whatever they are.
-/

namespace GeoTables.Xml

/-- A visible ASCII character that is no part of markup. -/
def isPlainCharacter (character : Char) : Bool :=
  0x20 < character.toNat && character.toNat < 0x7F && character != '<' && character != '&'

/-- A plain character is allowed in a document. -/
theorem isAllowed_of_isPlainCharacter
    {character : Char}
    (plain : isPlainCharacter character = true) :
    isAllowed character = true := by
  simp only [isPlainCharacter, Bool.and_eq_true, decide_eq_true_eq] at plain
  simp only [isAllowed, Text.inRanges, characterRanges, List.any_cons, Bool.or_eq_true,
    Bool.and_eq_true, decide_eq_true_eq]
  omega

theorem isPlainCharacter_of_isDigit
    {character : Char}
    (digit : character.isDigit = true) :
    isPlainCharacter character = true := by
  have bounds := Text.toNat_of_isDigit digit
  have noTag : character ≠ '<' := Text.ne_of_isDigit digit rfl
  have noReference : character ≠ '&' := Text.ne_of_isDigit digit rfl
  simp only [isPlainCharacter, Bool.and_eq_true, decide_eq_true_eq, bne_iff_ne]
  exact ⟨⟨⟨by omega, by omega⟩, noTag⟩, noReference⟩

/-- All characters of the text are plain. -/
def Plain (text : List Char) : Prop :=
  ∀ character ∈ text, isPlainCharacter character = true

instance (text : List Char) : Decidable (Plain text) :=
  List.decidableBAll _ text

namespace Plain

@[simp]
theorem nil : Plain [] := nofun

@[simp]
theorem cons
    {first : Char}
    {rest : List Char} :
    Plain (first :: rest) ↔ isPlainCharacter first = true ∧ Plain rest :=
  List.forall_mem_cons

@[simp]
theorem append
    {left right : List Char} :
    Plain (left ++ right) ↔ Plain left ∧ Plain right :=
  List.forall_mem_append

theorem of_digits
    {text : List Char}
    (digits : Text.AllDigits text) :
    Plain text :=
  fun character member => isPlainCharacter_of_isDigit (digits character member)

theorem padded (width value : Nat) : Plain (Text.paddedDigits width value) :=
  of_digits (.paddedDigits width value)

section

variable {text : List Char}

theorem isAllowed (plain : Plain text) : ∀ character ∈ text, Xml.isAllowed character = true :=
  fun character member => isAllowed_of_isPlainCharacter (plain character member)

/-- No tag begins within a plain text. -/
theorem ne_less (plain : Plain text) : ∀ character ∈ text, character ≠ '<' := by
  rintro _ member rfl
  exact absurd (plain _ member) (by decide)

/-- A plain text is content as it is. -/
theorem isContent (plain : Plain text) : IsContent text := by
  induction text with
  | nil => exact .nil
  | cons character rest induction =>
      rw [cons] at plain
      have allowed := isAllowed_of_isPlainCharacter plain.1
      refine .character allowed ?_ ?_ (induction plain.2)
      · rintro rfl
        exact absurd plain.1 (by decide)
      · rintro rfl
        exact absurd plain.1 (by decide)

end

/-! ## Truth values and numbers -/

theorem bool (truth : Bool) : Plain (content (.bool truth)) := by
  cases truth <;> decide

/-- A number that can be written has plain characters in its spelling. -/
theorem of_isWritable
    {number : Json.Number}
    (writable : number.IsWritable) :
    Plain number.characters := by
  have continuing : ∀ character, Json.Scan.continuesNumber character = true →
      isPlainCharacter character = true := by
    intro character continues
    simp only [Json.Scan.continuesNumber, Bool.or_eq_true, beq_iff_eq] at continues
    rcases continues with ((((digit | rfl) | rfl) | rfl) | rfl) | rfl
    · exact isPlainCharacter_of_isDigit digit
    all_goals decide
  intro character member
  have continues := (Json.Number.valid_spelling writable).continues_parts character
  rw [← Json.Number.characters_spelling writable, Json.NumberText.characters,
    Binary64.signed] at member
  split_ifs at member
  · rcases List.mem_cons.mp member with rfl | digits
    · rfl
    · exact continuing character (continues digits)
  · exact continuing character (continues member)

/-- A number without a spelling is written as the word for null. -/
theorem number (number : Json.Number) : Plain number.characters := by
  have word : Plain "null".toList := by decide
  cases number with
  | integer value => exact of_isWritable trivial
  | float value =>
      cases value with
      | nan => exact word
      | number negative rank =>
          by_cases infinite : rank.val = Binary64.infiniteRank
          · rw [Json.Number.characters, Json.floatText, if_pos infinite]
            exact word
          · refine of_isWritable ?_
            simp only [Json.Number.IsWritable, Binary64.isFinite, decide_eq_true_eq]
            omega

/-! ## Dates and times -/

theorem year (value : Int) : Plain (Date.yearText value) := by
  cases value with
  | ofNat number =>
      unfold Date.yearText
      dsimp only
      split_ifs
      · exact padded 4 number
      · exact cons.mpr ⟨rfl, padded 4 number⟩
  | negSucc number => exact cons.mpr ⟨rfl, padded 4 (number + 1)⟩

theorem date (date : Date) : Plain date.text := by
  simp only [Date.text, List.append_assoc, List.cons_append, append, cons]
  exact ⟨year date.year, rfl, padded 2 date.month, rfl, padded 2 date.day⟩

theorem fraction (nanosecond : Nat) : Plain (TimeOfDay.fractionText nanosecond) := by
  unfold TimeOfDay.fractionText
  split_ifs
  · exact .nil
  all_goals exact cons.mpr ⟨rfl, padded _ _⟩

theorem time (time : TimeOfDay) : Plain time.text := by
  simp only [TimeOfDay.text, List.append_assoc, List.cons_append, append, cons]
  exact ⟨padded _ _, rfl, padded _ _, rfl, padded _ _, fraction _⟩

theorem dateTime (moment : DateTime) : Plain moment.text := by
  rw [DateTime.text, append, cons]
  exact ⟨date moment.date, rfl, time moment.time⟩

end Plain

end GeoTables.Xml
