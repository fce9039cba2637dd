import GeoTables.Proofs.Text.Blank
import GeoTables.Proofs.Value.OneSpelling

/-!
# Values that are read from their own texts

A truth value, an integer, an exact number, a text, a date and a time are read
back from the text that is written for them, on a column of their type.  The
texts of values of other types need not be.
-/

namespace GeoTables

/-- The values of the column are read back from their texts. -/
def Column.HasReadableTexts (column : Column) : Prop :=
  column.type.HasOneSpelling = true ∨ column.type = .float ∧ column.isExact = true

namespace Column.HasReadableTexts

variable {column : Column}

theorem isGeometry_eq_false (readable : column.HasReadableTexts) : column.isGeometry = false := by
  cases type : column.type <;>
    simp_all [HasReadableTexts, LogicalType.HasOneSpelling, isGeometry, LogicalType.isGeometry]

theorem type_ne_unknown (readable : column.HasReadableTexts) : column.type ≠ .unknown := by
  intro type
  simp [HasReadableTexts, type, LogicalType.HasOneSpelling] at readable

theorem isExact_of_float
    (readable : column.HasReadableTexts)
    (type : column.type = .float) :
    column.isExact = true := by
  simpa [HasReadableTexts, type, LogicalType.HasOneSpelling] using readable

end Column.HasReadableTexts

namespace Value

variable {column : Column} {value : Value}

theorem boolOf_text (truth : Bool) :
    boolOf (.string (if truth then "true" else "false")) = .ok truth := by
  cases truth <;> rfl

theorem visible_boolText (truth : Bool) :
    Text.Visible (if truth then "true" else "false").toList := by
  cases truth with
  | false =>
      change Text.Visible ['f', 'a', 'l', 's', 'e']
      simp [Text.isBlank]
  | true =>
      change Text.Visible ['t', 'r', 'u', 'e']
      simp [Text.isBlank]

theorem intOf_intText
    {number : Int}
    (fits : Json.Number.fitsSigned number = true) :
    intOf (.string (Text.intText number)) = .ok number := by
  have within : Text.signedWithin? 64 (Text.intDigits number) = some number := by
    rw [Text.signedWithin?, Text.signed?_intDigits]
    exact Option.filter_eq_some_iff.mpr ⟨rfl, fits⟩
  rw [intOf, Text.intText, String.toList_ofList, (Text.visible_intDigits number).trim_eq, within]

/-- A text without blanks is read as the string is, on a column that does not take all texts. -/
theorem coerceText_of_visible
    {characters : List Char}
    {type : LogicalType}
    (visible : Text.Visible characters)
    (isType : column.type = type)
    (notString : type ≠ .string)
    (known : type ≠ .unknown) :
    coerceText column (String.ofList characters) =
      ofScalar type column.isExact (.string (String.ofList characters)) := by
  subst isType
  have trimmed : Text.trimmed (String.ofList characters) = String.ofList characters := by
    rw [Text.trimmed, String.toList_ofList, visible.trim_eq]
  unfold coerceText
  split
  · contradiction
  · contradiction
  · rw [trimmed]
    rfl

/-- A value is read back from a text without blanks that the string is read from. -/
theorem exists_text_of_visible
    {characters : List Char}
    {type : LogicalType}
    (isText : value.text? = some (String.ofList characters))
    (readable : column.HasReadableTexts)
    (visible : Text.Visible characters)
    (isType : column.type = type)
    (notString : type ≠ .string)
    (read : ofScalar type column.isExact (.string (String.ofList characters)) = .ok value) :
    ∃ text, value.text? = some text ∧ coerceText column text = .ok value :=
  have known : type ≠ .unknown := isType ▸ readable.type_ne_unknown
  ⟨_, isText, (coerceText_of_visible visible isType notString known).trans read⟩

/-- A value that is not null is read back from its own text. -/
theorem Fits.exists_text
    (fits : value.Fits column)
    (own : column.isRelationship = false)
    (readable : column.HasReadableTexts)
    (present : value ≠ .null) :
    ∃ text, value.text? = some text ∧ coerceText column text = .ok value := by
  cases fits with
  | null => exact absurd rfl present
  | association related => simp [own] at related
  | geometry _ geometric => simp [readable.isGeometry_eq_false] at geometric
  | float _ type inexact => simp [readable.isExact_of_float type] at inexact
  | unknown _ type => exact absurd type readable.type_ne_unknown
  | string _ type =>
      refine ⟨_, rfl, ?_⟩
      rw [coerceText, type]
  | @bool truth _ type =>
      refine exists_text_of_visible (by rw [String.ofList_toList, text?]) readable
        (visible_boolText truth) type (by simp) ?_
      rw [String.ofList_toList, ofScalar, boolOf_text]
      rfl
  | @int number _ type bounded =>
      refine exists_text_of_visible rfl readable (Text.visible_intDigits number) type (by simp) ?_
      rw [ofScalar, ← Text.intText, intOf_intText bounded]
      rfl
  | @decimal number _ type exact_ =>
      exact exists_text_of_visible rfl readable number.visible_text type (by simp)
        (ofScalar_decimalText exact_)
  | @date day _ type =>
      exact exists_text_of_visible rfl readable (Calendar.visible_dateText day) type (by simp)
        (ofScalar_dateText day _)
  | @dateTime moment _ type =>
      exact exists_text_of_visible rfl readable (Calendar.visible_dateTimeText moment) type
        (by simp) (ofScalar_dateTimeText moment _)
  | @time time _ type =>
      exact exists_text_of_visible rfl readable (Calendar.visible_timeText time) type (by simp)
        (ofScalar_timeText time _)

/-- A value that is not null is equal to itself. -/
theorem Fits.equal_self
    (fits : value.Fits column)
    (own : column.isRelationship = false)
    (readable : column.HasReadableTexts)
    (present : value ≠ .null) :
    value.equal value = true := by
  have numeric : value ≠ .float .nan := by
    rintro rfl
    cases fits with
    | float _ type inexact => simp [readable.isExact_of_float type] at inexact
    | unknown _ type => exact readable.type_ne_unknown type
  exact (fits.areComparable fits own readable.isGeometry_eq_false readable.type_ne_unknown
    present present numeric numeric).equal_self

end Value

end GeoTables
