import GeoTables.Proofs.Number.Monotone
import GeoTables.Proofs.Number.PlainText
import GeoTables.Proofs.Outcome
import GeoTables.Proofs.Table.Columns
import GeoTables.Proofs.Text.Numeral
import GeoTables.Value.Coercion
import Mathlib.Data.Rat.Cast.Order

/-!
# Whole numbers of a column

A column of integers takes a JSON number if its value is an integer of 64 bits,
and then it takes this integer: nothing is wrapped, cut or rounded.  Integers
come as such or as floating-point numbers.  An integer beyond 64 bits is not
mistaken for one that it is rounded to, since rounding keeps it beyond the
bounds.  Of the floating-point numbers only the magnitude is compared with the
bound, so that the least integer is refused when it is spelled as one of them.

A text is taken if it is a numeral without its outer blanks.
-/

namespace GeoTables

namespace Binary64

/-! ## Numbers that are integers -/

/-- A number is an integer if it has a multiple of the units in one. -/
theorem integer?_eq_some_iff
    {number : Binary64}
    {value : Int} :
    number.integer? = some value ↔ number.units? = some (value * unitsInOne) := by
  have positive : (0 : Int) < unitsInOne := Int.natCast_pos.mpr unitsInOne_pos
  rw [integer?]
  cases number.units? with
  | none => exact iff_of_false nofun nofun
  | some units =>
      simp only [Option.bind_eq_bind, Option.bind_some, Option.ite_none_right_eq_some,
        Option.some.injEq]
      constructor
      · rintro ⟨divides, rfl⟩
        exact (Int.ediv_mul_cancel (Int.dvd_of_emod_eq_zero divides)).symm
      · rintro rfl
        exact ⟨Int.mul_emod_left _ _, Int.mul_ediv_cancel _ (Int.ne_of_gt positive)⟩

theorem natAbs_units?
    {negative : Bool}
    {rank : Fin (infiniteRank + 1)}
    {units : Int}
    (isUnits : units? (.number negative rank) = some units) :
    units.natAbs = unitsOfRank rank.val := by
  rw [units?, Option.ite_none_right_eq_some] at isUnits
  obtain ⟨_, same⟩ := isUnits
  cases same
  cases negative <;> simp

/-- The units of a rounded integer are those of the rank of its magnitude. -/
theorem natAbs_units?_ofInt
    {value units : Int}
    (isUnits : (ofInt value).units? = some units) :
    units.natAbs = unitsOfRank (rankOfMagnitude value.natAbs) := by
  rw [ofInt, ofRatio, ofRank] at isUnits
  rw [rankOfMagnitude, natAbs_units? isUnits]

/-- The rank of the first magnitude that is too great for 64 bits. -/
def wideRank : Nat := 4890909195324358656

theorem rankOfMagnitude_wide : rankOfMagnitude (2 ^ 63) = wideRank := by
  decide +kernel

theorem unitsOfRank_wideRank : unitsOfRank wideRank = 2 ^ 63 * unitsInOne := by
  decide +kernel

/-- An integer beyond the bounds is not rounded to an integer within them. -/
theorem le_natAbs_of_integer?_ofInt
    {value rounded : Int}
    (beyond : 2 ^ 63 ≤ value.natAbs)
    (isInteger : (ofInt value).integer? = some rounded) :
    2 ^ 63 ≤ rounded.natAbs := by
  have ranks : wideRank ≤ rankOfMagnitude value.natAbs :=
    rankOfMagnitude_wide ▸ rankOfMagnitude_mono beyond
  have magnitudes : 2 ^ 63 * unitsInOne ≤ unitsOfRank (rankOfMagnitude value.natAbs) :=
    unitsOfRank_wideRank ▸ unitsOfRank_mono ranks
  have units := natAbs_units?_ofInt (integer?_eq_some_iff.mp isInteger)
  rw [Int.natAbs_mul, Int.natAbs_natCast] at units
  rw [← units] at magnitudes
  have positive := unitsInOne_pos
  generalize unitsInOne = one at magnitudes positive
  exact Nat.le_of_mul_le_mul_right magnitudes positive

end Binary64

namespace Json.Number

/-- The mathematical value of a number, if it is finite. -/
def rational? : Number → Option ℚ
  | .integer value => some value
  | .float value => value.units?.map fun units : Int => (units : ℚ) / Binary64.unitsInOne

/-- A floating-point number is the integer that is its value. -/
theorem rational?_float_iff
    {number : Binary64}
    {value : Int} :
    (float number).rational? = some (value : ℚ) ↔ number.integer? = some value := by
  have nonzero : ((Binary64.unitsInOne : Nat) : ℚ) ≠ 0 :=
    Nat.cast_ne_zero.mpr (Nat.ne_of_gt Binary64.unitsInOne_pos)
  rw [Binary64.integer?_eq_some_iff, rational?, Option.map_eq_some_iff]
  constructor
  · rintro ⟨units, isUnits, quotient⟩
    rw [div_eq_iff nonzero] at quotient
    rw [isUnits, Option.some.injEq]
    exact_mod_cast quotient
  · intro isUnits
    refine ⟨_, isUnits, ?_⟩
    rw [div_eq_iff nonzero]
    push_cast
    rfl

theorem rational?_integer_iff {own value : Int} :
    (integer own).rational? = some (value : ℚ) ↔ own = value := by
  rw [rational?, Option.some.injEq, Int.cast_inj]

theorem fitsSigned_iff {value : Int} :
    fitsSigned value = true ↔ -(2 ^ 63 : Int) ≤ value ∧ value < 2 ^ 63 := by
  rw [fitsSigned, Bool.and_eq_true, decide_eq_true_eq, decide_eq_true_eq]

end Json.Number

namespace Value

/-- The integer of a floating-point number is its value, if its magnitude is small enough. -/
theorem intOfBinary64?_eq_some_iff
    {number : Binary64}
    {value : Int} :
    intOfBinary64? number = some value ↔
      number.integer? = some value ∧ value.natAbs < 2 ^ 63 := by
  rw [intOfBinary64?, Option.filter_eq_some_iff, decide_eq_true_eq]

/-- An integer beyond the bounds is not taken for the number that it is rounded to. -/
theorem intOfBinary64?_ofInt
    {value : Int}
    (beyond : Json.Number.fitsSigned value = false) :
    intOfBinary64? (Binary64.ofInt value) = none := by
  have magnitude : 2 ^ 63 ≤ value.natAbs := by
    rw [← Bool.not_eq_true, Json.Number.fitsSigned_iff] at beyond
    omega
  rw [Option.eq_none_iff_forall_not_mem]
  intro rounded isRounded
  obtain ⟨isInteger, small⟩ := intOfBinary64?_eq_some_iff.mp isRounded
  exact Nat.not_le_of_lt small (Binary64.le_natAbs_of_integer?_ofInt magnitude isInteger)

/--
A number is read as the integer that is its value, if there is one of 64 bits;
the least of them has to be spelled as an integer.
-/
theorem intOf_number_iff
    {number : Json.Number}
    {value : Int} :
    intOf (.number number) = .ok value ↔
      number.rational? = some (value : ℚ) ∧
        (-(2 ^ 63 : Int) ≤ value ∧ value < 2 ^ 63) ∧
        (number = .integer value ∨ value ≠ -(2 ^ 63 : Int)) := by
  cases number with
  | integer own =>
      rw [Json.Number.rational?_integer_iff, ← Json.Number.fitsSigned_iff]
      cases fits : Json.Number.fitsSigned own with
      | true =>
          have read : intOf (.number (.integer own)) = .ok own := by
            simp [intOf, Json.Number.signed?, fits]
          rw [read, Except.ok.injEq]
          constructor
          · rintro rfl
            exact ⟨rfl, fits, .inl rfl⟩
          · exact And.left
      | false =>
          have refused : intOf (.number (.integer own)) = .error .notInteger := by
            simp [intOf, Json.Number.signed?, fits, Json.Number.toBinary64,
              intOfBinary64?_ofInt fits]
          rw [refused]
          refine iff_of_false nofun ?_
          rintro ⟨rfl, within, _⟩
          rw [fits] at within
          cases within
  | float own =>
      have read :
          intOf (.number (.float own)) = .ok value ↔ intOfBinary64? own = some value := by
        rw [intOf]
        cases own : intOfBinary64? own <;> simp [Json.Number.signed?, Json.Number.toBinary64, own]
      rw [read, intOfBinary64?_eq_some_iff, Json.Number.rational?_float_iff]
      refine and_congr_right fun _ => ?_
      constructor
      · intro small
        exact ⟨by omega, .inr (by omega)⟩
      · rintro ⟨within, impossible | notLeast⟩
        · cases impossible
        · omega

end Value

/-! ## Numerals -/

namespace Text

/-- The text spells the integer: digits, at least one, behind a sign or none. -/
inductive SpellsInteger : List Char → Int → Prop where
  | unsigned
      {digits : List Char}
      (nonempty : digits ≠ [])
      (all : AllDigits digits) :
      SpellsInteger digits (Nat.ofDigitChars 10 digits 0)
  | plus
      {digits : List Char}
      (nonempty : digits ≠ [])
      (all : AllDigits digits) :
      SpellsInteger ('+' :: digits) (Nat.ofDigitChars 10 digits 0)
  | minus
      {digits : List Char}
      (nonempty : digits ≠ [])
      (all : AllDigits digits) :
      SpellsInteger ('-' :: digits) (-(Nat.ofDigitChars 10 digits 0 : Int))

theorem numeral?_eq_some_iff
    {text : List Char}
    {value : Nat} :
    numeral? text = some value ↔
      text ≠ [] ∧ AllDigits text ∧ Nat.ofDigitChars 10 text 0 = value := by
  rw [numeral?, Option.ite_none_right_eq_some, Option.some.injEq, digitsValue_eq_ofDigitChars,
    Bool.and_eq_true, List.all_eq_true, and_assoc]
  simp [AllDigits]

/-- Signed numerals are the spellings of integers. -/
theorem signed?_eq_some_iff
    {text : List Char}
    {value : Int} :
    signed? text = some value ↔ SpellsInteger text value := by
  constructor
  · intro read
    unfold signed? at read
    split at read
    all_goals
      obtain ⟨magnitude, digits, rfl⟩ := Option.map_eq_some_iff.mp read
      obtain ⟨nonempty, all, rfl⟩ := numeral?_eq_some_iff.mp digits
    · exact .plus nonempty all
    · exact .minus nonempty all
    · exact .unsigned nonempty all
  · rintro (⟨nonempty, all⟩ | ⟨nonempty, all⟩ | ⟨nonempty, all⟩)
    all_goals have digits := numeral?_eq_some_iff.mpr ⟨nonempty, all, rfl⟩
    · obtain ⟨first, rest, rfl⟩ := List.exists_cons_of_ne_nil nonempty
      have notPlus : first ≠ '+' := ne_of_isDigit (AllDigits.cons.mp all).1 rfl
      have notMinus : first ≠ '-' := ne_of_isDigit (AllDigits.cons.mp all).1 rfl
      simp [signed?, notPlus, notMinus, digits]
    · simp [signed?, digits]
    · simp [signed?, digits]

end Text

namespace Value

/-- A text is read as the integer of 64 bits that it spells without its outer blanks. -/
theorem intOf_string_iff
    {text : String}
    {value : Int} :
    intOf (.string text) = .ok value ↔
      Text.SpellsInteger (Text.trim text.toList) value ∧
        -(2 ^ 63 : Int) ≤ value ∧ value < 2 ^ 63 := by
  have read :
      intOf (.string text) = .ok value ↔
        Text.signedWithin? 64 (Text.trim text.toList) = some value := by
    rw [intOf]
    cases Text.signedWithin? 64 (Text.trim text.toList) <;> simp
  rw [read, Text.signedWithin?, Option.filter_eq_some_iff, Text.signed?_eq_some_iff,
    Bool.and_eq_true, decide_eq_true_eq, decide_eq_true_eq]

variable {column : Column}

theorem coerce_number
    (isInteger : column.type = .integer)
    (number : Json.Number) :
    coerce column (.number number) = (intOf (.number number)).map .int := by
  rw [coerce, ofScalar.eq_def, isInteger]
  rfl

theorem coerce_string
    (isInteger : column.type = .integer)
    (text : String) :
    coerce column (.string text) = (intOf (.string text)).map .int := by
  rw [coerce, ofScalar.eq_def, isInteger]
  rfl

/--
A column of integers takes a number exactly if its value is an integer of 64
bits, other than the least one as a floating-point number, and a text exactly
if it spells such an integer between its outer blanks; it takes this integer.
-/
theorem integer_coercion_exact_iff
    (isInteger : column.type = .integer) :
    (∀ (number : Json.Number) (value : Value),
      coerce column (.number number) = .ok value ↔
        ∃ whole : Int,
          value = .int whole ∧
            number.rational? = some (whole : ℚ) ∧
            (-(2 ^ 63 : Int) ≤ whole ∧ whole < 2 ^ 63) ∧
            (number = .integer whole ∨ whole ≠ -(2 ^ 63 : Int))) ∧
      ∀ (text : String) (value : Value),
        coerce column (.string text) = .ok value ↔
          ∃ whole : Int,
            value = .int whole ∧
              Text.SpellsInteger (Text.trim text.toList) whole ∧
              -(2 ^ 63 : Int) ≤ whole ∧ whole < 2 ^ 63 := by
  refine ⟨?_, ?_⟩
  · intro number value
    rw [coerce_number isInteger, Outcome.map_eq_ok]
    refine exists_congr fun whole => ?_
    rw [intOf_number_iff, and_comm, eq_comm]
  · intro text value
    rw [coerce_string isInteger, Outcome.map_eq_ok]
    refine exists_congr fun whole => ?_
    rw [intOf_string_iff, and_comm, eq_comm]

/-! ## The bounds of 64 bits -/

/-- The least integer of 64 bits as a floating-point number. -/
def leastFloat : Binary64 := Binary64.ofInt (-9223372036854775808)

/-- A number in the form of a floating-point number and a text with blanks are read exactly. -/
theorem integer_coercion_exact_iff_parcelNumber :
    parcelsTable.columns[0].type = .integer ∧
      coerce parcelsTable.columns[0] (.number (.float (Binary64.ofInt (-9223372036854774784)))) =
        .ok (.int (-9223372036854774784)) ∧
      coerce parcelsTable.columns[0] (.string " -9223372036854775808\n") =
        .ok (.int (-9223372036854775808)) := by
  obtain ⟨numbers, texts⟩ :=
    @integer_coercion_exact_iff parcelsTable.columns[0] rfl
  refine ⟨rfl, (numbers _ _).mpr ?_, (texts _ _).mpr ?_⟩
  · refine ⟨_, rfl, ?_, by decide, .inr (by decide)⟩
    rw [Json.Number.rational?_float_iff]
    decide +kernel
  · refine ⟨_, rfl, ?_, by decide⟩
    have trimmed :
        Text.trim " -9223372036854775808\n".toList = '-' :: "9223372036854775808".toList := by
      decide +kernel
    rw [trimmed]
    exact .minus (by decide) (List.all_eq_true.mp (by decide))

/-- The least integer of 64 bits is refused as a floating-point number. -/
theorem least_integer_not_coerced :
    (Json.NumberText.ofRun? "-9223372036854775808.0".toList).bind Json.NumberText.value? =
        some (.float leastFloat) ∧
      ¬∀ (column : Column) (number : Json.Number) (whole : Int),
        column.type = .integer →
          number.rational? = some (whole : ℚ) →
          -(2 ^ 63 : Int) ≤ whole →
          whole < 2 ^ 63 →
            coerce column (.number number) = .ok (.int whole) := by
  refine ⟨by decide +kernel, ?_⟩
  intro coerced
  have isLeast :
      (Json.Number.float leastFloat).rational? = some ((-9223372036854775808 : Int) : ℚ) := by
    rw [Json.Number.rational?_float_iff]
    decide +kernel
  have taken :=
    coerced parcelsTable.columns[0] (.float leastFloat) _ rfl isLeast (by decide) (by decide)
  rw [coerce_number rfl, Outcome.map_eq_ok] at taken
  obtain ⟨_, read, same⟩ := taken
  cases same
  rcases (intOf_number_iff.mp read).2.2 with spelled | notLeast
  · cases spelled
  · exact notLeast (by decide)

end Value

end GeoTables
