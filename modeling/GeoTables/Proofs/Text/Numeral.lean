import GeoTables.Text.Numeral
import Mathlib.Data.List.Basic
import Mathlib.Tactic.IntervalCases

/-!
# Numerals that are written and read

The digits of a number are digits, do not start with a zero unless the number
is zero, and have the number as their value.  Zeros in front of a numeral do
not count, and zeros behind it multiply its value by powers of ten.
-/

namespace GeoTables.Text

/-- All characters are digits. -/
def AllDigits (text : List Char) : Prop :=
  ∀ character ∈ text, character.isDigit = true

namespace AllDigits

@[simp]
theorem nil : AllDigits [] := by
  intro character member
  cases member

@[simp]
theorem cons
    {first : Char}
    {rest : List Char} :
    AllDigits (first :: rest) ↔ first.isDigit = true ∧ AllDigits rest := by
  simp [AllDigits]

@[simp]
theorem append
    {left right : List Char} :
    AllDigits (left ++ right) ↔ AllDigits left ∧ AllDigits right := by
  simp only [AllDigits, List.mem_append]
  constructor
  · intro digits
    exact ⟨fun character member => digits character (.inl member),
      fun character member => digits character (.inr member)⟩
  · rintro ⟨inLeft, inRight⟩ character (member | member)
    · exact inLeft character member
    · exact inRight character member

@[simp]
theorem zeros (count : Nat) : AllDigits (List.replicate count '0') := by
  intro character member
  obtain rfl := List.eq_of_mem_replicate member
  rfl

theorem natDigits (value : Nat) : AllDigits (natDigits value) :=
  fun _ member => Nat.isDigit_of_mem_toDigits (by decide) (by decide) member

theorem paddedDigits (width value : Nat) : AllDigits (paddedDigits width value) := by
  rw [Text.paddedDigits, append]
  exact ⟨zeros _, natDigits value⟩

theorem take
    {text : List Char}
    (digits : AllDigits text)
    (count : Nat) :
    AllDigits (text.take count) :=
  fun character member => digits character (List.mem_of_mem_take member)

theorem drop
    {text : List Char}
    (digits : AllDigits text)
    (count : Nat) :
    AllDigits (text.drop count) :=
  fun character member => digits character (List.mem_of_mem_drop member)

/-- The digits at the start of a text end where something else begins. -/
theorem takeWhile_append
    {digits rest : List Char}
    (all : AllDigits digits)
    (stops : ∀ character ∈ rest.head?, character.isDigit = false) :
    (digits ++ rest).takeWhile Char.isDigit = digits := by
  rw [List.takeWhile_append_of_pos all]
  cases rest with
  | nil => simp
  | cons next _ => simp [stops next rfl]

theorem dropWhile_append
    {digits rest : List Char}
    (all : AllDigits digits)
    (stops : ∀ character ∈ rest.head?, character.isDigit = false) :
    (digits ++ rest).dropWhile Char.isDigit = rest := by
  rw [List.dropWhile_append_of_pos all]
  cases rest with
  | nil => rfl
  | cons next _ => simp [stops next rfl]

theorem all_eq_true
    {text : List Char}
    (digits : AllDigits text) :
    text.all Char.isDigit = true :=
  List.all_eq_true.mpr digits

end AllDigits

/-- The codes of the digits. -/
theorem toNat_of_isDigit
    {character : Char}
    (digit : character.isDigit = true) :
    48 ≤ character.toNat ∧ character.toNat ≤ 57 :=
  Char.isDigit_iff_toNat.mp digit

/-- No digit is a character whose code is not that of a digit. -/
theorem ne_of_isDigit
    {character other : Char}
    (digit : character.isDigit = true)
    (otherwise : other.isDigit = false) :
    character ≠ other := by
  rintro rfl
  rw [otherwise] at digit
  cases digit

theorem toLower_of_isDigit
    {character : Char}
    (digit : character.isDigit = true) :
    character.toLower = character := by
  have bounds := toNat_of_isDigit digit
  have upper : 'A'.val.toNat = 65 := rfl
  refine dif_neg ?_
  rintro ⟨above, _⟩
  rw [ge_iff_le, UInt32.le_iff_toNat_le, upper] at above
  have small : character.val.toNat ≤ 57 := bounds.2
  omega

/-! ## Values -/

@[simp]
theorem digitsValue_nil (soFar : Nat) : digitsValue soFar [] = soFar := rfl

theorem digitsValue_cons
    (soFar : Nat)
    (digit : Char)
    (rest : List Char) :
    digitsValue soFar (digit :: rest) =
      digitsValue (10 * soFar + digitValue digit) rest := by
  rw [digitsValue, digitsValue, List.foldl_cons]

theorem digitsValue_append
    (soFar : Nat)
    (left right : List Char) :
    digitsValue soFar (left ++ right) = digitsValue (digitsValue soFar left) right :=
  List.foldl_append

/-- The value of digits is the library's. -/
theorem digitsValue_eq_ofDigitChars
    (soFar : Nat)
    (digits : List Char) :
    digitsValue soFar digits = Nat.ofDigitChars 10 digits soFar := by
  simp [digitsValue, digitValue, Nat.ofDigitChars_eq_foldl]

@[simp]
theorem digitsValue_natDigits (value : Nat) : digitsValue 0 (natDigits value) = value := by
  rw [digitsValue_eq_ofDigitChars, natDigits, Nat.ofDigitChars_ten_toDigits]

/-- Zeros in front of a numeral do not count. -/
theorem digitsValue_zeros
    (count : Nat)
    (digits : List Char) :
    digitsValue 0 (List.replicate count '0' ++ digits) = digitsValue 0 digits := by
  rw [digitsValue_append, digitsValue_eq_ofDigitChars 0 (List.replicate count '0'),
    Nat.ofDigitChars_replicate_zero, Nat.mul_zero]

/-- Zeros behind a numeral are powers of ten. -/
theorem digitsValue_append_zeros
    (digits : List Char)
    (count : Nat) :
    digitsValue 0 (digits ++ List.replicate count '0') =
      digitsValue 0 digits * 10 ^ count := by
  rw [digitsValue_append, digitsValue_eq_ofDigitChars _ (List.replicate count '0'),
    Nat.ofDigitChars_replicate_zero, Nat.mul_comm]

@[simp]
theorem digitsValue_paddedDigits
    (width value : Nat) :
    digitsValue 0 (paddedDigits width value) = value := by
  rw [paddedDigits, digitsValue_zeros, digitsValue_natDigits]

/-! ## Shapes -/

theorem natDigits_ne_nil (value : Nat) : natDigits value ≠ [] :=
  Nat.toDigits_ne_nil

theorem length_natDigits_pos (value : Nat) : 0 < (natDigits value).length :=
  Nat.length_toDigits_pos

/-- A number has at most as many digits as the power of ten above it has zeros. -/
theorem length_natDigits_le_iff
    {value width : Nat}
    (positive : 0 < width) :
    (natDigits value).length ≤ width ↔ value < 10 ^ width :=
  Nat.length_toDigits_le_iff (by decide) positive

/-- A positive number has its leading digit at the power of ten below it. -/
theorem pow_le_of_natDigits
    {value : Nat}
    (positive : 0 < value) :
    10 ^ ((natDigits value).length - 1) ≤ value := by
  by_contra below
  have digits := length_natDigits_pos value
  have shorter : value < 10 ^ ((natDigits value).length - 1) := by omega
  rcases Nat.eq_zero_or_pos ((natDigits value).length - 1) with single | several
  · rw [single] at shorter
    omega
  · have bound := (length_natDigits_le_iff several).mpr shorter
    omega

theorem lt_pow_natDigits (value : Nat) : value < 10 ^ (natDigits value).length :=
  (length_natDigits_le_iff (length_natDigits_pos value)).mp (Nat.le_refl _)

/-- Padding gives a number that fits exactly the width. -/
theorem length_paddedDigits
    {width value : Nat}
    (positive : 0 < width)
    (fits : value < 10 ^ width) :
    (paddedDigits width value).length = width := by
  have short := (length_natDigits_le_iff positive).mpr fits
  rw [paddedDigits, List.length_append, List.length_replicate]
  omega

theorem paddedDigits_ne_nil (width value : Nat) : paddedDigits width value ≠ [] := by
  simp [paddedDigits, natDigits_ne_nil]

/-- The digits of a number are those of its tenth and its last digit. -/
theorem natDigits_of_ten_le
    {value : Nat}
    (several : 10 ≤ value) :
    natDigits value = natDigits (value / 10) ++ [Nat.digitChar (value % 10)] :=
  Nat.toDigits_of_base_le (by decide) several

/-- Only zero is written with a zero in front. -/
theorem head?_natDigits
    {value : Nat}
    (positive : 0 < value) :
    (natDigits value).head? ≠ some '0' := by
  induction value using Nat.strongRecOn with
  | ind value induction =>
      by_cases single : value < 10
      · rw [natDigits, Nat.toDigits_of_lt_base single]
        interval_cases value <;> decide
      · rw [natDigits_of_ten_le (by omega),
          List.head?_append_of_ne_nil _ (natDigits_ne_nil _)]
        exact induction (value / 10) (by omega) (by omega)

/-! ## Numerals that are read -/

theorem numeral?_natDigits (value : Nat) : numeral? (natDigits value) = some value := by
  rw [numeral?, (AllDigits.natDigits value).all_eq_true, digitsValue_natDigits]
  simp [natDigits_ne_nil]

/-- The digits of a number start with a digit. -/
theorem exists_natDigits_eq_cons (value : Nat) :
    ∃ first rest, natDigits value = first :: rest ∧ first.isDigit = true := by
  obtain ⟨first, rest, form⟩ := List.exists_cons_of_ne_nil (natDigits_ne_nil value)
  exact ⟨first, rest, form, AllDigits.natDigits value first (by simp [form])⟩

/-- A number is read back from its digits. -/
theorem unsigned?_natDigits (value : Nat) : unsigned? (natDigits value) = some value := by
  obtain ⟨first, rest, form, digit⟩ := exists_natDigits_eq_cons value
  have notPlus : first ≠ '+' := ne_of_isDigit digit rfl
  rw [← numeral?_natDigits, form]
  simp [unsigned?, notPlus]

/-- An integer is read back from its digits. -/
theorem signed?_intDigits (value : Int) : signed? (intDigits value) = some value := by
  cases value with
  | ofNat value =>
      obtain ⟨first, rest, form, digit⟩ := exists_natDigits_eq_cons value
      have notPlus : first ≠ '+' := ne_of_isDigit digit rfl
      have notMinus : first ≠ '-' := ne_of_isDigit digit rfl
      have read : numeral? (first :: rest) = some value := form ▸ numeral?_natDigits value
      rw [intDigits, form]
      simp [signed?, notPlus, notMinus, read]
  | negSucc value =>
      simp only [intDigits, signed?, numeral?_natDigits]
      rfl

/-! ## Characters of numerals -/

theorem allDigits_of_numeral?
    {text : List Char}
    {value : Nat}
    (read : numeral? text = some value) :
    AllDigits text := by
  rw [numeral?] at read
  split at read
  · rename_i digits
    rw [Bool.and_eq_true, List.all_eq_true] at digits
    exact digits.2
  · cases read

/-- A signed numeral has no other characters than digits and a sign. -/
theorem isDigit_or_sign_of_signed?
    {text : List Char}
    {value : Int}
    (read : signed? text = some value) :
    ∀ character ∈ text, character.isDigit = true ∨ character = '+' ∨ character = '-' := by
  unfold signed? at read
  split at read
  all_goals
    obtain ⟨_, digits, _⟩ := Option.map_eq_some_iff.mp read
    have all := allDigits_of_numeral? digits
  · rintro character (_ | ⟨_, member⟩)
    · exact .inr (.inl rfl)
    · exact .inl (all character member)
  · rintro character (_ | ⟨_, member⟩)
    · exact .inr (.inr rfl)
    · exact .inl (all character member)
  · exact fun character member => .inl (all character member)

end GeoTables.Text
