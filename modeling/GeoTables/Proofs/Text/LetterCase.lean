import GeoTables.Proofs.Text.Blank
import GeoTables.Text.Ascii

/-!
# Texts that differ in letter case

Only the 26 small letters of ASCII have a capital.  Whatever is asked of a
character has the same answer for its capital if it has for each of these; none
of them is blank or a mark, so a text is trimmed alike in capitals.
-/

namespace GeoTables.Text

/-- The letters that have a capital, counted from zero. -/
def smallLetter (index : Nat) : Char :=
  Char.ofNat (97 + index)

theorem exists_smallLetter
    {character : Char}
    (small : character.val ≥ 'a'.val ∧ character.val ≤ 'z'.val) :
    ∃ index < 26, character = smallLetter index := by
  have low : 97 ≤ character.toNat := UInt32.le_iff_toNat_le.mp small.1
  have high : character.toNat ≤ 122 := UInt32.le_iff_toNat_le.mp small.2
  refine ⟨character.toNat - 97, by omega, ?_⟩
  rw [smallLetter, Nat.add_sub_cancel' low, Char.ofNat_toNat]

theorem toUpper_eq_self_or (character : Char) :
    character.toUpper = character ∨ ∃ index < 26, character = smallLetter index := by
  by_cases small : character.val ≥ 'a'.val ∧ character.val ≤ 'z'.val
  · exact .inr (exists_smallLetter small)
  · exact .inl (dif_neg small)

/-- A capital is no small letter. -/
theorem isLower_toUpper (character : Char) : character.toUpper.isLower = false := by
  by_cases small : character.val ≥ 'a'.val ∧ character.val ≤ 'z'.val
  · obtain ⟨index, bound, rfl⟩ := exists_smallLetter small
    have letters : ∀ index < 26, (smallLetter index).toUpper.isLower = false := by decide
    exact letters index bound
  · have same : character.toUpper = character := dif_neg small
    rw [same]
    exact (Bool.decide_and _ _).symm.trans (decide_eq_false small)

/-- What is the same for each letter and its capital is so for all characters. -/
theorem apply_toUpper
    {Result : Type}
    {ask : Char → Result}
    (each : ∀ index < 26, ask (smallLetter index).toUpper = ask (smallLetter index))
    (character : Char) :
    ask character.toUpper = ask character := by
  rcases toUpper_eq_self_or character with same | ⟨index, bound, rfl⟩
  · rw [same]
  · exact each index bound

@[simp]
theorem toUpper_toUpper (character : Char) : character.toUpper.toUpper = character.toUpper :=
  apply_toUpper (by decide) character

@[simp]
theorem toLower_toUpper (character : Char) : character.toUpper.toLower = character.toLower :=
  apply_toUpper (by decide) character

@[simp]
theorem isDigit_toUpper (character : Char) : character.toUpper.isDigit = character.isDigit :=
  apply_toUpper (by decide) character

@[simp]
theorem isBlank_toUpper (character : Char) : isBlank character.toUpper = isBlank character :=
  apply_toUpper (by decide) character

/-- A digit is its own capital. -/
theorem toUpper_of_isDigit
    {character : Char}
    (digit : character.isDigit = true) :
    character.toUpper = character := by
  have letters : ∀ index < 26, (smallLetter index).isDigit = false := by decide
  rcases toUpper_eq_self_or character with same | ⟨index, bound, rfl⟩
  · exact same
  · rw [letters index bound] at digit
    cases digit

/-- A character that is no letter is the capital of itself only. -/
theorem toUpper_eq_iff
    {mark : Char}
    (foreign : ∀ index < 26, (smallLetter index).toUpper ≠ mark ∧ smallLetter index ≠ mark)
    (character : Char) :
    character.toUpper = mark ↔ character = mark := by
  rcases toUpper_eq_self_or character with same | ⟨index, bound, rfl⟩
  · rw [same]
  · exact iff_of_false (foreign index bound).1 (foreign index bound).2

/-- A text in capitals. -/
def capitals (text : List Char) : List Char :=
  text.map Char.toUpper

/-- Nothing but letter case tells the texts apart. -/
def SameLetters (left right : List Char) : Prop :=
  capitals left = capitals right

@[simp]
theorem capitals_nil : capitals [] = [] := rfl

@[simp]
theorem capitals_cons (character : Char) (rest : List Char) :
    capitals (character :: rest) = character.toUpper :: capitals rest := rfl

@[simp]
theorem capitals_append (left right : List Char) :
    capitals (left ++ right) = capitals left ++ capitals right :=
  List.map_append

@[simp]
theorem capitals_capitals (text : List Char) : capitals (capitals text) = capitals text := by
  simp [capitals]

theorem capitals_take (text : List Char) (count : Nat) :
    (capitals text).take count = capitals (text.take count) := by
  rw [capitals, capitals, List.map_take]

theorem capitals_takeWhile
    {stays : Char → Bool}
    (same : ∀ character, stays character.toUpper = stays character)
    (text : List Char) :
    (capitals text).takeWhile stays = capitals (text.takeWhile stays) := by
  rw [capitals, List.takeWhile_map, Function.comp_def, funext same, capitals]

theorem capitals_dropWhile
    {stays : Char → Bool}
    (same : ∀ character, stays character.toUpper = stays character)
    (text : List Char) :
    (capitals text).dropWhile stays = capitals (text.dropWhile stays) := by
  rw [capitals, List.dropWhile_map, Function.comp_def, funext same, capitals]

theorem trimRight_capitals (text : List Char) :
    trimRight (capitals text) = capitals (trimRight text) := by
  induction text with
  | nil => rfl
  | cons character rest induction =>
      rw [capitals_cons, trimRight, trimRight, induction]
      cases kept : trimRight rest with
      | nil => cases blank : isBlank character <;> simp [blank]
      | cons first others => simp

theorem trim_capitals (text : List Char) : trim (capitals text) = capitals (trim text) := by
  rw [trim, trimLeft, capitals_dropWhile isBlank_toUpper, trimRight_capitals, trim, trimLeft]

theorem AllBlank.capitals
    {blanks : List Char}
    (blank : AllBlank blanks) :
    AllBlank (capitals blanks) := by
  intro character member
  obtain ⟨own, isOwn, rfl⟩ := List.mem_map.mp member
  rw [isBlank_toUpper, blank own isOwn]

theorem AllDigits.capitals_eq
    {text : List Char}
    (digits : AllDigits text) :
    capitals text = text :=
  (List.map_congr_left fun _ member => toUpper_of_isDigit (digits _ member)).trans
    (List.map_id text)

theorem upperAscii_eq (text : String) : (upperAscii text).toList = capitals text.toList :=
  String.toList_ofList

end GeoTables.Text
