import GeoTables.Proofs.Text.Numeral
import GeoTables.Text.Blank
import Mathlib.Data.List.TakeWhile
import Mathlib.Tactic.SplitIfs

/-!
# Texts without outer blanks

Trimming keeps a text whose first and last characters are not blank, and takes
off nothing but blanks.
-/

namespace GeoTables.Text

/-- None of the characters is blank. -/
def Visible (text : List Char) : Prop :=
  ∀ character ∈ text, isBlank character = false

instance (text : List Char) : Decidable (Visible text) :=
  List.decidableBAll (fun character => isBlank character = false) text

theorem trimLeft_eq_self
    {text : List Char}
    (starts : ∀ first ∈ text.head?, isBlank first = false) :
    trimLeft text = text := by
  cases text with
  | nil => rfl
  | cons first rest => simp [trimLeft, starts first rfl]

theorem trimRight_eq_self
    {text : List Char}
    (ends : ∀ last ∈ text.getLast?, isBlank last = false) :
    trimRight text = text := by
  rcases List.eq_nil_or_concat text with rfl | ⟨before, last, rfl⟩
  · rfl
  · rw [List.concat_eq_append] at ends ⊢
    exact trimRight_append_of_not_blank before last (ends last (by simp))

/-- A text that neither starts nor ends with a blank is trimmed already. -/
theorem trim_eq_self
    {text : List Char}
    (starts : ∀ first ∈ text.head?, isBlank first = false)
    (ends : ∀ last ∈ text.getLast?, isBlank last = false) :
    trim text = text := by
  rw [trim, trimLeft_eq_self starts, trimRight_eq_self ends]

namespace Visible

@[simp]
theorem nil : Visible [] := by
  intro character member
  cases member

@[simp]
theorem cons
    {first : Char}
    {rest : List Char} :
    Visible (first :: rest) ↔ isBlank first = false ∧ Visible rest := by
  simp [Visible]

@[simp]
theorem append
    {left right : List Char} :
    Visible (left ++ right) ↔ Visible left ∧ Visible right := by
  simp only [Visible, List.mem_append]
  constructor
  · intro visible
    exact ⟨fun character member => visible character (.inl member),
      fun character member => visible character (.inr member)⟩
  · rintro ⟨inLeft, inRight⟩ character (member | member)
    · exact inLeft character member
    · exact inRight character member

theorem trim_eq
    {text : List Char}
    (visible : Visible text) :
    trim text = text := by
  apply trim_eq_self
  · intro first isFirst
    exact visible first (List.mem_of_head? isFirst)
  · intro last isLast
    exact visible last (List.mem_of_getLast? isLast)

end Visible

/-- Digits are not blank. -/
theorem AllDigits.visible
    {text : List Char}
    (digits : AllDigits text) :
    Visible text := by
  intro character member
  have bounds := toNat_of_isDigit (digits character member)
  simp only [isBlank, Bool.or_eq_false_iff, Bool.and_eq_false_iff, decide_eq_false_iff_not,
    beq_eq_false_iff_ne]
  omega

/-- The digits of an integer and its sign are not blank. -/
theorem visible_intDigits (value : Int) : Visible (intDigits value) := by
  cases value with
  | ofNat value => exact (AllDigits.natDigits value).visible
  | negSucc value => exact Visible.cons.mpr ⟨rfl, (AllDigits.natDigits (value + 1)).visible⟩

/-! ## Outer blanks -/

/-- All of the characters are blank. -/
def AllBlank (text : List Char) : Prop :=
  ∀ character ∈ text, isBlank character = true

instance (text : List Char) : Decidable (AllBlank text) :=
  List.decidableBAll (fun character => isBlank character = true) text

/-- A character that is not blank is not among blanks. -/
theorem AllBlank.notMem
    {blanks : List Char}
    {visible : Char}
    (blank : AllBlank blanks)
    (notBlank : isBlank visible = false) :
    visible ∉ blanks := by
  intro member
  rw [blank visible member] at notBlank
  cases notBlank

theorem trimLeft_append
    {blanks : List Char}
    (blank : AllBlank blanks)
    (text : List Char) :
    trimLeft (blanks ++ text) = trimLeft text :=
  List.dropWhile_append_of_pos blank

theorem trimLeft_of_allBlank
    {blanks : List Char}
    (blank : AllBlank blanks) :
    trimLeft blanks = [] :=
  List.dropWhile_eq_nil_iff.mpr blank

theorem trimRight_of_allBlank
    {blanks : List Char}
    (blank : AllBlank blanks) :
    trimRight blanks = [] := by
  induction blanks with
  | nil => rfl
  | cons first rest induction =>
      rw [trimRight, induction fun character member => blank character (by simp [member])]
      simp [blank first (by simp)]

theorem trimRight_append
    (text : List Char)
    {blanks : List Char}
    (blank : AllBlank blanks) :
    trimRight (text ++ blanks) = trimRight text := by
  induction text with
  | nil => exact trimRight_of_allBlank blank
  | cons first rest induction => rw [List.cons_append, trimRight, trimRight, induction]

/-- Blanks in front of a text are trimmed off. -/
theorem trim_blanks_append
    {blanks : List Char}
    (blank : AllBlank blanks)
    (text : List Char) :
    trim (blanks ++ text) = trim text := by
  rw [trim, trimLeft_append blank, trim]

/-- Blanks behind a text are trimmed off. -/
theorem trim_append_blanks
    (text : List Char)
    {blanks : List Char}
    (blank : AllBlank blanks) :
    trim (text ++ blanks) = trim text := by
  rw [trim, trimLeft, List.dropWhile_append, trim, trimLeft]
  split_ifs with nothing
  · rw [List.isEmpty_iff.mp nothing, ← trimLeft, trimLeft_of_allBlank blank]
  · exact trimRight_append _ blank

theorem exists_eq_trimRight_append (text : List Char) :
    ∃ after, AllBlank after ∧ text = trimRight text ++ after := by
  induction text with
  | nil => exact ⟨[], nofun, rfl⟩
  | cons first rest induction =>
      obtain ⟨after, blank, parts⟩ := induction
      rw [trimRight]
      cases kept : trimRight rest with
      | cons next others =>
          rw [kept] at parts
          exact ⟨after, blank, congrArg (first :: ·) parts⟩
      | nil =>
          rw [kept, List.nil_append] at parts
          cases visible : isBlank first with
          | false => exact ⟨after, blank, congrArg (first :: ·) parts⟩
          | true =>
              refine ⟨first :: after, ?_, congrArg (first :: ·) parts⟩
              rintro character (_ | ⟨_, member⟩)
              · exact visible
              · exact blank character member

/-- A text is what is left after trimming, with blanks around it. -/
theorem exists_eq_append_trim (text : List Char) :
    ∃ before after, AllBlank before ∧ AllBlank after ∧ text = before ++ trim text ++ after := by
  obtain ⟨after, blank, parts⟩ := exists_eq_trimRight_append (trimLeft text)
  refine ⟨text.takeWhile isBlank, after, ?_, blank, ?_⟩
  · exact fun character member => List.mem_takeWhile_imp member
  · rw [List.append_assoc, trim, ← parts, trimLeft, List.takeWhile_append_dropWhile]

/-- Trimming adds no characters. -/
theorem mem_of_mem_trim
    {text : List Char}
    {character : Char}
    (member : character ∈ trim text) :
    character ∈ text := by
  obtain ⟨before, after, _, _, parts⟩ := exists_eq_append_trim text
  rw [parts]
  simp [member]

/-- A trimmed text has nothing to trim off. -/
@[simp]
theorem trim_trim (text : List Char) : trim (trim text) = trim text := by
  obtain ⟨before, after, blankBefore, blankAfter, parts⟩ := exists_eq_append_trim text
  conv_rhs => rw [parts, trim_append_blanks _ blankAfter, trim_blanks_append blankBefore]

@[simp]
theorem toList_trimmed (text : String) : (trimmed text).toList = trim text.toList := by
  rw [trimmed, String.toList_ofList]

@[simp]
theorem trimmed_trimmed (text : String) : trimmed (trimmed text) = trimmed text := by
  rw [trimmed, toList_trimmed, trim_trim, ← trimmed]

/-- What is trimmed off on the right first is not missed later. -/
theorem trim_trimRight (text : List Char) : trim (trimRight text) = trim text := by
  obtain ⟨after, blank, parts⟩ := exists_eq_trimRight_append text
  conv_rhs => rw [parts, trim_append_blanks _ blank]

/-- Nothing is trimmed off in front of a character that is not blank. -/
theorem trimRight_append_cons
    (left : List Char)
    {visible : Char}
    (notBlank : isBlank visible = false)
    (right : List Char) :
    trimRight (left ++ visible :: right) = left ++ visible :: trimRight right := by
  induction left with
  | nil =>
      rw [List.nil_append, trimRight, List.nil_append]
      cases trimRight right <;> simp [notBlank]
  | cons first rest induction =>
      rw [List.cons_append, trimRight, induction]
      cases rest <;> rfl

/-- A trimmed text starts with a character that is not blank. -/
theorem isBlank_head?_trim (text : List Char) :
    ∀ first ∈ (trim text).head?, isBlank first = false := by
  intro first starts
  obtain ⟨after, _, parts⟩ := exists_eq_trimRight_append (trimLeft text)
  obtain ⟨rest, form⟩ := List.head?_eq_some_iff.mp starts
  rw [← trim, form, List.cons_append] at parts
  have stops := List.head?_dropWhile_not isBlank text
  rw [← trimLeft, parts] at stops
  exact stops

end GeoTables.Text
