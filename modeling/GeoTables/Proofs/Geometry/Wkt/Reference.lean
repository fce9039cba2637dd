import GeoTables.Geometry.Wkt.Reading
import GeoTables.Proofs.Text.LetterCase

/-!
# Texts with a spatial reference

The text of a geometry may stand behind a declaration of its reference system.
The relation of this file says how a text is divided, with the blanks around the
geometry still in place; splitting a text trims them off and does nothing else.
-/

namespace GeoTables

open Text

/-- A text in which a separator is found is what stands in front of it, and what stands behind. -/
theorem Text.eq_takeWhile_append_cons
    {text inner : List Char}
    {separator other : Char}
    (found : text.dropWhile (· != separator) = other :: inner) :
    text = text.takeWhile (· != separator) ++ separator :: inner := by
  have nonempty : text.dropWhile (· != separator) ≠ [] := by simp [found]
  have stops := List.head_dropWhile_not (· != separator) nonempty
  have same : other = separator := by simpa [found] using stops
  rw [← same, ← found, same, List.takeWhile_append_dropWhile]

namespace LocatedGeometry

open Wkt

/-- The text starts, behind blanks, with the word that declares a spatial reference. -/
def DeclaresReference (text : String) : Prop :=
  isWord "SRID=" ((trim text.toList).take 5) = true

/-- The text declares a spatial reference, or none, in front of the rest. -/
inductive Divides (text : String) : Option Int → List Char → Prop where
  | plain (undeclared : ¬DeclaresReference text) : Divides text none text.toList
  | declared
      {before word reference rest : List Char}
      {srid : Int}
      (parts : text.toList = before ++ (word ++ (reference ++ ';' :: rest)))
      (blank : AllBlank before)
      (spelled : capitals word = "SRID=".toList)
      (ends : ';' ∉ reference)
      (number : signedWithin? 32 (trim reference) = some srid) :
      Divides text (some srid) rest

variable {text : String} {srid : Option Int} {body rest : List Char}

/-- A text that is split is divided, and what is left for the geometry is trimmed. -/
theorem exists_divides_of_splitReference
    (split : splitReference text = .ok (srid, body)) :
    ∃ rest, Divides text srid rest ∧ body = trim rest := by
  rw [splitReference] at split
  dsimp only at split
  split_ifs at split with declares
  · split at split
    · cases split
    · rename_i separator inner found
      split at split
      · rename_i value number
        cases split
        obtain ⟨before, after, blankBefore, blankAfter, parts⟩ := exists_eq_append_trim text.toList
        generalize trim text.toList = trimmed at declares found number parts
        have pieces := List.take_append_drop 5 trimmed
        rw [eq_takeWhile_append_cons found] at pieces
        refine ⟨inner ++ after, .declared ?_ blankBefore (beq_iff_eq.mp declares) ?_ number,
          (trim_append_blanks inner blankAfter).symm⟩
        · rw [parts]
          conv_lhs => rw [← pieces]
          simp
        · intro member
          simpa using List.mem_takeWhile_imp member
      · cases split
  · cases split
    exact ⟨text.toList, .plain declares, rfl⟩

/-- A text that is divided is split there. -/
theorem Divides.splitReference_eq
    (divides : Divides text srid rest) :
    splitReference text = .ok (srid, trim rest) := by
  cases divides with
  | plain undeclared =>
      rw [splitReference]
      exact if_neg undeclared
  | @declared before word reference rest srid parts blank spelled ends number =>
      have five : word.length = 5 := by
        rw [← List.length_map Char.toUpper, ← capitals, spelled]
        rfl
      have visible :
          ∀ first ∈ (word ++ (reference ++ ';' :: rest)).head?, isBlank first = false := by
        cases word with
        | nil => cases five
        | cons first others =>
            rintro _ ⟨⟩
            rw [← isBlank_toUpper, (List.cons.inj spelled).1]
            rfl
      have trimmed : trim text.toList = word ++ (reference ++ ';' :: trimRight rest) := by
        rw [parts, trim_blanks_append blank, trim, trimLeft_eq_self visible, ← List.append_assoc,
          trimRight_append_cons _ rfl, List.append_assoc]
      have declares : isWord "SRID=" word = true := beq_iff_eq.mpr spelled
      have passed : ∀ character ∈ reference, (character != ';') = true := by
        intro character member
        rw [bne_iff_ne]
        rintro rfl
        exact ends member
      rw [splitReference, trimmed, ← five]
      dsimp only
      rw [List.take_left, if_pos declares, List.drop_left, List.dropWhile_append_of_pos passed,
        List.dropWhile_cons_of_neg (by decide), List.takeWhile_append_of_pos passed,
        List.takeWhile_cons_of_neg (by decide), List.append_nil]
      dsimp only
      rw [number]
      dsimp only
      rw [trim_trimRight]

/-! ## The declaration -/

variable {before word reference : List Char} {other : Char}

theorem capitals_eq_of_parts
    (parts : text.toList = before ++ (word ++ (reference ++ ';' :: rest))) :
    capitals text.toList = capitals (before ++ (word ++ reference)) ++ ';' :: capitals rest := by
  rw [parts]
  simp

/-- Besides blanks and its word, a declaration has the characters of the reference only. -/
theorem not_mem_capitals_declaration
    (blank : AllBlank before)
    (spelled : capitals word = "SRID=".toList)
    (visible : isBlank other = false)
    (foreign : other ∉ "SRID=".toList)
    (lacking : other ∉ capitals reference) :
    other ∉ capitals (before ++ (word ++ reference)) := by
  rw [capitals_append, capitals_append, spelled, List.mem_append, List.mem_append]
  rintro (inBlanks | inWord | inReference)
  · rw [blank.capitals other inBlanks] at visible
    cases visible
  · exact foreign inWord
  · exact lacking inReference

/-- The declaration of a number has no separator, in capitals as little as otherwise. -/
theorem separator_not_mem_capitals (ends : ';' ∉ reference) : ';' ∉ capitals reference := by
  intro member
  obtain ⟨character, isCharacter, same⟩ := List.mem_map.mp member
  rw [toUpper_eq_iff (by decide)] at same
  exact ends (same ▸ isCharacter)

/-- A reference system is declared by blanks, digits and a sign, which are their own capitals. -/
theorem not_mem_capitals_reference
    {value : Int}
    (number : signedWithin? 32 (trim reference) = some value)
    (visible : isBlank other = false)
    (plain : other.isDigit = false ∧ other ≠ '+' ∧ other ≠ '-') :
    other ∉ capitals reference := by
  obtain ⟨front, back, blankFront, blankBack, parts⟩ := exists_eq_append_trim reference
  rw [parts, capitals_append, capitals_append, List.mem_append, List.mem_append]
  rintro ((inFront | inNumber) | inBack)
  · rw [blankFront.capitals other inFront] at visible
    cases visible
  · obtain ⟨character, isCharacter, rfl⟩ := List.mem_map.mp inNumber
    rw [isDigit_toUpper] at plain
    have read := (Option.filter_eq_some_iff.mp number).1
    rcases isDigit_or_sign_of_signed? read character isCharacter with digit | rfl | rfl
    · rw [digit] at plain
      cases plain.1
    · exact plain.2.1 rfl
    · exact plain.2.2 rfl
  · rw [blankBack.capitals other inBack] at visible
    cases visible

end LocatedGeometry

end GeoTables
