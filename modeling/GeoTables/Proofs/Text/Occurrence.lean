import GeoTables.Proofs.Text.Blank
import Mathlib.Data.List.Infix

/-!
# Where words occur

A word does not reach across a character that it does not contain: it occurs in
a text exactly if it occurs on one side of such a character.  So a word without
blanks occurs in a text, or stands at its start, as it does after trimming.
-/

namespace GeoTables.Text

variable {word left right text : List Char}

/-- A word occurs beside a character that it does not contain. -/
theorem infix_append_cons_iff
    {separator : Char}
    (foreign : separator ∉ word) :
    word <:+: left ++ separator :: right ↔ word <:+: left ∨ word <:+: right := by
  rw [List.infix_append_iff, List.infix_cons_iff, List.prefix_cons_iff]
  constructor
  · rintro (inLeft | ((rfl | ⟨rest, rfl, _⟩) | inRight) | ⟨front, back, rfl, isSuffix, isPrefix⟩)
    · exact .inl inLeft
    · exact .inl List.nil_infix
    · simp at foreign
    · exact .inr inRight
    · rcases List.prefix_cons_iff.mp isPrefix with rfl | ⟨rest, rfl, _⟩
      · exact .inl (by simpa using isSuffix.isInfix)
      · simp at foreign
  · rintro (inLeft | inRight)
    · exact .inl inLeft
    · exact .inr (.inl (.inr inRight))

/-- A word does not occur among characters of which it needs another one. -/
theorem not_infix_of_not_mem
    {character : Char}
    (needed : character ∈ word)
    (lacking : character ∉ text) :
    ¬word <:+: text :=
  fun occurs => lacking (occurs.subset needed)

/-- Characters that a word does not contain make no difference in front of a text. -/
theorem infix_append_iff_of_foreign
    {foreign : List Char}
    (each : ∀ character ∈ foreign, character ∉ word) :
    word <:+: foreign ++ text ↔ word <:+: text := by
  induction foreign with
  | nil => rfl
  | cons first rest induction =>
      have further := induction fun character member => each character (by simp [member])
      have apart : word <:+: [] ++ first :: (rest ++ text) ↔ _ :=
        infix_append_cons_iff (each first (by simp))
      rw [List.cons_append, ← List.nil_append (first :: _), apart, further]
      exact or_iff_right_of_imp fun nothing => nothing.trans List.nil_infix

/-- Characters that a word does not contain make no difference behind a text. -/
theorem infix_append_iff_of_foreign_after
    {foreign : List Char}
    (each : ∀ character ∈ foreign, character ∉ word) :
    word <:+: text ++ foreign ↔ word <:+: text := by
  rw [← List.reverse_infix, List.reverse_append, infix_append_iff_of_foreign, List.reverse_infix]
  simpa using each

/-- A word stands in front of such characters as it stands at the start of the text before them. -/
theorem prefix_append_iff_of_foreign_after
    {foreign : List Char}
    (each : ∀ character ∈ foreign, character ∉ word) :
    word <+: text ++ foreign ↔ word <+: text := by
  refine ⟨fun starts => ?_, fun starts => starts.trans (List.prefix_append text foreign)⟩
  rcases List.prefix_or_prefix_of_prefix starts (List.prefix_append text foreign) with
    own | ⟨rest, rfl⟩
  · exact own
  · have inside := (List.prefix_append_right_inj text).mp starts
    cases rest with
    | nil => simp
    | cons first others =>
        exact absurd (by simp) (each first (inside.subset (by simp)))

theorem Visible.not_mem_of_allBlank
    (visible : Visible word)
    {blanks : List Char}
    (blank : AllBlank blanks) :
    ∀ character ∈ blanks, character ∉ word := by
  intro character member inWord
  have notBlank := visible character inWord
  rw [blank character member] at notBlank
  cases notBlank

/-- A word without blanks occurs in a text as it does in the trimmed one. -/
theorem Visible.infix_trim_iff (visible : Visible word) :
    word <:+: trim text ↔ word <:+: text := by
  obtain ⟨before, after, blankBefore, blankAfter, parts⟩ := exists_eq_append_trim text
  conv_rhs => rw [parts]
  rw [infix_append_iff_of_foreign_after (visible.not_mem_of_allBlank blankAfter),
    infix_append_iff_of_foreign (visible.not_mem_of_allBlank blankBefore)]

/-- A word without blanks starts a text as it does the trimmed one. -/
theorem Visible.prefix_trim_iff (visible : Visible word) :
    word <+: trim text ↔ word <+: trimLeft text := by
  obtain ⟨after, blank, parts⟩ := exists_eq_trimRight_append (trimLeft text)
  conv_rhs => rw [parts]
  rw [trim, prefix_append_iff_of_foreign_after (visible.not_mem_of_allBlank blank)]

end GeoTables.Text
