import Mathlib.Data.List.Basic
import Mathlib.Tactic.SplitIfs

/-!
# Splitting texts

A text is split at the characters that separate its parts.  The parts have no
separator in them, and parts that have none are what their join is split into.
Parts that do have separators are split further when they are joined and split
again.
-/

namespace GeoTables.Text

variable {separates : Char → Bool}

/-- The parts of a split text are made of all its characters but the separators. -/
theorem flatten_splitOnP (text : List Char) :
    (text.splitOnP separates).flatten = text.filter fun character => !separates character := by
  induction text with
  | nil => rfl
  | cons character rest induction =>
      rw [List.splitOnP_cons_eq_if_modifyHead]
      cases separated : separates character with
      | true => simp [induction, separated]
      | false =>
          obtain ⟨first, others, parts⟩ :=
            List.exists_cons_of_ne_nil (List.splitOnP_ne_nil separates rest)
          rw [List.filter_cons_of_pos (by simp [separated]), ← induction, parts]
          rfl

/-- A part of a split text has only characters of the text, and none that separates. -/
theorem mem_of_mem_splitOnP
    {text piece : List Char}
    {character : Char}
    (split : piece ∈ text.splitOnP separates)
    (inside : character ∈ piece) :
    character ∈ text ∧ separates character = false := by
  have kept := List.mem_flatten_of_mem split inside
  rw [flatten_splitOnP, List.mem_filter, Bool.not_eq_true'] at kept
  exact kept

/-- Parts that are joined by a separator are split one by one. -/
theorem splitOnP_intercalate_eq_flatMap
    {separator : Char}
    (separated : separates separator = true)
    {pieces : List (List Char)}
    (present : pieces ≠ []) :
    ([separator].intercalate pieces).splitOnP separates =
      pieces.flatMap fun piece => piece.splitOnP separates := by
  induction pieces with
  | nil => exact absurd rfl present
  | cons piece rest induction =>
      cases rest with
      | nil => simp
      | cons second others =>
          rw [List.intercalate_cons_cons, List.append_assoc, List.singleton_append,
            List.splitOnP_append_cons _ _ separated, induction (List.cons_ne_nil _ _),
            ← List.flatMap_cons]

/-- Joined parts without separators are what the join is split into. -/
theorem splitOnP_intercalate
    {separator : Char}
    (separated : separates separator = true)
    {pieces : List (List Char)}
    (present : pieces ≠ [])
    (free : ∀ piece ∈ pieces, ∀ character ∈ piece, separates character = false) :
    ([separator].intercalate pieces).splitOnP separates = pieces :=
  calc
    ([separator].intercalate pieces).splitOnP separates
        = pieces.flatMap fun piece => piece.splitOnP separates :=
      splitOnP_intercalate_eq_flatMap separated present
    _ = pieces.flatMap fun piece => [piece] :=
      List.flatMap_congr fun piece member => List.splitOnP_eq_singleton (free piece member)
    _ = pieces := List.flatMap_singleton' pieces

/-- Joined parts have no characters but their own and the separator. -/
theorem mem_of_mem_intercalate
    {separator character : Char}
    {pieces : List (List Char)}
    (member : character ∈ [separator].intercalate pieces) :
    character = separator ∨ ∃ piece ∈ pieces, character ∈ piece := by
  induction pieces with
  | nil => cases member
  | cons piece rest induction =>
      cases rest with
      | nil =>
          rw [List.intercalate_singleton] at member
          exact .inr ⟨piece, .head _, member⟩
      | cons second others =>
          rw [List.intercalate_cons_cons, List.append_assoc, List.mem_append,
            List.singleton_append, List.mem_cons] at member
          rcases member with inside | rfl | later
          · exact .inr ⟨piece, .head _, inside⟩
          · exact .inl rfl
          · rcases induction later with same | ⟨other, isOther, inside⟩
            · exact .inl same
            · exact .inr ⟨other, .tail _ isOther, inside⟩

/-- A change of characters that keeps the separators changes the parts one by one. -/
theorem splitOnP_map
    {change : Char → Char}
    (same : ∀ character, separates (change character) = separates character)
    (text : List Char) :
    (text.map change).splitOnP separates = (text.splitOnP separates).map (List.map change) := by
  induction text with
  | nil => rfl
  | cons character rest induction =>
      rw [List.map_cons, List.splitOnP_cons_eq_if_modifyHead,
        List.splitOnP_cons_eq_if_modifyHead, same, induction]
      split_ifs
      · rfl
      · cases rest.splitOnP separates <;> rfl

end GeoTables.Text
