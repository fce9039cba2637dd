import GeoTables.Proofs.Text.LetterCase
import GeoTables.Proofs.Text.Splitting
import Mathlib.Data.List.Chain

/-!
# Words between blanks

The words of a text are its maximal runs of characters that are not blank.  How
many blanks stand between them, and which, is not seen in them.  Words that are
joined by single spaces are the words of the join, which has no other blanks.
-/

namespace GeoTables.Text

/-! ## The words of a text -/

/-- A word is not empty, and none of its characters is blank. -/
structure IsWord (word : List Char) : Prop where
  nonempty : word ≠ []
  visible : Visible word

theorem isWord_of_mem_words
    {text word : List Char}
    (member : word ∈ words text) :
    IsWord word := by
  obtain ⟨split, present⟩ := List.mem_filter.mp member
  exact ⟨by simpa using present, fun _ inside => (mem_of_mem_splitOnP split inside).2⟩

theorem mem_of_mem_words
    {text word : List Char}
    {character : Char}
    (member : word ∈ words text)
    (inside : character ∈ word) :
    character ∈ text :=
  (mem_of_mem_splitOnP (List.mem_of_mem_filter member) inside).1

@[simp]
theorem words_nil : words [] = [] := rfl

/-- A blank ends a word. -/
theorem words_append_cons
    {blank : Char}
    (isBlank : isBlank blank = true)
    (left right : List Char) :
    words (left ++ blank :: right) = words left ++ words right := by
  rw [words, List.splitOnP_append_cons left right isBlank, List.filter_append, words, words]

/-- Blanks in front of a text belong to no word. -/
theorem words_blanks_append
    {blanks : List Char}
    (blank : AllBlank blanks)
    (text : List Char) :
    words (blanks ++ text) = words text := by
  induction blanks with
  | nil => rfl
  | cons first rest induction =>
      rw [List.cons_append, ← List.nil_append (first :: _),
        words_append_cons (blank first (.head _)), words_nil, List.nil_append]
      exact induction fun character member => blank character (.tail _ member)

/-- Blanks between two texts end the words of the first. -/
theorem words_append_blanks_append
    (left : List Char)
    {blanks : List Char}
    (present : blanks ≠ [])
    (blank : AllBlank blanks)
    (right : List Char) :
    words (left ++ blanks ++ right) = words left ++ words right := by
  obtain ⟨first, rest, rfl⟩ := List.exists_cons_of_ne_nil present
  rw [List.append_assoc, List.cons_append, words_append_cons (blank first (.head _)),
    words_blanks_append fun character member => blank character (.tail _ member)]

/-- Blanks behind a text belong to no word. -/
theorem words_append_blanks
    (text : List Char)
    {blanks : List Char}
    (blank : AllBlank blanks) :
    words (text ++ blanks) = words text := by
  by_cases present : blanks = []
  · rw [present, List.append_nil]
  · simpa using words_append_blanks_append text present blank []

theorem words_capitals (text : List Char) :
    words (capitals text) = (words text).map capitals := by
  rw [words, capitals, splitOnP_map isBlank_toUpper, List.filter_map]
  congr 1
  exact List.filter_congr fun piece _ => by simp

/-- Joined texts are in capitals if the texts and the mark between them are. -/
theorem capitals_intercalate
    {mark : Char}
    (capital : mark.toUpper = mark)
    (pieces : List (List Char)) :
    capitals ([mark].intercalate pieces) = [mark].intercalate (pieces.map capitals) := by
  induction pieces with
  | nil => rfl
  | cons piece rest induction =>
      cases rest with
      | nil => simp
      | cons second others =>
          rw [List.intercalate_cons_cons, capitals_append, capitals_append, induction,
            capitals_cons, capitals_nil, capital]
          simp only [List.map_cons, List.intercalate_cons_cons]

/-! ## Words joined by spaces -/

/-- No two blanks follow each other. -/
def SingleBlanks (text : List Char) : Prop :=
  text.IsChain fun left right => isBlank left = false ∨ isBlank right = false

variable {joined : List (List Char)}

/-- Words that are joined by spaces are the words of the join. -/
theorem words_intercalate (each : ∀ word ∈ joined, IsWord word) :
    words ([' '].intercalate joined) = joined := by
  cases joined with
  | nil => rfl
  | cons word rest =>
      rw [words, splitOnP_intercalate rfl (List.cons_ne_nil _ _) fun own member =>
        (each own member).visible]
      exact List.filter_eq_self.mpr fun own member => by simpa using (each own member).nonempty

theorem intercalate_ne_nil
    {word : List Char}
    {rest : List (List Char)}
    (isWord : IsWord word) :
    [' '].intercalate (word :: rest) ≠ [] := by
  obtain ⟨first, others, rfl⟩ := List.exists_cons_of_ne_nil isWord.nonempty
  cases rest <;> simp [List.intercalate_cons_cons]

/-- The join starts with the first character of a word. -/
theorem isBlank_head?_intercalate (each : ∀ word ∈ joined, IsWord word) :
    ∀ first ∈ ([' '].intercalate joined).head?, isBlank first = false := by
  cases joined with
  | nil => exact fun first starts => nomatch starts
  | cons word rest =>
      obtain ⟨nonempty, visible⟩ := each word (.head _)
      obtain ⟨own, others, rfl⟩ := List.exists_cons_of_ne_nil nonempty
      have visibleFirst := (Visible.cons.mp visible).1
      cases rest <;> simpa [List.intercalate_cons_cons] using visibleFirst

/-- The join ends with the last character of a word. -/
theorem isBlank_getLast?_intercalate (each : ∀ word ∈ joined, IsWord word) :
    ∀ last ∈ ([' '].intercalate joined).getLast?, isBlank last = false := by
  induction joined with
  | nil => exact fun last ends => nomatch ends
  | cons word rest induction =>
      obtain ⟨isWord, others⟩ := List.forall_mem_cons.mp each
      cases rest with
      | nil =>
          rw [List.intercalate_singleton]
          exact fun last ends => isWord.visible last (List.mem_of_getLast? ends)
      | cons second further =>
          have present := @intercalate_ne_nil second further (others second (.head _))
          rw [List.intercalate_cons_cons, List.getLast?_append_of_ne_nil _ present]
          exact induction others

/-- Joined words are trimmed. -/
theorem trim_intercalate (each : ∀ word ∈ joined, IsWord word) :
    trim ([' '].intercalate joined) = [' '].intercalate joined :=
  trim_eq_self (isBlank_head?_intercalate each) (isBlank_getLast?_intercalate each)

/-- A character that is not blank separates what is in front of it from what is behind it. -/
theorem SingleBlanks.append
    {left right : List Char}
    (visible : Visible left)
    (single : SingleBlanks right) :
    SingleBlanks (left ++ right) := by
  induction left with
  | nil => exact single
  | cons first rest induction =>
      obtain ⟨visibleFirst, visibleRest⟩ := Visible.cons.mp visible
      rw [List.cons_append, SingleBlanks, List.isChain_cons]
      exact ⟨fun _ _ => .inl visibleFirst, induction visibleRest⟩

/-- There is a single space between two joined words. -/
theorem singleBlanks_intercalate (each : ∀ word ∈ joined, IsWord word) :
    SingleBlanks ([' '].intercalate joined) := by
  induction joined with
  | nil => exact .nil
  | cons word rest induction =>
      obtain ⟨isWord, others⟩ := List.forall_mem_cons.mp each
      cases rest with
      | nil =>
          rw [List.intercalate_singleton, ← List.append_nil word]
          exact .append isWord.visible .nil
      | cons second further =>
          rw [List.intercalate_cons_cons, List.append_assoc]
          refine .append isWord.visible ?_
          rw [List.singleton_append, SingleBlanks, List.isChain_cons]
          exact ⟨fun first starts => .inr (isBlank_head?_intercalate others first starts),
            induction others⟩

theorem SingleBlanks.capitals
    {text : List Char}
    (single : SingleBlanks text) :
    SingleBlanks (capitals text) := by
  rw [SingleBlanks, Text.capitals, List.isChain_map]
  simpa only [SingleBlanks, isBlank_toUpper] using single

end GeoTables.Text
