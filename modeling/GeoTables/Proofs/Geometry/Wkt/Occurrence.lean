import GeoTables.Proofs.Geometry.Wkt.LetterCase
import GeoTables.Proofs.Text.Occurrence

/-!
# Words in a text and in its tokens

A word of letters reaches neither across spaces nor across marks.  So it occurs
in a text only within a run, and if every token tells what it was read from, only
within a token that is a word itself.
-/

namespace GeoTables.Wkt

open Text

/-- The token was read from nothing in which, in capitals, the word occurs. -/
def Token.Lacks (word : List Char) : Token → Prop
  | .word name => ¬word <:+: Text.capitals name
  | .badNumber => False
  | .opening | .closing | .comma | .number _ | .stop => True

/-- The word consists of characters of runs, and not only of those of numbers. -/
structure IsLettered (word : List Char) : Prop where
  continues : word.all continuesRun = true
  letter : ∃ character ∈ word, ¬Binary64.IsNumeric character

/-- A run is a word, a number that consists of the characters of numbers, or no number. -/
theorem tokenOfRun_cases
    {run : List Char}
    {token : Token}
    (isToken : tokenOfRun run = some token) :
    token = .word run ∨ token = .badNumber ∨
      (∃ value, token = .number value) ∧ ∀ character ∈ run, Binary64.IsNumeric character := by
  cases run with
  | nil => cases isToken
  | cons first rest =>
      rw [tokenOfRun] at isToken
      split at isToken
      · split at isToken
        · rename_i value read
          cases isToken
          refine .inr (.inr ⟨⟨value, rfl⟩, ?_⟩)
          have numeric := Binary64.isNumeric_of_ofText? read
          split at numeric
          · rename_i plus
            rintro character (_ | ⟨_, member⟩)
            · rw [beq_iff_eq.mp plus]
              exact .inr (by decide)
            · exact numeric character member
          · exact numeric
        · cases isToken
          exact .inr (.inl rfl)
      · cases isToken
        exact .inl rfl

variable {word : List Char}

namespace IsLettered

/-- A character that ends a run is not one of the word, nor is its capital. -/
theorem toUpper_not_mem
    (lettered : IsLettered word)
    {character : Char}
    (ends : continuesRun character = false) :
    character.toUpper ∉ word := by
  intro member
  have continues := List.all_eq_true.mp lettered.continues _ member
  rw [continuesRun, isSpace_toUpper, mark?_toUpper, ← continuesRun, ends] at continues
  cases continues

/-- The word does not occur in a run of which the token lacks it. -/
theorem not_infix_run
    (lettered : IsLettered word)
    {run : List Char}
    (lacks : ∀ token ∈ (tokenOfRun run).toList, token.Lacks word) :
    ¬word <:+: capitals run := by
  obtain ⟨letter, inWord, notNumeric⟩ := lettered.letter
  cases run with
  | nil => exact not_infix_of_not_mem inWord nofun
  | cons first rest =>
      obtain ⟨token, isToken⟩ := Option.isSome_iff_exists.mp (isSome_tokenOfRun first rest)
      have own := lacks token (by simp [isToken])
      rcases tokenOfRun_cases isToken with rfl | rfl | ⟨⟨value, rfl⟩, numeric⟩
      · exact own
      · exact own.elim
      · refine not_infix_of_not_mem inWord fun member => notNumeric ?_
        obtain ⟨character, inRun, rfl⟩ := List.mem_map.mp member
        have isNumeric := numeric character inRun
        rwa [Binary64.IsNumeric, isDigit_toUpper, toLower_toUpper]

/-- The word occurs nowhere in a text of which all tokens lack it. -/
theorem not_infix_of_tokensAfter
    (lettered : IsLettered word)
    {run text : List Char}
    (lacks : ∀ token ∈ tokensAfter run text, token.Lacks word) :
    ¬word <:+: capitals (run.reverse ++ text) := by
  induction text generalizing run with
  | nil =>
      rw [List.append_nil]
      exact lettered.not_infix_run lacks
  | cons character rest induction =>
      -- The text is divided where the character ends the run, and then the word is in neither half.
      have divided
          (ends : continuesRun character = false)
          (before : ∀ token ∈ (tokenOfRun run.reverse).toList, token.Lacks word)
          (after : ∀ token ∈ tokensAfter [] rest, token.Lacks word) :
          ¬word <:+: capitals (run.reverse ++ character :: rest) := by
        rw [capitals_append, capitals_cons, infix_append_cons_iff (lettered.toUpper_not_mem ends)]
        exact not_or.mpr ⟨lettered.not_infix_run before, induction after⟩
      rw [tokensAfter] at lacks
      split at lacks
      · rename_i space
        exact divided (by simp [continuesRun, space])
          (fun token member => lacks token (List.mem_append_left _ member))
          (fun token member => lacks token (List.mem_append_right _ member))
      · split at lacks
        · rename_i mark isMark
          exact divided (by simp [continuesRun, isMark])
            (fun token member => lacks token (List.mem_append_left _ member))
            (fun token member =>
              lacks token (List.mem_append_right _ (List.mem_cons_of_mem mark member)))
        · have further := induction lacks
          rwa [List.reverse_cons, List.append_assoc, List.singleton_append] at further

theorem not_infix_of_tokens
    (lettered : IsLettered word)
    {text : List Char}
    (lacks : ∀ token ∈ tokens text, token.Lacks word) :
    ¬word <:+: capitals text :=
  lettered.not_infix_of_tokensAfter lacks

end IsLettered

end GeoTables.Wkt
