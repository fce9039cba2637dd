import GeoTables.Json.Outline
import GeoTables.Json.Printing
import GeoTables.Proofs.Text.Numeral
import Mathlib.Data.List.Forall2
import Mathlib.Tactic.SplitIfs

/-!
# Scanning written JSON

A piece of text scans to lexemes if, wherever it stands between lexemes and in
front of a mark or the end of the text, scanning goes on behind it as it would
with these lexemes found.  Pieces that scan can be put together to arrays and
objects, with commas and colons between them.
-/

namespace GeoTables.Json

namespace Scan

/-- The lexemes of a text, some lexemes having been found in front of it. -/
def after (before : List Lexeme) (text : List Char) : Option (List Lexeme) :=
  (text.foldlM step ⟨before, .between⟩).bind finish

/-- The text ends, or a mark comes next. -/
def Stops (text : List Char) : Prop :=
  ∀ next ∈ text.head?, (mark? next).isSome

@[simp]
theorem stops_nil : Stops [] := by
  rintro next ⟨⟩

@[simp]
theorem stops_cons
    {next : Char}
    {rest : List Char} :
    Stops (next :: rest) ↔ (mark? next).isSome := by
  simp [Stops]

/-- A mark is one of six characters. -/
theorem eq_of_mark?
    {character : Char}
    (isMark : (mark? character).isSome) :
    character = '[' ∨ character = ']' ∨ character = '\x7b' ∨ character = '\x7d' ∨
      character = ',' ∨ character = ':' := by
  unfold mark? at isMark
  split at isMark <;> simp_all

/-- A mark ends a word or a number that is finished, and is then taken itself. -/
theorem step_of_mark
    {scan : Scan}
    {found : List Lexeme}
    {next : Char}
    (inRun : (∃ run, scan.mode = .word run) ∨ ∃ run, scan.mode = .number run)
    (flushed : scan.flush = some ⟨found, .between⟩)
    (isMark : (mark? next).isSome) :
    scan.step next = (Scan.mk found .between).step next := by
  obtain ⟨lexemes, mode⟩ := scan
  rcases inRun with ⟨run, rfl⟩ | ⟨run, rfl⟩
  · have notAlpha : next.isAlpha = false := by
      rcases eq_of_mark? isMark with rfl | rfl | rfl | rfl | rfl | rfl <;> rfl
    simp [step, notAlpha, flushed]
  · have ends : continuesNumber next = false := by
      rcases eq_of_mark? isMark with rfl | rfl | rfl | rfl | rfl | rfl <;> rfl
    simp [step, ends, flushed]

/-- Scanning goes on behind a run as if the run had been ended. -/
theorem foldlM_of_flush
    {scan : Scan}
    {found : List Lexeme}
    {rest : List Char}
    (inRun : (∃ run, scan.mode = .word run) ∨ ∃ run, scan.mode = .number run)
    (flushed : scan.flush = some ⟨found, .between⟩)
    (stops : Stops rest) :
    (rest.foldlM step scan).bind finish = after found rest := by
  cases rest with
  | nil =>
      have ended : scan.finish = some found.reverse := by
        rw [finish, flushed]
        rfl
      exact ended
  | cons next others =>
      rw [stops_cons] at stops
      simp only [after, List.foldlM_cons, step_of_mark inRun flushed stops]

end Scan

open Scan (Stops)

/-- Wherever it stands, the text scans to the lexemes. -/
def Scans (text : List Char) (lexemes : List Lexeme) : Prop :=
  ∀ before rest,
    Stops rest →
    Scan.after before (text ++ rest) = Scan.after (lexemes.reverse ++ before) rest

namespace Scans

theorem lexemes?_eq
    {text : List Char}
    {lexemes : List Lexeme}
    (scans : Scans text lexemes) :
    lexemes? text = some lexemes := by
  have whole := scans [] [] Scan.stops_nil
  rw [List.append_nil, List.append_nil] at whole
  change Scan.after [] text = _
  rw [whole]
  simp [Scan.after, Scan.finish, Scan.flush]

end Scans

/-- A mark is a lexeme of its own, whatever comes after it. -/
theorem Scan.after_mark
    {before : List Lexeme}
    {mark : Char}
    {lexeme : Lexeme}
    {rest : List Char}
    (isMark : Scan.mark? mark = some lexeme) :
    Scan.after before (mark :: rest) = Scan.after (lexeme :: before) rest := by
  have taken : (Scan.mk before .between).step mark = some ⟨lexeme :: before, .between⟩ := by
    have some : (Scan.mark? mark).isSome := by simp [isMark]
    rcases Scan.eq_of_mark? some with rfl | rfl | rfl | rfl | rfl | rfl
    all_goals
      cases isMark
      rfl
  rw [Scan.after, List.foldlM_cons, taken]
  rfl

/-! ## Words and numbers -/

/-- The letters of a word become a run. -/
theorem Scan.foldlM_word
    {before : List Lexeme}
    {run letters : List Char}
    (alpha : ∀ letter ∈ letters, letter.isAlpha = true) :
    letters.foldlM step ⟨before, .word run⟩ = some ⟨before, .word (letters.reverse ++ run)⟩ := by
  induction letters generalizing run with
  | nil => rfl
  | cons letter rest induction =>
      have first : letter.isAlpha = true := alpha letter (by simp)
      have others := @induction (letter :: run)
        fun other member => alpha other (List.mem_cons_of_mem letter member)
      simp only [List.foldlM_cons, step, first, if_true, Option.bind_eq_bind, Option.bind_some,
        others, List.reverse_cons, List.append_assoc, List.singleton_append]

/-- A word that is a lexeme scans to it. -/
theorem Scans.of_word
    {first : Char}
    {rest : List Char}
    {lexeme : Lexeme}
    (begins : ∀ before, Scan.begin before first = some ⟨before, .word [first]⟩)
    (alpha : rest.all Char.isAlpha = true)
    (isWord : Scan.wordLexeme? (first :: rest) = some lexeme) :
    Scans (first :: rest) [lexeme] := by
  intro before others stops
  have run :
      (first :: rest).foldlM Scan.step ⟨before, .between⟩ =
        some ⟨before, .word (rest.reverse ++ [first])⟩ := by
    rw [List.foldlM_cons]
    change (Scan.begin before first).bind _ = _
    rw [begins]
    exact Scan.foldlM_word (List.all_eq_true.mp alpha)
  have flushed :
      (Scan.mk before (.word (rest.reverse ++ [first]))).flush =
        some ⟨lexeme :: before, .between⟩ := by
    simp [Scan.flush, isWord]
  rw [Scan.after, List.foldlM_append, run]
  exact Scan.foldlM_of_flush (.inl ⟨_, rfl⟩) flushed stops

theorem Scan.foldlM_number
    {before : List Lexeme}
    {run digits : List Char}
    (continues : ∀ digit ∈ digits, continuesNumber digit = true) :
    digits.foldlM step ⟨before, .number run⟩ =
      some ⟨before, .number (digits.reverse ++ run)⟩ := by
  induction digits generalizing run with
  | nil => rfl
  | cons digit rest induction =>
      have first : continuesNumber digit = true := continues digit (by simp)
      have others := @induction (digit :: run)
        fun other member => continues other (List.mem_cons_of_mem digit member)
      simp only [List.foldlM_cons, step, first, if_true, Option.bind_eq_bind, Option.bind_some,
        others, List.reverse_cons, List.append_assoc, List.singleton_append]

/-- A run that is spelled as a number scans to the number. -/
theorem Scans.of_number
    {first : Char}
    {rest : List Char}
    {text : NumberText}
    (begins : first.isDigit = true ∨ first = '-')
    (continues : ∀ digit ∈ rest, Scan.continuesNumber digit = true)
    (isNumber : NumberText.ofRun? (first :: rest) = some text) :
    Scans (first :: rest) [.number text] := by
  intro before others stops
  have starts : Scan.begin before first = some ⟨before, .number [first]⟩ := by
    rcases begins with digit | rfl
    · have notSpace : Scan.isSpace first = false := by
        rw [Scan.isSpace]
        simp [Text.ne_of_isDigit digit]
      have notQuote : first ≠ '"' := Text.ne_of_isDigit digit rfl
      simp [Scan.begin, notSpace, notQuote, digit]
    · rfl
  have run :
      (first :: rest).foldlM Scan.step ⟨before, .between⟩ =
        some ⟨before, .number (rest.reverse ++ [first])⟩ := by
    rw [List.foldlM_cons]
    change (Scan.begin before first).bind _ = _
    rw [starts]
    exact Scan.foldlM_number continues
  have flushed :
      (Scan.mk before (.number (rest.reverse ++ [first]))).flush =
        some ⟨.number text :: before, .between⟩ := by
    simp [Scan.flush, isNumber]
  rw [Scan.after, List.foldlM_append, run]
  exact Scan.foldlM_of_flush (.inr ⟨_, rfl⟩) flushed stops

/-! ## Strings -/

/-- The unit that a written character of a string becomes. -/
def StringUnit.ofWritten (character : Char) : StringUnit :=
  if character.toNat < 0x20 ∧ character ∉ ['\x08', '\x0c', '\n', '\r', '\t'] then
    .escaped character.toNat
  else
    .plain character

/-- A hexadecimal digit has the value it is written for. -/
theorem Scan.hexValue?_hexDigit :
    ∀ value < 16, hexValue? (hexDigit value) = some value := by
  decide

theorem Scan.step_hex
    {before : List Lexeme}
    {units : StringText}
    {unit left value : Nat}
    (digit : value < 16) :
    (Scan.mk before (.hex units unit (left + 2))).step (hexDigit value) =
      some ⟨before, .hex units (16 * unit + value) (left + 1)⟩ := by
  simp [step, hexValue?_hexDigit value digit]

theorem Scan.step_lastHex
    {before : List Lexeme}
    {units : StringText}
    {unit value : Nat}
    (digit : value < 16) :
    (Scan.mk before (.hex units unit 1)).step (hexDigit value) =
      some ⟨before, .string (.escaped (16 * unit + value) :: units)⟩ := by
  simp [step, hexValue?_hexDigit value digit]

/-- A control character is written by its number. -/
theorem Scan.foldlM_control
    {before : List Lexeme}
    {units : StringText}
    {code : Nat}
    (control : code < 0x20) :
    ['\\', 'u', '0', '0', hexDigit (code / 16), hexDigit (code % 16)].foldlM step
        ⟨before, .string units⟩ =
      some ⟨before, .string (.escaped code :: units)⟩ := by
  have high : code / 16 < 16 := by omega
  have low : code % 16 < 16 := by omega
  have opened :
      ['\\', 'u', '0', '0'].foldlM step ⟨before, .string units⟩ =
        some ⟨before, .hex units 0 2⟩ := rfl
  have number : 16 * (16 * 0 + code / 16) + code % 16 = code := by omega
  change (['\\', 'u', '0', '0'] ++ [hexDigit (code / 16), hexDigit (code % 16)]).foldlM step
    ⟨before, .string units⟩ = _
  rw [List.foldlM_append, opened]
  simp only [Option.bind_eq_bind, Option.bind_some, List.foldlM_cons, List.foldlM_nil,
    step_hex high, step_lastHex low, number]
  rfl

/-- A written character becomes its unit. -/
theorem Scan.foldlM_escapeCharacter
    (before : List Lexeme)
    (units : StringText)
    (character : Char) :
    (escapeCharacter character).foldlM step ⟨before, .string units⟩ =
      some ⟨before, .string (.ofWritten character :: units)⟩ := by
  unfold escapeCharacter
  split
  · rfl
  · rfl
  · rfl
  · rfl
  · rfl
  · rfl
  · rfl
  · rename_i notQuote notBackslash notBackspace notFeed notLine notReturn notTab
    dsimp only
    split_ifs with control
    · rw [foldlM_control control, StringUnit.ofWritten, if_pos]
      refine ⟨control, ?_⟩
      simp only [List.mem_cons, List.not_mem_nil, or_false, not_or]
      exact ⟨notBackspace, notFeed, notLine, notReturn, notTab⟩
    · have plain : StringUnit.ofWritten character = .plain character := by
        rw [StringUnit.ofWritten, if_neg]
        exact fun written => control written.1
      have taken :
          (Scan.mk before (.string units)).step character =
            some ⟨before, .string (.plain character :: units)⟩ := by
        have quote : ¬character = '"' := notQuote
        have backslash : ¬character = '\\' := notBackslash
        simp only [step, beq_iff_eq, quote, backslash, if_false, if_neg control]
      rw [plain, List.foldlM_cons, taken]
      rfl

/-- A string in quotes scans to its units. -/
theorem Scans.quoted (text : String) :
    Scans (quoted text) [.string (text.toList.map .ofWritten)] := by
  intro before rest _
  have inside :
      ∀ (characters : List Char) (units : StringText),
        (characters.flatMap escapeCharacter).foldlM Scan.step ⟨before, .string units⟩ =
          some ⟨before, .string ((characters.map StringUnit.ofWritten).reverse ++ units)⟩ := by
    intro characters
    induction characters with
    | nil =>
        intro units
        rfl
    | cons character others induction =>
        intro units
        rw [List.flatMap_cons, List.foldlM_append, Scan.foldlM_escapeCharacter]
        simp [induction]
  rw [Json.quoted, List.cons_append, List.cons_append, List.append_assoc, Scan.after,
    List.foldlM_cons]
  change (((text.toList.flatMap escapeCharacter ++ ('"' :: rest)).foldlM Scan.step
    ⟨before, .string []⟩).bind Scan.finish) = _
  rw [List.foldlM_append, inside]
  simp only [List.append_nil, Option.bind_eq_bind, Option.bind_some, List.foldlM_cons]
  change (((rest.foldlM Scan.step
    ⟨.string (text.toList.map StringUnit.ofWritten).reverse.reverse :: before, .between⟩).bind
      Scan.finish)) = _
  rw [List.reverse_reverse]
  rfl

/-! ## Arrays and objects -/

/-- Lists of lexemes with commas between them. -/
def commaJoined : List (List Lexeme) → List Lexeme
  | [] => []
  | [item] => item
  | item :: rest => item ++ .comma :: commaJoined rest

theorem commaJoined_cons_cons
    (first second : List Lexeme)
    (rest : List (List Lexeme)) :
    commaJoined (first :: second :: rest) =
      first ++ .comma :: commaJoined (second :: rest) := rfl

/-- Pieces that scan may be joined by commas, if a mark comes behind them. -/
theorem Scan.after_joined
    {texts : List (List Char)}
    {items : List (List Lexeme)}
    (each : List.Forall₂ Scans texts items)
    (before : List Lexeme)
    {rest : List Char}
    (stops : Stops rest) :
    Scan.after before (joined texts ++ rest) =
      Scan.after ((commaJoined items).reverse ++ before) rest := by
  induction each generalizing before with
  | nil => rfl
  | cons first others induction =>
      rename_i text item texts items
      cases others with
      | nil => exact first before rest stops
      | cons second further =>
          have tail := induction (.comma :: (item.reverse ++ before))
          simp only [joined, commaJoined, List.append_assoc, List.cons_append,
            List.reverse_append, List.reverse_cons, List.nil_append] at tail ⊢
          rw [first _ _ (by simp [Scan.mark?]), Scan.after_mark rfl, tail]

/-- An array scans if its items do. -/
theorem Scans.arrayOf
    {texts : List (List Char)}
    {items : List (List Lexeme)}
    (each : List.Forall₂ Scans texts items) :
    Scans (arrayOf texts) (.openArray :: commaJoined items ++ [.closeArray]) := by
  intro before rest _
  rw [Json.arrayOf, List.cons_append, List.cons_append, List.append_assoc, Scan.after_mark rfl,
    Scan.after_joined each _ (by simp [Scan.mark?]), List.singleton_append,
    Scan.after_mark rfl]
  simp

/-- An object scans if its entries do. -/
theorem Scans.objectOf
    {texts : List (List Char)}
    {entries : List (List Lexeme)}
    (each : List.Forall₂ Scans texts entries) :
    Scans (objectOf texts) (.openObject :: commaJoined entries ++ [.closeObject]) := by
  intro before rest _
  rw [Json.objectOf, List.cons_append, List.cons_append, List.append_assoc, Scan.after_mark rfl,
    Scan.after_joined each _ (by simp [Scan.mark?]), List.singleton_append,
    Scan.after_mark rfl]
  simp

/-- An entry scans if its value does. -/
theorem Scans.entry
    {value : List Char}
    {lexemes : List Lexeme}
    (scans : Scans value lexemes)
    (name : String) :
    Scans (entry name value)
      (.string (name.toList.map .ofWritten) :: .colon :: lexemes) := by
  intro before rest stops
  rw [Json.entry, List.append_assoc, Scans.quoted name before _ (by simp [Scan.mark?]),
    List.cons_append, Scan.after_mark rfl, scans _ rest stops]
  simp

end GeoTables.Json
