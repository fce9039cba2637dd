import GeoTables.Proofs.Text.Words
import GeoTables.Table.StoreType

/-!
# The canonical text of a store type

Whatever a text is, the type that is read from it has a base name of words in
capitals with single spaces between them, and arguments that could stand between
commas.  Written down again, base name first and arguments in parentheses behind it,
it is read as the same type.  So each type that is read has one canonical text.
-/

namespace GeoTables.StoreType

open Text

/-! ## The parts of a text -/

/-- What stands in front of the first opening parenthesis. -/
def head (text : List Char) : List Char :=
  text.takeWhile (· != '(')

/-- What stands behind it, up to the next closing one. -/
def inner (text : List Char) : List Char :=
  ((text.dropWhile (· != '(')).drop 1).takeWhile (· != ')')

/-- The store type in the characters of a text. -/
def read (text : List Char) : StoreType where
  base := baseOf (head text)
  arguments := argumentsOf (inner text)

theorem ofText_eq (text : String) : ofText text = read text.toList := rfl

/-- The arguments that the pieces between commas are, if anything is left of them. -/
def kept (pieces : List (List Char)) : List String :=
  ((pieces.map trim).filter fun argument => !argument.isEmpty).map String.ofList

theorem argumentsOf_eq (text : List Char) :
    argumentsOf text = kept (text.splitOnP (· == ',')) := rfl

/-- A rest that a mark starts, if anything does. -/
def StartsWith (mark : Char) (rest : List Char) : Prop :=
  ∀ first ∈ rest.head?, first = mark

theorem startsWith_cons (mark : Char) (others : List Char) :
    StartsWith mark (mark :: others) := by
  rintro first ⟨⟩
  rfl

/-- A text with an opening parenthesis behind the base and commas between the pieces. -/
def assemble (base : List Char) (pieces : List (List Char)) (rest : List Char) : List Char :=
  base ++ '(' :: ([','].intercalate pieces ++ rest)

variable {base rest : List Char} {pieces : List (List Char)}

theorem takeWhile_append_of_notMem
    {mark : Char}
    {before : List Char}
    (outside : mark ∉ before)
    (after : List Char) :
    (before ++ after).takeWhile (· != mark) = before ++ after.takeWhile (· != mark) := by
  refine List.takeWhile_append_of_pos fun character member => ?_
  simpa using ne_of_mem_of_not_mem member outside

theorem takeWhile_of_startsWith
    {mark : Char}
    (starts : StartsWith mark rest) :
    rest.takeWhile (· != mark) = [] := by
  cases rest with
  | nil => rfl
  | cons first others => simp [starts first rfl]

/-- A text without an opening parenthesis in front of another one belongs to the base. -/
theorem read_append
    {before : List Char}
    (outside : '(' ∉ before)
    (after : List Char) :
    read (before ++ after) = ⟨baseOf (before ++ head after), argumentsOf (inner after)⟩ := by
  have passed : (before ++ after).dropWhile (· != '(') = after.dropWhile (· != '(') := by
    refine List.dropWhile_append_of_pos fun character member => ?_
    simpa using ne_of_mem_of_not_mem member outside
  rw [read, head, takeWhile_append_of_notMem outside, inner, passed, head, inner]

theorem argumentsOf_intercalate (free : ∀ piece ∈ pieces, ',' ∉ piece) :
    argumentsOf ([','].intercalate pieces) = kept pieces := by
  cases pieces with
  | nil => rfl
  | cons piece others =>
      rw [argumentsOf_eq, splitOnP_intercalate rfl (List.cons_ne_nil _ _)]
      intro own member character inside
      simpa using ne_of_mem_of_not_mem inside (free own member)

/-- An assembled text has its own base and pieces. -/
theorem read_assemble
    (outside : '(' ∉ base)
    (free : ∀ piece ∈ pieces, ',' ∉ piece ∧ ')' ∉ piece)
    (ends : StartsWith ')' rest) :
    read (assemble base pieces rest) = ⟨baseOf base, kept pieces⟩ := by
  have unclosed : ')' ∉ [','].intercalate pieces := by
    intro closes
    rcases mem_of_mem_intercalate closes with same | ⟨piece, member, inside⟩
    · cases same
    · exact (free piece member).2 inside
  have behind : inner ('(' :: ([','].intercalate pieces ++ rest)) = [','].intercalate pieces := by
    change ([','].intercalate pieces ++ rest).takeWhile (· != ')') = _
    rw [takeWhile_append_of_notMem unclosed, takeWhile_of_startsWith ends, List.append_nil]
  have opened : head ('(' :: ([','].intercalate pieces ++ rest)) = [] := rfl
  rw [assemble, read_append outside, opened, behind, List.append_nil,
    argumentsOf_intercalate fun piece member => (free piece member).1]

/-! ## Base names -/

theorem toList_baseOf (text : List Char) :
    (baseOf text).toList = capitals ([' '].intercalate (words text)) := by
  rw [baseOf, upperAscii_eq, String.toList_ofList]

/-- Only the words of a text count for its base name. -/
theorem baseOf_congr
    {left right : List Char}
    (same : words left = words right) :
    baseOf left = baseOf right := by
  rw [baseOf, same, baseOf]

/-- The letter case of a text does not count for its base name. -/
theorem baseOf_capitals (text : List Char) : baseOf (capitals text) = baseOf text := by
  rw [← String.toList_inj, toList_baseOf, toList_baseOf, words_capitals,
    ← capitals_intercalate rfl, capitals_capitals]

/-- A base name is its own base name. -/
theorem baseOf_baseOf (text : List Char) : baseOf (baseOf text).toList = baseOf text := by
  rw [toList_baseOf, baseOf_capitals]
  exact baseOf_congr (words_intercalate fun word => isWord_of_mem_words)

/-- A base name is made of characters of its text, in capitals, and of spaces. -/
theorem exists_of_mem_baseOf
    {text : List Char}
    {character : Char}
    (member : character ∈ (baseOf text).toList) :
    ∃ own, (own = ' ' ∨ own ∈ text) ∧ character = own.toUpper := by
  rw [toList_baseOf] at member
  obtain ⟨own, joined, rfl⟩ := List.mem_map.mp member
  refine ⟨own, ?_, rfl⟩
  rcases mem_of_mem_intercalate joined with space | ⟨word, isWord, inside⟩
  · exact .inl space
  · exact .inr (mem_of_mem_words isWord inside)

/-- A mark that is no letter is in a base name only if it is in its text. -/
theorem notMem_baseOf
    {text : List Char}
    {mark : Char}
    (foreign : ∀ index < 26, (smallLetter index).toUpper ≠ mark ∧ smallLetter index ≠ mark)
    (notSpace : mark ≠ ' ')
    (outside : mark ∉ text) :
    mark ∉ (baseOf text).toList := by
  intro member
  obtain ⟨own, from_, same⟩ := exists_of_mem_baseOf member
  rw [eq_comm, toUpper_eq_iff foreign] at same
  rcases from_ with space | inside
  · exact notSpace (same ▸ space)
  · exact outside (same ▸ inside)

/-! ## Canonical types -/

/-- A text that can stand for an argument between commas. -/
structure IsArgument (argument : List Char) : Prop where
  nonempty : argument ≠ []
  trimmed : trim argument = argument
  noComma : ',' ∉ argument
  noClosing : ')' ∉ argument

/-- A type whose base name and arguments can be told apart in one way of writing them. -/
structure IsCanonical (type : StoreType) : Prop where
  trimmed : trim type.base.toList = type.base.toList
  single : SingleBlanks type.base.toList
  capital : ∀ character ∈ type.base.toList, character.isLower = false
  noOpening : '(' ∉ type.base.toList
  arguments : ∀ argument ∈ type.arguments, IsArgument argument.toList

theorem notMem_takeWhile (mark : Char) (text : List Char) :
    mark ∉ text.takeWhile (· != mark) := by
  intro member
  simpa using List.mem_takeWhile_imp member

theorem isArgument_of_mem_argumentsOf
    {text : List Char}
    (unclosed : ')' ∉ text)
    {argument : String}
    (member : argument ∈ argumentsOf text) :
    IsArgument argument.toList := by
  obtain ⟨own, left, rfl⟩ := List.mem_map.mp member
  obtain ⟨trimmed, present⟩ := List.mem_filter.mp left
  obtain ⟨piece, split, rfl⟩ := List.mem_map.mp trimmed
  rw [String.toList_ofList]
  refine ⟨by simpa using present, trim_trim piece, fun comma => ?_, fun closes => ?_⟩
  · cases (mem_of_mem_splitOnP split (mem_of_mem_trim comma)).2
  · exact unclosed (mem_of_mem_splitOnP split (mem_of_mem_trim closes)).1

/-- Every text is read as a canonical type. -/
theorem isCanonical_read (text : List Char) : (read text).IsCanonical where
  trimmed := by
    rw [read, toList_baseOf, trim_capitals,
      trim_intercalate fun word => isWord_of_mem_words]
  single := by
    rw [read, toList_baseOf]
    exact (singleBlanks_intercalate fun word => isWord_of_mem_words).capitals
  capital := by
    intro character member
    obtain ⟨own, _, rfl⟩ := exists_of_mem_baseOf member
    exact isLower_toUpper own
  noOpening := notMem_baseOf (by decide) (by decide) (notMem_takeWhile '(' text)
  arguments := fun _ => isArgument_of_mem_argumentsOf (notMem_takeWhile ')' _)

/-! ## Canonical texts -/

/-- The base name, and the arguments in parentheses behind it if there are any. -/
def text (type : StoreType) : String :=
  if type.arguments = [] then
    type.base
  else
    type.base ++ "(" ++ ",".intercalate type.arguments ++ ")"

theorem toList_text
    {type : StoreType}
    (present : type.arguments ≠ []) :
    type.text.toList =
      assemble type.base.toList (type.arguments.map String.toList) [')'] := by
  have joined :
      (",".intercalate type.arguments).toList =
        [','].intercalate (type.arguments.map String.toList) :=
    String.toList_intercalate
  rw [text, if_neg present, assemble]
  simp [joined]

/-- Arguments are what is left of them when they are read. -/
theorem kept_arguments
    {arguments : List String}
    (each : ∀ argument ∈ arguments, IsArgument argument.toList) :
    kept (arguments.map String.toList) = arguments := by
  have trimmed : (arguments.map String.toList).map trim = arguments.map String.toList := by
    rw [List.map_map]
    exact List.map_congr_left fun argument member => (each argument member).trimmed
  have whole :
      ((arguments.map String.toList).filter fun argument => !argument.isEmpty) =
        arguments.map String.toList := by
    refine List.filter_eq_self.mpr fun own member => ?_
    obtain ⟨argument, isArgument, rfl⟩ := List.mem_map.mp member
    simpa using (each argument isArgument).nonempty
  rw [kept, trimmed, whole, List.map_map]
  exact (List.map_congr_left fun _ _ => String.ofList_toList).trans (List.map_id _)

/-- A canonical type with a base name of its own is read from its text. -/
theorem read_text
    {type : StoreType}
    (canonical : type.IsCanonical)
    (own : baseOf type.base.toList = type.base) :
    ofText type.text = type := by
  rw [ofText_eq]
  by_cases present : type.arguments = []
  · have whole := read_append canonical.noOpening []
    have nothing : head [] = [] ∧ inner [] = [] ∧ argumentsOf [] = [] := by decide
    rw [List.append_nil, nothing.1, List.append_nil, own, nothing.2.1, nothing.2.2,
      ← present] at whole
    rw [text, if_pos present, whole]
  · rw [toList_text present, read_assemble canonical.noOpening, own,
      kept_arguments canonical.arguments]
    · intro piece member
      obtain ⟨argument, isArgument, rfl⟩ := List.mem_map.mp member
      have given := canonical.arguments argument isArgument
      exact ⟨given.noComma, given.noClosing⟩
    · exact startsWith_cons ')' []

/-- The canonical text of what is read from a text is read as the same. -/
theorem ofText_text_ofText (typeText : String) :
    ofText (ofText typeText).text = ofText typeText :=
  read_text (isCanonical_read typeText.toList) (baseOf_baseOf _)

end GeoTables.StoreType
