import GeoTables.Proofs.Number.LetterCase
import GeoTables.Proofs.Table.TypeText
import Mathlib.Logic.Relation

/-!
# Spellings of a store type

The same type can be written in any letter case, with any blanks between the words of
its base name, and with blanks around the base name and the arguments.  None of this
is seen in what the type says about a column: each of these changes leaves the base
name as it is, and the arguments but for letter case, which no reader of an argument
looks at.
-/

namespace GeoTables

open Text

/-! ## Letter case of arguments -/

namespace GeometryKind

/-- A subtype is named in any letter case. -/
theorem ofName?_upperAscii (text : String) : ofName? (upperAscii text) = ofName? text := by
  have same : upperAscii (trimmed (upperAscii text)) = upperAscii (trimmed text) := by
    rw [← String.toList_inj, upperAscii_eq, toList_trimmed, upperAscii_eq, trim_capitals,
      capitals_capitals, upperAscii_eq, toList_trimmed]
  rw [ofName?, same, ofName?]

end GeometryKind

namespace StoreType

/-- The type with its arguments in capitals. -/
def inCapitals (type : StoreType) : StoreType where
  base := type.base
  arguments := type.arguments.map upperAscii

section

variable (type : StoreType)

@[simp]
theorem base_inCapitals : type.inCapitals.base = type.base := rfl

@[simp]
theorem logicalType_inCapitals : type.inCapitals.logicalType = type.logicalType := by
  have subtype :
      type.inCapitals.arguments.head?.bind GeometryKind.ofName? =
        type.arguments.head?.bind GeometryKind.ofName? := by
    rw [inCapitals, List.head?_map, Option.bind_map]
    exact congrArg _ (funext GeometryKind.ofName?_upperAscii)
  rw [logicalType, subtype, base_inCapitals, logicalType]

@[simp]
theorem size?_inCapitals (index : Nat) : type.inCapitals.size? index = type.size? index := by
  rw [size?, inCapitals, List.getElem?_map, Option.bind_map, size?]
  refine congrArg _ (funext fun argument => ?_)
  rw [Function.comp, upperAscii_eq, unsignedWithin?_capitals]

@[simp]
theorem length?_inCapitals : type.inCapitals.length? = type.length? := by
  rw [length?, logicalType_inCapitals, size?_inCapitals, length?]

@[simp]
theorem precision?_inCapitals : type.inCapitals.precision? = type.precision? := by
  rw [precision?, logicalType_inCapitals, size?_inCapitals, precision?]

@[simp]
theorem scale?_inCapitals : type.inCapitals.scale? = type.scale? := by
  rw [scale?, logicalType_inCapitals, size?_inCapitals, scale?]

@[simp]
theorem srid?_inCapitals : type.inCapitals.srid? = type.srid? := by
  have same :
      (type.arguments[1]?.bind fun argument =>
          signedWithin? 32 (upperAscii argument).toList) =
        type.arguments[1]?.bind fun argument => signedWithin? 32 argument.toList := by
    refine congrArg _ (funext fun argument => ?_)
    rw [upperAscii_eq, signedWithin?_capitals]
  rw [srid?, logicalType_inCapitals, inCapitals, List.getElem?_map, Option.bind_map, srid?,
    ← same]
  rfl

end

/-- Two types that say the same about a column. -/
structure Agrees (left right : StoreType) : Prop where
  base : left.base = right.base
  logicalType : left.logicalType = right.logicalType
  length : left.length? = right.length?
  precision : left.precision? = right.precision?
  scale : left.scale? = right.scale?
  srid : left.srid? = right.srid?

/-- Types that differ in the letter case of their arguments only say the same. -/
theorem agrees_of_inCapitals
    {left right : StoreType}
    (same : left.inCapitals = right.inCapitals) :
    left.Agrees right where
  base := by rw [← base_inCapitals, same, base_inCapitals]
  logicalType := by rw [← logicalType_inCapitals, same, logicalType_inCapitals]
  length := by rw [← length?_inCapitals, same, length?_inCapitals]
  precision := by rw [← precision?_inCapitals, same, precision?_inCapitals]
  scale := by rw [← scale?_inCapitals, same, scale?_inCapitals]
  srid := by rw [← srid?_inCapitals, same, srid?_inCapitals]

/-! ## Letter case of a text -/

/-- The letter case of a mark that is no letter cannot be changed. -/
theorem beq_toUpper
    {mark : Char}
    (foreign : ∀ index < 26, (smallLetter index).toUpper ≠ mark ∧ smallLetter index ≠ mark)
    (character : Char) :
    (character.toUpper == mark) = (character == mark) := by
  rw [Bool.eq_iff_iff, beq_iff_eq, beq_iff_eq, toUpper_eq_iff foreign]

theorem kept_capitals (pieces : List (List Char)) :
    kept (pieces.map capitals) = (kept pieces).map upperAscii := by
  have trimmed : (pieces.map capitals).map trim = (pieces.map trim).map capitals := by
    rw [List.map_map, List.map_map]
    exact List.map_congr_left fun piece _ => trim_capitals piece
  have present (piece : List Char) : (!(capitals piece).isEmpty) = !piece.isEmpty := by
    simp [capitals]
  rw [kept, trimmed, List.filter_map, List.map_map, kept, List.map_map]
  simp only [Function.comp_def, present, upperAscii, String.toList_ofList]
  rfl

theorem argumentsOf_capitals (text : List Char) :
    argumentsOf (capitals text) = (argumentsOf text).map upperAscii := by
  have same : ∀ character : Char, (character.toUpper == ',') = (character == ',') :=
    beq_toUpper (by decide)
  rw [argumentsOf_eq, capitals, splitOnP_map same, argumentsOf_eq]
  exact kept_capitals _

/-- A text in capitals is read as its type with arguments in capitals. -/
theorem read_capitals (text : List Char) : read (capitals text) = (read text).inCapitals := by
  have opening : ∀ character : Char, (character.toUpper != '(') = (character != '(') :=
    fun character => congrArg not (beq_toUpper (by decide) character)
  have closing : ∀ character : Char, (character.toUpper != ')') = (character != ')') :=
    fun character => congrArg not (beq_toUpper (by decide) character)
  have inside : inner (capitals text) = capitals (inner text) := by
    rw [inner, capitals_dropWhile opening, capitals, ← List.map_drop, ← capitals,
      capitals_takeWhile closing, inner]
  rw [read, head, capitals_takeWhile opening, ← head, baseOf_capitals, inside,
    argumentsOf_capitals]
  rfl

/-! ## Other spellings of a text -/

/-- A change of a text that keeps the store type. -/
inductive Change : List Char → List Char → Prop where
  | letterCase
      {left right : List Char}
      (letters : SameLetters left right) :
      Change left right
  | blanksInBase
      {before blanks others after : List Char}
      (outside : '(' ∉ before)
      (present : blanks ≠ [])
      (blank : AllBlank blanks)
      (otherPresent : others ≠ [])
      (otherBlank : AllBlank others) :
      Change (before ++ blanks ++ after) (before ++ others ++ after)
  | aroundBase
      {base rest before after : List Char}
      (outside : '(' ∉ base)
      (ends : StartsWith '(' rest)
      (blankBefore : AllBlank before)
      (blankAfter : AllBlank after) :
      Change (base ++ rest) (before ++ base ++ after ++ rest)
  | aroundArgument
      {base argument rest before after : List Char}
      {earlier later : List (List Char)}
      (outside : '(' ∉ base)
      (free : ∀ piece ∈ earlier ++ argument :: later, ',' ∉ piece ∧ ')' ∉ piece)
      (ends : StartsWith ')' rest)
      (blankBefore : AllBlank before)
      (blankAfter : AllBlank after) :
      Change
        (assemble base (earlier ++ argument :: later) rest)
        (assemble base (earlier ++ (before ++ argument ++ after) :: later) rest)

/-- Two texts that any number of changes lead from one to the other. -/
def Respelled (left right : String) : Prop :=
  Relation.EqvGen Change left.toList right.toList

/-- What stands behind the base in a text counts only from its first opening parenthesis. -/
theorem read_append_of_startsWith
    {base rest : List Char}
    (outside : '(' ∉ base)
    (ends : StartsWith '(' rest) :
    read (base ++ rest) = ⟨baseOf base, argumentsOf (inner rest)⟩ := by
  rw [read_append outside, head, takeWhile_of_startsWith ends, List.append_nil]

/-- A change keeps the type, but for the letter case of its arguments. -/
theorem Change.inCapitals_read_eq
    {left right : List Char}
    (change : Change left right) :
    (read left).inCapitals = (read right).inCapitals := by
  cases change with
  | letterCase letters => rw [← read_capitals, letters, read_capitals]
  | @blanksInBase before blanks others after outside present blank otherPresent otherBlank =>
      have opened {between : List Char} (isBlank : AllBlank between) :
          '(' ∉ before ++ between := by
        rw [List.mem_append, not_or]
        exact ⟨outside, isBlank.notMem rfl⟩
      have same :
          words (before ++ blanks ++ head after) = words (before ++ others ++ head after) := by
        rw [words_append_blanks_append before present blank,
          words_append_blanks_append before otherPresent otherBlank]
      rw [read_append (opened blank), read_append (opened otherBlank), baseOf_congr same]
  | @aroundBase base rest before after outside ends blankBefore blankAfter =>
      have opened : '(' ∉ before ++ base ++ after := by
        simp only [List.mem_append, not_or]
        exact ⟨⟨blankBefore.notMem rfl, outside⟩, blankAfter.notMem rfl⟩
      have same : words (before ++ base ++ after) = words base := by
        rw [words_append_blanks _ blankAfter, words_blanks_append blankBefore]
      rw [read_append_of_startsWith outside ends, read_append_of_startsWith opened ends,
        baseOf_congr same]
  | @aroundArgument base argument rest before after earlier later outside free ends
      blankBefore blankAfter =>
      have padded : ',' ∉ before ++ argument ++ after ∧ ')' ∉ before ++ argument ++ after := by
        have own := free argument (by simp)
        simp only [List.mem_append, not_or]
        exact ⟨⟨⟨blankBefore.notMem rfl, own.1⟩, blankAfter.notMem rfl⟩,
          ⟨blankBefore.notMem rfl, own.2⟩, blankAfter.notMem rfl⟩
      have others :
          ∀ piece ∈ earlier ++ (before ++ argument ++ after) :: later,
            ',' ∉ piece ∧ ')' ∉ piece := by
        rw [List.forall_mem_append, List.forall_mem_cons] at free ⊢
        exact ⟨free.1, padded, free.2.2⟩
      have same :
          kept (earlier ++ (before ++ argument ++ after) :: later) =
            kept (earlier ++ argument :: later) := by
        rw [kept, List.map_append, List.map_cons, trim_append_blanks _ blankAfter,
          trim_blanks_append blankBefore, ← List.map_cons, ← List.map_append, kept]
      rw [read_assemble outside free ends, read_assemble outside others ends, same]

/-- Any number of changes keeps the type, but for the letter case of its arguments. -/
theorem inCapitals_read_of_eqvGen
    {left right : List Char}
    (changes : Relation.EqvGen Change left right) :
    (read left).inCapitals = (read right).inCapitals := by
  induction changes with
  | rel left right change => exact change.inCapitals_read_eq
  | refl text => rfl
  | symm left right _ same => exact same.symm
  | trans left middle right _ _ first second => exact first.trans second

/--
Every text is read as a type of which the base name is made of words in capitals with
single spaces between them and without an opening parenthesis, and each argument is
trimmed, not empty, and without a comma or a closing parenthesis.  The canonical text
of the type is read as the type, and in every other spelling the text is read as a
type that says the same.
-/
theorem canonical_in_any_spelling (typeText : String) :
    (ofText typeText).IsCanonical ∧
    ofText (ofText typeText).text = ofText typeText ∧
    ∀ other, Respelled typeText other → (ofText typeText).Agrees (ofText other) :=
  ⟨isCanonical_read typeText.toList, ofText_text_ofText typeText,
    fun _ respelled => agrees_of_inCapitals (inCapitals_read_of_eqvGen respelled)⟩

/-- Numbers of double precision, with two spaces in the base name. -/
def plainDouble : String :=
  "double  precision(12,a3)"

/-- The same with capitals, a no-break space in the base name, and blanks around it and
    around the second argument. -/
def fancyDouble : String :=
  "\tDouble\u00a0precision (12, A3)"

theorem canonical_in_any_spelling_double :
    Respelled plainDouble fancyDouble ∧
      (ofText plainDouble).Agrees (ofText fancyDouble) := by
  have spaces :
      Change ("double".toList ++ "  ".toList ++ "precision(12,a3)".toList)
        ("double".toList ++ "\u00a0".toList ++ "precision(12,a3)".toList) :=
    .blanksInBase (by decide) (by decide) (by decide) (by decide) (by decide)
  have letters :
      Change ("double".toList ++ "\u00a0".toList ++ "precision(12,a3)".toList)
        ("Double\u00a0precision".toList ++ '(' :: "12,A3)".toList) :=
    .letterCase (by rw [SameLetters]; decide +kernel)
  have base :
      Change ("Double\u00a0precision".toList ++ '(' :: "12,A3)".toList)
        ("\t".toList ++ "Double\u00a0precision".toList ++ " ".toList ++
          '(' :: "12,A3)".toList) :=
    .aroundBase (by decide) (startsWith_cons _ _) (by decide) (by decide)
  have argument :
      Change
        (assemble "\tDouble\u00a0precision ".toList ["12".toList, "A3".toList] [')'])
        (assemble "\tDouble\u00a0precision ".toList ["12".toList, " A3".toList] [')']) :=
    @Change.aroundArgument _ _ _ " ".toList [] ["12".toList] [] (by decide) (by decide)
      (startsWith_cons _ _) (by decide) (by decide)
  have plain :
      plainDouble.toList = "double".toList ++ "  ".toList ++ "precision(12,a3)".toList := by
    decide +kernel
  have padded :
      "\t".toList ++ "Double\u00a0precision".toList ++ " ".toList ++ '(' :: "12,A3)".toList =
        assemble "\tDouble\u00a0precision ".toList ["12".toList, "A3".toList] [')'] := by
    decide +kernel
  have fancy :
      assemble "\tDouble\u00a0precision ".toList ["12".toList, " A3".toList] [')'] =
        fancyDouble.toList := by
    decide +kernel
  have respelled : Respelled plainDouble fancyDouble := by
    rw [Respelled, plain, ← fancy]
    rw [padded] at base
    exact .trans _ _ _ (.rel _ _ spaces) (.trans _ _ _ (.rel _ _ letters)
      (.trans _ _ _ (.rel _ _ base) (.rel _ _ argument)))
  exact ⟨respelled, (canonical_in_any_spelling plainDouble).2.2 fancyDouble respelled⟩

end StoreType

end GeoTables
