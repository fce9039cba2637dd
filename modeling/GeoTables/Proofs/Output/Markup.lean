import GeoTables.Output.Xml
import GeoTables.Proofs.Json.Spelling
import Mathlib.Tactic.SplitIfs

/-!
# Well-formed documents

The grammar of XML 1.0 for documents without attributes, comments and
processing instructions: which characters may occur, which names elements may
have, and how elements lie within each other.

A text can also be read for its tags alone, without regard to nesting.  The
tags and the characters of well-formed content tell whether the names and the
texts that it was made from are allowed.
-/

namespace GeoTables.Xml

/-! ## The grammar -/

/-- The code points of characters that may occur in a document. -/
def characterRanges : List (Nat × Nat) :=
  [(0x9, 0xA), (0xD, 0xD), (0x20, 0xD7FF), (0xE000, 0xFFFD), (0x10000, 0x10FFFF)]

/-- The code points of characters that a name may start with. -/
def nameStartRanges : List (Nat × Nat) :=
  [(0x3A, 0x3A), (0x41, 0x5A), (0x5F, 0x5F), (0x61, 0x7A), (0xC0, 0xD6), (0xD8, 0xF6),
    (0xF8, 0x2FF), (0x370, 0x37D), (0x37F, 0x1FFF), (0x200C, 0x200D), (0x2070, 0x218F),
    (0x2C00, 0x2FEF), (0x3001, 0xD7FF), (0xF900, 0xFDCF), (0xFDF0, 0xFFFD),
    (0x10000, 0xEFFFF)]

/-- The code points of characters that a name may only go on with. -/
def nameRestRanges : List (Nat × Nat) :=
  [(0x2D, 0x2E), (0x30, 0x39), (0xB7, 0xB7), (0x300, 0x36F), (0x203F, 0x2040)]

/-- The character may occur in a document. -/
def isAllowed (character : Char) : Bool :=
  Text.inRanges characterRanges character.toNat

/-- A name may start with the character. -/
def startsValidName (character : Char) : Bool :=
  Text.inRanges nameStartRanges character.toNat

/-- A name may go on with the character. -/
def continuesValidName (character : Char) : Bool :=
  startsValidName character || Text.inRanges nameRestRanges character.toNat

/-- The text is a name. -/
def isValidName : List Char → Bool
  | [] => false
  | first :: rest => startsValidName first && rest.all continuesValidName

/-- The names of the characters that can be referred to without a declaration. -/
def entityNames : List (List Char) :=
  ["amp".toList, "lt".toList, "gt".toList, "quot".toList, "apos".toList]

/-- A start tag. -/
def startTag (name : List Char) : List Char :=
  '<' :: name ++ ['>']

/-- An end tag. -/
def endTag (name : List Char) : List Char :=
  '<' :: '/' :: name ++ ['>']

/-- Character data, references and properly nested elements. -/
inductive IsContent : List Char → Prop where
  | nil : IsContent []
  | character
      {character : Char}
      {rest : List Char}
      (allowed : isAllowed character = true)
      (noTag : character ≠ '<')
      (noReference : character ≠ '&')
      (content : IsContent rest) :
      IsContent (character :: rest)
  | reference
      {name rest : List Char}
      (known : name ∈ entityNames)
      (content : IsContent rest) :
      IsContent ('&' :: name ++ ';' :: rest)
  | element
      {name inner rest : List Char}
      (valid : isValidName name = true)
      (within : IsContent inner)
      (content : IsContent rest) :
      IsContent (startTag name ++ inner ++ endTag name ++ rest)

/-- A declaration of the version and the encoding, and one element with all that it holds. -/
def IsDocument (text : List Char) : Prop :=
  ∃ name inner,
    text = "<?xml version=\"1.0\" encoding=\"UTF-8\" ?>".toList
        ++ (startTag name ++ inner ++ endTag name) ∧
      isValidName name = true ∧ IsContent inner

namespace IsContent

theorem append
    {left right : List Char}
    (first : IsContent left)
    (second : IsContent right) :
    IsContent (left ++ right) := by
  induction first with
  | nil => exact second
  | character allowed noTag noReference _ rest => exact .character allowed noTag noReference rest
  | reference known _ rest =>
      simpa [List.append_assoc] using IsContent.reference known rest
  | element valid within _ _ rest =>
      simpa [List.append_assoc] using IsContent.element valid within rest

/-- An element is content by itself. -/
theorem singleton
    {name inner : List Char}
    (valid : isValidName name = true)
    (within : IsContent inner) :
    IsContent (startTag name ++ inner ++ endTag name) := by
  simpa using IsContent.element valid within .nil

end IsContent

/-! ## Characters -/

/-- Ranges that lie within other ranges hold no further code points. -/
theorem inRanges_mono
    {ranges wider : List (Nat × Nat)}
    (within : ∀ range ∈ ranges,
      ∃ other ∈ wider, other.1 ≤ range.1 ∧ range.2 ≤ other.2)
    {code : Nat}
    (inside : Text.inRanges ranges code = true) :
    Text.inRanges wider code = true := by
  rw [Text.inRanges, List.any_eq_true] at inside ⊢
  obtain ⟨range, member, bounds⟩ := inside
  obtain ⟨other, isWider, low, high⟩ := within range member
  rw [Bool.and_eq_true, decide_eq_true_eq, decide_eq_true_eq] at bounds
  refine ⟨other, isWider, ?_⟩
  rw [Bool.and_eq_true, decide_eq_true_eq, decide_eq_true_eq]
  exact ⟨low.trans bounds.1, bounds.2.trans high⟩

theorem isAllowed_of_continuesValidName
    {character : Char}
    (valid : continuesValidName character = true) :
    isAllowed character = true := by
  rcases Bool.or_eq_true_iff.mp valid with starts | continues
  · exact inRanges_mono (by decide) starts
  · exact inRanges_mono (by decide) continues

/-- All characters of a name are ones that a name may go on with. -/
theorem continuesValidName_of_isValidName
    {name : List Char}
    (valid : isValidName name = true) :
    ∀ character ∈ name, continuesValidName character = true := by
  cases name with
  | nil => cases valid
  | cons first rest =>
      rw [isValidName, Bool.and_eq_true, List.all_eq_true] at valid
      refine List.forall_mem_cons.mpr ⟨?_, valid.2⟩
      rw [continuesValidName, valid.1, Bool.true_or]

/-- The characters of a name are allowed. -/
theorem isAllowed_of_isValidName
    {name : List Char}
    (valid : isValidName name = true) :
    ∀ character ∈ name, isAllowed character = true :=
  fun character member =>
    isAllowed_of_continuesValidName (continuesValidName_of_isValidName valid character member)

/-- A name has no character that ends a tag. -/
theorem ne_greater_of_isValidName
    {name : List Char}
    (valid : isValidName name = true) :
    ∀ character ∈ name, character ≠ '>' := by
  rintro _ member rfl
  exact absurd (continuesValidName_of_isValidName valid _ member) (by decide)

theorem isAllowed_tag
    {name : List Char}
    (valid : isValidName name = true) :
    (∀ character ∈ startTag name, isAllowed character = true) ∧
      ∀ character ∈ endTag name, isAllowed character = true := by
  have allowed := isAllowed_of_isValidName valid
  have less : isAllowed '<' = true := by decide
  have slash : isAllowed '/' = true := by decide
  have greater : isAllowed '>' = true := by decide
  simp only [startTag, endTag, List.forall_mem_cons, List.forall_mem_append, less, slash, greater,
    true_and]
  exact ⟨⟨allowed, nofun⟩, allowed, nofun⟩

/-- All characters of content are allowed. -/
theorem IsContent.isAllowed
    {text : List Char}
    (content : IsContent text) :
    ∀ character ∈ text, Xml.isAllowed character = true := by
  induction content with
  | nil => simp
  | character allowed _ _ _ rest => exact List.forall_mem_cons.mpr ⟨allowed, rest⟩
  | @reference name others known _ rest =>
      have inNames : ∀ name ∈ entityNames, name.all Xml.isAllowed = true := by decide
      have ampersand : Xml.isAllowed '&' = true := by decide
      have semicolon : Xml.isAllowed ';' = true := by decide
      simp only [List.forall_mem_append, List.forall_mem_cons]
      exact ⟨⟨ampersand, List.all_eq_true.mp (inNames name known)⟩, semicolon, rest⟩
  | element valid _ _ within rest =>
      obtain ⟨start, stop⟩ := isAllowed_tag valid
      simp only [List.forall_mem_append]
      exact ⟨⟨⟨start, within⟩, stop⟩, rest⟩

/-! ## Tags -/

/-- What stands between each `<` and the next `>`; a tag that has been begun is reversed. -/
def tagsFrom : Option (List Char) → List Char → List (List Char)
  | _, [] => []
  | none, character :: rest =>
      if character = '<' then tagsFrom (some []) rest else tagsFrom none rest
  | some run, character :: rest =>
      if character = '>' then
        run.reverse :: tagsFrom none rest
      else
        tagsFrom (some (character :: run)) rest

/-- Wherever it stands between tags, the text has these tags. -/
def HasTags (text : List Char) (tags : List (List Char)) : Prop :=
  ∀ rest, tagsFrom none (text ++ rest) = tags ++ tagsFrom none rest

namespace HasTags

/-- A text has its tags and no other ones. -/
theorem eq
    {text : List Char}
    {tags others : List (List Char)}
    (has : HasTags text tags)
    (alsoHas : HasTags text others) :
    tags = others := by
  have same := (has []).symm.trans (alsoHas [])
  simpa [tagsFrom] using same

theorem append
    {left right : List Char}
    {tags others : List (List Char)}
    (first : HasTags left tags)
    (second : HasTags right others) :
    HasTags (left ++ right) (tags ++ others) := by
  intro rest
  rw [List.append_assoc, first, second, List.append_assoc]

/-- A text without markup has no tags. -/
theorem none_of_no_markup
    {text : List Char}
    (plain : ∀ character ∈ text, character ≠ '<') :
    HasTags text [] := by
  induction text with
  | nil => exact fun _ => rfl
  | cons character others induction =>
      rw [List.forall_mem_cons] at plain
      intro rest
      rw [List.cons_append, tagsFrom, if_neg plain.1, induction plain.2]

/-- A tag in which no tag ends is taken as it is. -/
theorem tag
    {inside : List Char}
    (open_ : ∀ character ∈ inside, character ≠ '>') :
    HasTags ('<' :: inside ++ ['>']) [inside] := by
  have scanned : ∀ (run rest : List Char),
      tagsFrom (some run) (inside ++ '>' :: rest) =
        (run.reverse ++ inside) :: tagsFrom none rest := by
    induction inside with
    | nil => intro run rest; simp [tagsFrom]
    | cons character others induction =>
        rw [List.forall_mem_cons] at open_
        intro run rest
        rw [List.cons_append, tagsFrom, if_neg open_.1, induction open_.2]
        simp
  intro rest
  have found := scanned [] rest
  simpa [tagsFrom] using found

end HasTags

/-- What stands in the tags of an element, and of all within it. -/
theorem HasTags.element
    {name inner : List Char}
    {tags : List (List Char)}
    (closed : ∀ character ∈ name, character ≠ '>')
    (within : HasTags inner tags) :
    HasTags (startTag name ++ inner ++ endTag name) (name :: tags ++ ['/' :: name]) := by
  have start : HasTags (startTag name) [name] := .tag closed
  have stop : HasTags (endTag name) ['/' :: name] :=
    .tag (List.forall_mem_cons.mpr ⟨by decide, closed⟩)
  exact (start.append within).append stop

/-- No tag begins within a reference. -/
theorem ne_less_of_mem_reference
    {name : List Char}
    (known : name ∈ entityNames) :
    ∀ character ∈ '&' :: name ++ [';'], character ≠ '<' := by
  have absent : ∀ name ∈ entityNames, '<' ∉ '&' :: name ++ [';'] := by decide
  rintro _ member rfl
  exact absent name known member

/-- The tags of content hold valid names, those of end tags behind a slash. -/
theorem IsContent.hasTags
    {text : List Char}
    (content : IsContent text) :
    ∃ tags, HasTags text tags ∧
      ∀ tag ∈ tags, isValidName tag = true ∨ tag.head? = some '/' := by
  induction content with
  | nil => exact ⟨[], fun _ => rfl, nofun⟩
  | @character character others _ noTag _ _ rest =>
      obtain ⟨tags, has, valid⟩ := rest
      have none : HasTags [character] [] := .none_of_no_markup (by simpa)
      exact ⟨tags, none.append has, valid⟩
  | @reference name others known _ rest =>
      obtain ⟨tags, has, valid⟩ := rest
      have none := HasTags.none_of_no_markup (ne_less_of_mem_reference known)
      refine ⟨tags, ?_, valid⟩
      simpa using none.append has
  | element isName _ _ within rest =>
      obtain ⟨inside, hasInside, validInside⟩ := within
      obtain ⟨tags, has, valid⟩ := rest
      have closed := ne_greater_of_isValidName isName
      refine ⟨_, (HasTags.element closed hasInside).append has, ?_⟩
      simp only [List.forall_mem_append, List.forall_mem_cons]
      exact ⟨⟨⟨.inl isName, validInside⟩, .inr rfl, nofun⟩, valid⟩

end GeoTables.Xml
