import GeoTables.Filter.Split
import GeoTables.Proofs.Geometry.Wkt.Occurrence
import GeoTables.Proofs.Geometry.Wkt.Taken

/-!
# Sides of several parts

Whether a supplied geometry may consist of several parts is read off its text,
by a word at its start or anywhere within it.  Only the text behind a spatial
reference counts, in capitals and without outer blanks.
-/

namespace GeoTables

open Text

/-- The type is one for lists of parts or for collections. -/
def Wkt.Tag.isSeveral : Wkt.Tag → Bool
  | .point | .lineString | .polygon => false
  | .multiPoint | .multiLineString | .multiPolygon | .collection => true

namespace GeometryCase

theorem occurs_iff_infix {word text : List Char} :
    occurs word text = true ↔ word <:+: text := by
  induction text with
  | nil => rw [occurs, List.isEmpty_iff, List.infix_nil]
  | cons first rest induction =>
      rw [occurs, Bool.or_eq_true, List.isPrefixOf_iff_prefix, induction, List.infix_cons_iff]

/-- The words for lists of parts of one dimension. -/
def listNames : List String := ["MULTIPOINT", "MULTILINESTRING", "MULTIPOLYGON"]

/-- The words for a collection or a list stand in the text of a geometry as for several parts. -/
def SpellsSeveral (body : List Char) : Prop :=
  "GEOMETRYCOLLECTION".toList <:+: capitals body ∨
    ∃ name ∈ listNames, name.toList <+: capitals body

variable {text : String} {srid : Option Int} {rest : List Char}

theorem visible_collection : Visible "GEOMETRYCOLLECTION".toList := by decide

theorem visible_listNames : ∀ name ∈ listNames, Visible name.toList := by decide

/-- A word at the start of a text, behind blanks, is also there if more text follows. -/
theorem prefix_trimLeft_append
    {word left : List Char}
    (nonempty : word ≠ [])
    (starts : word <+: trimLeft left)
    (right : List Char) :
    word <+: trimLeft (left ++ right) := by
  rw [trimLeft, List.dropWhile_append, if_neg]
  · exact starts.trans (List.prefix_append _ right)
  · rw [List.isEmpty_iff]
    intro nothing
    rw [trimLeft, nothing, List.prefix_nil] at starts
    exact nonempty starts

/-- The word for a spatial reference stands only at the start of a text that declares one. -/
theorem declaresReference_of_starts
    (starts : "SRID=".toList <+: trimLeft (capitals text.toList)) :
    LocatedGeometry.DeclaresReference text := by
  have visible : Visible "SRID=".toList := by decide
  rw [← visible.prefix_trim_iff, trim_capitals, List.prefix_iff_eq_take] at starts
  rw [LocatedGeometry.DeclaresReference, Wkt.isWord, beq_iff_eq, starts, List.map_take]
  rfl

/-- The text behind a spatial reference is found where the text is divided. -/
theorem afterReference_eq
    (divides : LocatedGeometry.Divides text srid rest) :
    afterReference (capitals text.toList) = capitals rest := by
  rw [afterReference.eq_def]
  cases divides with
  | plain undeclared =>
      split
      · rw [if_neg]
        intro declares
        rw [List.isPrefixOf_iff_prefix] at declares
        have starts := prefix_trimLeft_append (by decide) declares
          ((capitals text.toList).dropWhile (· != ';'))
        rw [List.takeWhile_append_dropWhile] at starts
        exact undeclared (declaresReference_of_starts starts)
      · rfl
  | @declared before word reference rest srid parts blank spelled ends number =>
      have lacking := LocatedGeometry.not_mem_capitals_declaration blank spelled (by decide)
        (by decide) (LocatedGeometry.separator_not_mem_capitals ends)
      have passed : ∀ character ∈ capitals (before ++ (word ++ reference)),
          (character != ';') = true := by
        intro character member
        rw [bne_iff_ne]
        rintro rfl
        exact lacking member
      have visible : trimLeft ("SRID=".toList ++ capitals reference) =
          "SRID=".toList ++ capitals reference := by
        apply trimLeft_eq_self
        rintro first ⟨⟩
        decide
      rw [LocatedGeometry.capitals_eq_of_parts parts, List.dropWhile_append_of_pos passed,
        List.takeWhile_append_of_pos passed, List.dropWhile_cons_of_neg (by simp),
        List.takeWhile_cons_of_neg (by simp), List.append_nil]
      dsimp only
      rw [if_pos]
      rw [capitals_append, capitals_append, trimLeft_append blank.capitals, spelled, visible,
        List.isPrefixOf_iff_prefix]
      exact List.prefix_append _ _

/-- A collection is named behind a spatial reference, if at all. -/
theorem infix_collection_iff
    (divides : LocatedGeometry.Divides text srid rest) :
    "GEOMETRYCOLLECTION".toList <:+: capitals text.toList ↔
      "GEOMETRYCOLLECTION".toList <:+: capitals rest := by
  cases divides with
  | plain undeclared => rfl
  | @declared before word reference rest srid parts blank spelled ends number =>
      have lacking : 'G' ∉ capitals (before ++ (word ++ reference)) :=
        LocatedGeometry.not_mem_capitals_declaration blank spelled (by decide) (by decide)
          (LocatedGeometry.not_mem_capitals_reference number (by decide) (by decide))
      rw [LocatedGeometry.capitals_eq_of_parts parts, infix_append_cons_iff (by decide)]
      exact or_iff_right (not_infix_of_not_mem (by decide) lacking)

/-- The text names several parts as the trimmed text behind its reference does. -/
theorem namesSeveralParts_iff
    (divides : LocatedGeometry.Divides text srid rest) :
    namesSeveralParts text = true ↔ SpellsSeveral (trim rest) := by
  rw [namesSeveralParts, upperAscii_eq, Bool.or_eq_true, occurs_iff_infix,
    infix_collection_iff divides, afterReference_eq divides, ← visible_collection.infix_trim_iff,
    trim_capitals, SpellsSeveral]
  refine or_congr Iff.rfl ?_
  rw [← listNames, List.any_eq_true]
  refine exists_congr fun name => and_congr_right fun listed => ?_
  rw [List.isPrefixOf_iff_prefix, ← (visible_listNames name listed).prefix_trim_iff,
    trim_capitals]

/-! ## Types of several parts -/

open Wkt

theorem isLettered_collection : IsLettered "GEOMETRYCOLLECTION".toList where
  continues := by decide
  letter := ⟨'G', by decide, by unfold Binary64.IsNumeric; decide⟩

/-- What stands behind the word for a type other than that of collections names no collection. -/
theorem lacks_of_isFiller
    {token : Token}
    (isFiller : token.IsFiller) :
    token.Lacks "GEOMETRYCOLLECTION".toList := by
  have words : ∀ filler ∈ fillers, ¬"GEOMETRYCOLLECTION".toList <:+: filler := by decide +kernel
  cases token with
  | word name => exact words _ isFiller
  | opening | closing | comma | number _ => trivial
  | badNumber | stop => exact isFiller.elim

variable {body name : List Char} {others : List Token} {tag : Tag} {attached : Option Layout}

/-- The word for the type of a geometry starts the text of it. -/
theorem exists_typeName_start
    (lexed : tokens (trim body) = .word name :: others)
    (isTag : tag? name = some (tag, attached)) :
    ∃ spelling, (spelling, tag) ∈ typeNames ∧ capitals name = spelling.toList ∧
      spelling.toList <+: capitals (trim body) := by
  obtain ⟨spelling, listed, spelled⟩ := exists_typeName_of_tag? isTag
  refine ⟨spelling, listed, spelled, ?_⟩
  rw [← spelled]
  exact (prefix_of_tokens_trim lexed).map Char.toUpper

/-- A text whose first word is one for lists or collections is one for several parts. -/
theorem spellsSeveral_of_isSeveral
    (lexed : tokens (trim body) = .word name :: others)
    (isTag : tag? name = some (tag, attached))
    (several : tag.isSeveral = true) :
    SpellsSeveral (trim body) := by
  obtain ⟨spelling, listed, _, starts⟩ := exists_typeName_start lexed isTag
  have named : ∀ entry ∈ typeNames, entry.2.isSeveral = true →
      "GEOMETRYCOLLECTION".toList <+: entry.1.toList ∨
        ∃ listName ∈ listNames, listName.toList <+: entry.1.toList := by decide +kernel
  rcases named _ listed several with collection | ⟨listName, isListName, inFront⟩
  · exact .inl (collection.trans starts).isInfix
  · exact .inr ⟨listName, isListName, inFront.trans starts⟩

/-- Behind the word for another type nothing makes a text one for several parts. -/
theorem isSeveral_of_spellsSeveral
    (lexed : tokens (trim body) = .word name :: others)
    (isTag : tag? name = some (tag, attached))
    (behind : tag ≠ .collection → Passes others [])
    (spells : SpellsSeveral (trim body)) :
    tag.isSeveral = true := by
  obtain ⟨spelling, listed, spelled, starts⟩ := exists_typeName_start lexed isTag
  rcases spells with inside | ⟨listName, isListName, inFront⟩
  · by_contra simple
    have apart : ∀ entry ∈ typeNames, entry.2.isSeveral ≠ true →
        entry.2 ≠ .collection ∧ ¬"GEOMETRYCOLLECTION".toList <:+: entry.1.toList := by
      decide +kernel
    obtain ⟨notCollection, first⟩ := apart _ listed simple
    -- No token names a collection: the first is the word for the type, all others are fillers.
    refine isLettered_collection.not_infix_of_tokens ?_ inside
    rw [lexed, List.forall_mem_cons]
    refine ⟨?_, fun token member => ?_⟩
    · rw [Token.Lacks, spelled]
      exact first
    · exact lacks_of_isFiller ((behind notCollection).isFiller_of_mem member)
  · have apart : ∀ listName ∈ listNames, ∀ entry ∈ typeNames,
        listName.toList <+: entry.1.toList ∨ entry.1.toList <+: listName.toList →
          entry.2.isSeveral = true := by decide +kernel
    exact apart listName isListName _ listed (List.prefix_or_prefix_of_prefix inFront starts)

end GeometryCase

end GeoTables
