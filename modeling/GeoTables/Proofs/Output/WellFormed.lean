import GeoTables.Proofs.Output.PlainText
import GeoTables.Proofs.Output.Texts
import GeoTables.Proofs.Store.Rows
import GeoTables.Proofs.Table.Single

/-!
# When XML documents are well-formed

The document of a value is well-formed exactly if the name of every field
within the value gives a valid name of an element and every string within it
has allowed characters only.  Names are made from letters and numbers of any
script, which are not quite the characters of valid names, and the characters
of strings are escaped but never left out.
-/

namespace GeoTables

namespace Json

mutual

/-- The names of all fields within a value. -/
def names : Json → List String
  | .array items => itemNames items
  | .object fields => fieldNames fields
  | _ => []

/-- The names of all fields within the items of an array. -/
def itemNames : List Json → List String
  | [] => []
  | item :: rest => names item ++ itemNames rest

/-- The names of fields and of all fields within them. -/
def fieldNames : List (String × Json) → List String
  | [] => []
  | (name, value) :: rest => name :: (names value ++ fieldNames rest)

end

mutual

/-- All strings within a value. -/
def strings : Json → List String
  | .string text => [text]
  | .array items => itemStrings items
  | .object fields => fieldStrings fields
  | _ => []

/-- All strings within the items of an array. -/
def itemStrings : List Json → List String
  | [] => []
  | item :: rest => strings item ++ itemStrings rest

/-- All strings within the values of fields. -/
def fieldStrings : List (String × Json) → List String
  | [] => []
  | (_, value) :: rest => strings value ++ fieldStrings rest

end

end Json

namespace Xml

/-- All characters of the text may occur in a document. -/
def IsAllowedText (text : String) : Prop :=
  ∀ character ∈ text.toList, isAllowed character = true

instance (text : String) : Decidable (IsAllowedText text) :=
  List.decidableBAll _ text.toList

/-- The name gives a valid name of an element. -/
def NamesElement (name : String) : Prop :=
  isValidName (elementName name) = true

instance (name : String) : Decidable (NamesElement name) :=
  inferInstanceAs (Decidable (_ = true))

/-! ## Names and escaped texts -/

theorem element_eq
    (name : String)
    (inner : List Char) :
    element name inner = startTag (elementName name) ++ inner ++ endTag (elementName name) := by
  simp [element, startTag, endTag]

/-- A character that stands for itself in no name does not occur in names of elements. -/
theorem not_mem_elementName
    {delimiter : Char}
    (isOther : nameCharacter delimiter = '_')
    (notFiller : delimiter ≠ '_')
    (name : String) :
    delimiter ∉ elementName name := by
  have notMapped : delimiter ∉ name.toList.map nameCharacter := by
    intro member
    obtain ⟨character, _, same⟩ := List.mem_map.mp member
    unfold nameCharacter at same isOther
    split_ifs at same with kept
    · subst same
      rw [if_pos kept] at isOther
      exact notFiller isOther
    · exact notFiller same.symm
  unfold elementName
  split
  · simpa using notFiller
  · rename_i first rest split_
    rw [split_] at notMapped
    split_ifs
    · exact notMapped
    · exact List.not_mem_cons_of_ne_of_not_mem notFiller notMapped

theorem ne_greater_of_mem_elementName
    (name : String) :
    ∀ character ∈ elementName name, character ≠ '>' := by
  rintro _ member rfl
  exact not_mem_elementName (by decide +kernel) (by decide) name member

/-- No name of an element starts like an end tag. -/
theorem head?_elementName_ne (name : String) : (elementName name).head? ≠ some '/' := by
  intro starts
  exact not_mem_elementName (by decide +kernel) (by decide) name (List.mem_of_head? starts)

/-- A character is replaced by a reference or stands for itself. -/
theorem escapeCharacter_cases (character : Char) :
    (∃ name ∈ entityNames,
      escapeCharacter character = '&' :: name ++ [';'] ∧ isAllowed character = true) ∨
    (escapeCharacter character = [character] ∧ character ≠ '<' ∧ character ≠ '&') := by
  unfold escapeCharacter
  split
  · exact .inl ⟨"amp".toList, by decide, by decide, by decide⟩
  · exact .inl ⟨"lt".toList, by decide, by decide, by decide⟩
  · exact .inl ⟨"gt".toList, by decide, by decide, by decide⟩
  · exact .inl ⟨"quot".toList, by decide, by decide, by decide⟩
  · exact .inl ⟨"apos".toList, by decide, by decide, by decide⟩
  · rename_i notAmpersand notLess _ _ _
    exact .inr ⟨rfl, notLess, notAmpersand⟩

/-- An escaped text is content if its characters are allowed. -/
theorem isContent_escape
    {text : String}
    (allowed : IsAllowedText text) :
    IsContent (escape text) := by
  have each : ∀ characters : List Char,
      (∀ character ∈ characters, isAllowed character = true) →
      IsContent (characters.flatMap escapeCharacter) := by
    intro characters allowed
    induction characters with
    | nil => exact .nil
    | cons character rest induction =>
        rw [List.forall_mem_cons] at allowed
        rw [List.flatMap_cons]
        refine .append ?_ (induction allowed.2)
        rcases escapeCharacter_cases character with
          ⟨name, known, isReference, _⟩ | ⟨isSelf, noTag, noReference⟩
        · rw [isReference]
          exact .reference known .nil
        · rw [isSelf]
          exact .character allowed.1 noTag noReference .nil
  exact each text.toList allowed

/-- No tag begins within an escaped text. -/
theorem ne_less_of_mem_escape
    (text : String) :
    ∀ character ∈ escape text, character ≠ '<' := by
  intro character member
  obtain ⟨source, _, isEscaped⟩ := List.mem_flatMap.mp member
  rcases escapeCharacter_cases source with ⟨name, known, isReference, _⟩ | ⟨isSelf, noTag, _⟩
  · rw [isReference] at isEscaped
    exact ne_less_of_mem_reference known character isEscaped
  · rw [isSelf, List.mem_singleton] at isEscaped
    exact isEscaped ▸ noTag

/-- If an escaped text is allowed, so is the text. -/
theorem isAllowedText_of_escape
    {text : String}
    (allowed : ∀ character ∈ escape text, isAllowed character = true) :
    IsAllowedText text := by
  intro character member
  rcases escapeCharacter_cases character with ⟨_, _, _, own⟩ | ⟨isSelf, _⟩
  · exact own
  · exact allowed character (List.mem_flatMap.mpr ⟨character, member, by simp [isSelf]⟩)

/-! ## Content of values -/

theorem namesElement_item : NamesElement "item" := by
  decide +kernel

theorem namesElement_root : NamesElement "root" := by
  decide +kernel

/-- An element with a valid name and content in it is content. -/
theorem isContent_element
    {name : String}
    {inner : List Char}
    (valid : NamesElement name)
    (within : IsContent inner) :
    IsContent (element name inner) := by
  rw [element_eq]
  exact .singleton valid within

mutual

/-- A value is written as content if its names and its strings may be written. -/
theorem isContent_content :
    ∀ {json : Json},
      (∀ name ∈ json.names, NamesElement name) →
      (∀ text ∈ json.strings, IsAllowedText text) →
      IsContent (content json)
  | .null, _, _ => .nil
  | .bool truth, _, _ => (Plain.bool truth).isContent
  | .number number, _, _ => (Plain.number number).isContent
  | .string text, _, strings => isContent_escape (strings text (List.mem_singleton_self text))
  | .array _, names, strings => isContent_itemElements names strings
  | .object _, names, strings => isContent_fieldElements names strings

theorem isContent_itemElements :
    ∀ {items : List Json},
      (∀ name ∈ Json.itemNames items, NamesElement name) →
      (∀ text ∈ Json.itemStrings items, IsAllowedText text) →
      IsContent (itemElements items)
  | [], _, _ => .nil
  | item :: rest, names, strings => by
      rw [Json.itemNames, List.forall_mem_append] at names
      rw [Json.itemStrings, List.forall_mem_append] at strings
      exact (isContent_element namesElement_item (isContent_content names.1 strings.1)).append
        (isContent_itemElements names.2 strings.2)

theorem isContent_fieldElements :
    ∀ {fields : List (String × Json)},
      (∀ name ∈ Json.fieldNames fields, NamesElement name) →
      (∀ text ∈ Json.fieldStrings fields, IsAllowedText text) →
      IsContent (fieldElements fields)
  | [], _, _ => .nil
  | (name, value) :: rest, names, strings => by
      rw [Json.fieldNames, List.forall_mem_cons, List.forall_mem_append] at names
      rw [Json.fieldStrings, List.forall_mem_append] at strings
      exact (isContent_element names.1 (isContent_content names.2.1 strings.1)).append
        (isContent_fieldElements names.2.2 strings.2)

end

/-- The tags of an element are its own two and those within it. -/
theorem hasTags_element
    {inner : List Char}
    {tags : List (List Char)}
    (name : String)
    (within : HasTags inner tags) :
    HasTags (element name inner) (elementName name :: tags ++ ['/' :: elementName name]) := by
  rw [element_eq]
  exact HasTags.element (ne_greater_of_mem_elementName name) within

mutual

/-- The name of every field within a value is in one of the tags that are written for it. -/
theorem exists_tags_content :
    ∀ json : Json,
      ∃ tags, HasTags (content json) tags ∧ ∀ name ∈ json.names, elementName name ∈ tags
  | .null => ⟨[], fun _ => rfl, nofun⟩
  | .bool truth =>
      ⟨[], .none_of_no_markup (Plain.bool truth).ne_less, nofun⟩
  | .number number =>
      ⟨[], .none_of_no_markup (Plain.number number).ne_less, nofun⟩
  | .string text => ⟨[], .none_of_no_markup (ne_less_of_mem_escape text), nofun⟩
  | .array items => exists_tags_itemElements items
  | .object fields => exists_tags_fieldElements fields

theorem exists_tags_itemElements :
    ∀ items : List Json,
      ∃ tags,
        HasTags (itemElements items) tags ∧
          ∀ name ∈ Json.itemNames items, elementName name ∈ tags
  | [] => ⟨[], fun _ => rfl, nofun⟩
  | item :: rest => by
      obtain ⟨inside, hasInside, inInside⟩ := exists_tags_content item
      obtain ⟨tags, has, inTags⟩ := exists_tags_itemElements rest
      refine ⟨_, (hasTags_element "item" hasInside).append has, ?_⟩
      rw [Json.itemNames, List.forall_mem_append]
      constructor
      · intro name member
        simp [inInside name member]
      · intro name member
        simp [inTags name member]

theorem exists_tags_fieldElements :
    ∀ fields : List (String × Json),
      ∃ tags,
        HasTags (fieldElements fields) tags ∧
          ∀ name ∈ Json.fieldNames fields, elementName name ∈ tags
  | [] => ⟨[], fun _ => rfl, nofun⟩
  | (name, value) :: rest => by
      obtain ⟨inside, hasInside, inInside⟩ := exists_tags_content value
      obtain ⟨tags, has, inTags⟩ := exists_tags_fieldElements rest
      refine ⟨_, (hasTags_element name hasInside).append has, ?_⟩
      rw [Json.fieldNames, List.forall_mem_cons, List.forall_mem_append]
      refine ⟨by simp, ?_, ?_⟩
      · intro other member
        simp [inInside other member]
      · intro other member
        simp [inTags other member]

end

mutual

/-- Every string within a value is escaped in what is written for the value. -/
theorem subset_content :
    ∀ {json : Json}, ∀ text ∈ json.strings, escape text ⊆ content json
  | .string text, _, member => by
      rw [List.mem_singleton.mp member]
      exact List.Subset.refl _
  | .array _, text, member => subset_itemElements text member
  | .object _, text, member => subset_fieldElements text member
  | .null, _, member | .bool _, _, member | .number _, _, member => by cases member

theorem subset_itemElements :
    ∀ {items : List Json}, ∀ text ∈ Json.itemStrings items, escape text ⊆ itemElements items
  | item :: rest, text, member => by
      intro character isEscaped
      rw [itemElements, element_eq]
      rcases List.mem_append.mp member with own | others
      · have inside := subset_content text own isEscaped
        simp [inside]
      · have further := subset_itemElements text others isEscaped
        simp [further]

theorem subset_fieldElements :
    ∀ {fields : List (String × Json)},
      ∀ text ∈ Json.fieldStrings fields, escape text ⊆ fieldElements fields
  | (name, value) :: rest, text, member => by
      intro character isEscaped
      rw [fieldElements, element_eq]
      rcases List.mem_append.mp member with own | others
      · have inside := subset_content text own isEscaped
        simp [inside]
      · have further := subset_fieldElements text others isEscaped
        simp [further]

end

/-- The document of a value is well-formed exactly if its names and strings may be written. -/
theorem isDocument_iff (json : Json) :
    IsDocument (document json) ↔
      (∀ name ∈ json.names, NamesElement name) ∧ ∀ text ∈ json.strings, IsAllowedText text := by
  constructor
  · rintro ⟨name, inner, isText, valid, within⟩
    have whole : IsContent (element "root" (content json)) := by
      rw [List.append_cancel_left isText]
      exact .singleton valid within
    obtain ⟨tags, has, validTags⟩ := whole.hasTags
    obtain ⟨inside, hasInside, named⟩ := exists_tags_content json
    have areTags := has.eq (hasTags_element "root" hasInside)
    constructor
    · intro name member
      refine (validTags (elementName name) ?_).resolve_right (head?_elementName_ne name)
      rw [areTags]
      simp [named name member]
    · intro text member
      apply isAllowedText_of_escape
      intro character isEscaped
      have inContent := subset_content text member isEscaped
      apply whole.isAllowed character
      rw [element_eq]
      simp [inContent]
  · rintro ⟨names, strings⟩
    refine ⟨elementName "root", content json, ?_, namesElement_root, ?_⟩
    · rw [document, element_eq]
      rfl
    · exact isContent_content names strings

end Xml

/-! ## Records -/

open Xml (IsAllowedText NamesElement)

/-- Nothing within the value has a name, and nothing within it is a string. -/
structure Json.IsBare (json : Json) : Prop where
  names : json.names = []
  strings : json.strings = []

namespace Json.IsBare

theorem array
    {items : List Json}
    (bare : ∀ item ∈ items, item.IsBare) :
    IsBare (.array items) := by
  constructor
  · change itemNames items = []
    induction items with
    | nil => rfl
    | cons item rest induction =>
        rw [List.forall_mem_cons] at bare
        rw [itemNames, bare.1.names, induction bare.2, List.append_nil]
  · change itemStrings items = []
    induction items with
    | nil => rfl
    | cons item rest induction =>
        rw [List.forall_mem_cons] at bare
        rw [itemStrings, bare.1.strings, induction bare.2, List.append_nil]

theorem ofBinary64 (number : Binary64) : IsBare (Json.ofBinary64 number) := by
  unfold Json.ofBinary64
  split_ifs <;> exact ⟨rfl, rfl⟩

end Json.IsBare

namespace Json

theorem names_strings (texts : List String) : (Json.array (texts.map .string)).names = [] := by
  induction texts with
  | nil => rfl
  | cons text rest induction => exact induction

theorem strings_strings (texts : List String) :
    (Json.array (texts.map .string)).strings = texts := by
  induction texts with
  | nil => rfl
  | cons text rest induction => exact congrArg (text :: ·) induction

theorem forall_mem_itemNames
    {items : List Json}
    {allowed : String → Prop} :
    (∀ name ∈ itemNames items, allowed name) ↔
      ∀ item ∈ items, ∀ name ∈ item.names, allowed name := by
  induction items with
  | nil => exact iff_of_true nofun nofun
  | cons item rest induction =>
      rw [itemNames, List.forall_mem_append, List.forall_mem_cons, induction]

theorem forall_mem_itemStrings
    {items : List Json}
    {allowed : String → Prop} :
    (∀ text ∈ itemStrings items, allowed text) ↔
      ∀ item ∈ items, ∀ text ∈ item.strings, allowed text := by
  induction items with
  | nil => exact iff_of_true nofun nofun
  | cons item rest induction =>
      rw [itemStrings, List.forall_mem_append, List.forall_mem_cons, induction]

theorem forall_mem_fieldNames
    {fields : List (String × Json)}
    {allowed : String → Prop} :
    (∀ name ∈ fieldNames fields, allowed name) ↔
      ∀ field ∈ fields, allowed field.1 ∧ ∀ name ∈ field.2.names, allowed name := by
  induction fields with
  | nil => exact iff_of_true nofun nofun
  | cons field rest induction =>
      rw [fieldNames, List.forall_mem_cons, List.forall_mem_append, List.forall_mem_cons,
        induction, and_assoc]

theorem forall_mem_fieldStrings
    {fields : List (String × Json)}
    {allowed : String → Prop} :
    (∀ text ∈ fieldStrings fields, allowed text) ↔
      ∀ field ∈ fields, ∀ text ∈ field.2.strings, allowed text := by
  induction fields with
  | nil => exact iff_of_true nofun nofun
  | cons field rest induction =>
      rw [fieldStrings, List.forall_mem_append, List.forall_mem_cons, induction]

end Json

namespace Value

/-- The texts of a value that are given from outside. -/
def givenTexts : Value → List String
  | .string text => [text]
  | .association keys => keys.map keyText
  | _ => []

theorem isAllowedText_of_plain
    {text : List Char}
    (plain : Xml.Plain text) :
    IsAllowedText (String.ofList text) := by
  rw [IsAllowedText, String.toList_ofList]
  exact plain.isAllowed

/-- The form of a value has no names, and its strings are allowed if the given ones are. -/
theorem formatted_allowed
    {value : Value}
    {column : String}
    {json : Json}
    (found : value.formatted column = .ok json) :
    json.names = [] ∧
      ((∀ text ∈ json.strings, IsAllowedText text) ↔
        ∀ text ∈ value.givenTexts, IsAllowedText text) := by
  have bare (bare : json.IsBare) (none : value.givenTexts = []) :
      json.names = [] ∧
        ((∀ text ∈ json.strings, IsAllowedText text) ↔
          ∀ text ∈ value.givenTexts, IsAllowedText text) := by
    rw [bare.strings, none]
    exact ⟨bare.names, Iff.rfl⟩
  have spelled {text : List Char} (plain : Xml.Plain text) :
      (∀ other ∈ [String.ofList text], IsAllowedText other) ↔
        ∀ other ∈ ([] : List String), IsAllowedText other :=
    iff_of_true (List.forall_mem_singleton.mpr (isAllowedText_of_plain plain)) nofun
  cases value with
  | null => cases found; exact ⟨rfl, Iff.rfl⟩
  | bool truth => cases found; exact ⟨rfl, Iff.rfl⟩
  | int number => cases found; exact ⟨rfl, Iff.rfl⟩
  | float number => cases found; exact bare (.ofBinary64 number) rfl
  | decimal number => cases found; exact bare (.ofBinary64 number.toBinary64) rfl
  | string text => cases found; exact ⟨rfl, Iff.rfl⟩
  | date day => cases found; exact ⟨rfl, spelled (.date day)⟩
  | dateTime moment => cases found; exact ⟨rfl, spelled (.dateTime moment)⟩
  | time moment => cases found; exact ⟨rfl, spelled (.time moment)⟩
  | geometry shape =>
      have coordinates := Outcome.mapError_eq_ok.mp found
      exact bare (Geometry.coordinates_induction .ofBinary64 .array coordinates) rfl
  | association keys =>
      cases found
      have texts :
          keys.map (fun key => Json.string (keyText key)) = (keys.map keyText).map .string :=
        List.map_map.symm
      rw [texts]
      exact ⟨Json.names_strings _, by rw [Json.strings_strings, givenTexts]⟩

end Value

/-- The names of the fields and the strings within them may be written. -/
def IsAllowedRow (row : List (String × Json)) : Prop :=
  ∀ field ∈ row,
    NamesElement field.1 ∧
      (∀ name ∈ field.2.names, NamesElement name) ∧ ∀ text ∈ field.2.strings, IsAllowedText text

/-- The names and the strings within an array of rows are those of its rows. -/
theorem isAllowedRows_iff (rows : List (List (String × Json))) :
    ((∀ name ∈ (Json.array (rows.map .object)).names, NamesElement name) ∧
      ∀ text ∈ (Json.array (rows.map .object)).strings, IsAllowedText text) ↔
    ∀ row ∈ rows, IsAllowedRow row := by
  simp only [Json.names, Json.strings, Json.forall_mem_itemNames, Json.forall_mem_itemStrings,
    List.forall_mem_map, Json.forall_mem_fieldNames, Json.forall_mem_fieldStrings, IsAllowedRow]
  constructor
  · rintro ⟨names, strings⟩ row isRow field isField
    obtain ⟨own, inner⟩ := names row isRow field isField
    exact ⟨own, inner, strings row isRow field isField⟩
  · intro allowed
    refine ⟨fun row isRow field isField => ?_, fun row isRow field isField => ?_⟩
    · obtain ⟨own, inner, _⟩ := allowed row isRow field isField
      exact ⟨own, inner⟩
    · exact (allowed row isRow field isField).2.2

/-- The row of a record may be written exactly if its names and its given texts may. -/
theorem isAllowedRow_iff
    {table : Table}
    {record : Record}
    {row : List (String × Json)}
    (isRow : record.formatted table table.columns = .ok row) :
    (∀ column ∈ table.columns,
      NamesElement column.name ∧
        ∀ given ∈ (record.get column.name).givenTexts, IsAllowedText given) ↔
    IsAllowedRow row := by
  refine Outcome.forall_iff_of_forall₂ (Record.formatted_eq_ok.mp isRow) ?_
  rintro column ⟨name, form⟩ ⟨rfl, isForm⟩
  obtain ⟨noNames, strings⟩ := Value.formatted_allowed isForm
  rw [noNames, strings]
  exact and_congr_right fun _ => (and_iff_right nofun).symm

/-- The XML text of records is well-formed exactly if the names of the columns give valid names
of elements and all given texts have allowed characters only, unless there is no record at all.
The XML text of the description of a table is so exactly if the names and strings of the
description are. -/
theorem xml_wellFormed_iff (table : Table) :
    (∀ records text,
      serialize table .xml records = .ok text →
      (Xml.IsDocument text ↔
        ∀ record ∈ records, ∀ column ∈ table.columns,
          NamesElement column.name ∧
            ∀ given ∈ (record.get column.name).givenTexts, IsAllowedText given)) ∧
    ∀ text,
      serializeTable table .xml = .ok text →
      (Xml.IsDocument text ↔
        (∀ name ∈ table.document.toJson.names, NamesElement name) ∧
          ∀ given ∈ table.document.toJson.strings, IsAllowedText given) := by
  constructor
  · intro records text written
    rw [serialize_xml] at written
    obtain ⟨rows, areRows, rfl⟩ := Outcome.map_eq_ok.mp written
    rw [Xml.isDocument_iff, isAllowedRows_iff]
    exact (Outcome.forall_iff_of_forall₂ (Outcome.mapM_eq_ok.mp areRows) isAllowedRow_iff).symm
  · intro text written
    cases written
    exact Xml.isDocument_iff table.document.toJson

/-- The XML text of parcels with names that have to be escaped is well-formed. -/
theorem xml_wellFormed_iff_namedParcels :
    ∃ text,
      serialize namedParcelsTable .xml namedParcelRecords = .ok text ∧ Xml.IsDocument text := by
  have written : ∃ text, serialize namedParcelsTable .xml namedParcelRecords = .ok text := by
    rw [serialize_xml]
    exact ⟨_, rfl⟩
  obtain ⟨text, isText⟩ := written
  have number : NamesElement "id" := by decide +kernel
  have area : NamesElement "area" := by decide +kernel
  have site : NamesElement "site" := by decide +kernel
  have name : NamesElement "name" := by decide +kernel
  have named (text : String) (allowed : IsAllowedText text) :
      ∀ given ∈ (Value.string text).givenTexts, IsAllowedText given :=
    List.forall_mem_singleton.mpr allowed
  refine ⟨text, isText, ((xml_wellFormed_iff namedParcelsTable).1 _ text isText).mpr ?allowed⟩
  simp only [namedParcelRecords, List.forall_mem_cons]
  refine ⟨?whole, ?unsited, ?unnamed, nofun⟩
  case whole =>
    exact forall_mem_namedParcelsTable_columns ⟨number, nofun⟩ ⟨area, nofun⟩ ⟨site, nofun⟩
      ⟨name, named _ (by decide +kernel)⟩
  case unsited =>
    exact forall_mem_namedParcelsTable_columns ⟨number, nofun⟩ ⟨area, nofun⟩ ⟨site, nofun⟩
      ⟨name, named _ (by decide +kernel)⟩
  case unnamed =>
    exact forall_mem_namedParcelsTable_columns ⟨number, nofun⟩ ⟨area, nofun⟩ ⟨site, nofun⟩
      ⟨name, nofun⟩

/-- A reading is written as XML, but not well-formed if its name or its text is not allowed. -/
theorem exists_not_isDocument_reading
    (name given : String)
    (notAllowed : ¬(NamesElement name ∧ IsAllowedText given)) :
    ∃ text,
      serialize (readingsTable name ⟨"TEXT", []⟩) .xml [.ofFields [(name, .string given)]] =
          .ok text ∧
        ¬Xml.IsDocument text := by
  have isGiven : (Record.ofFields [(name, .string given)]).get name = .string given := by
    rw [Record.get_ofFields_singleton, if_pos rfl]
  have form :
      (Record.ofFields [(name, .string given)]).formatted (readingsTable name ⟨"TEXT", []⟩)
          (readingsTable name ⟨"TEXT", []⟩).columns =
        .ok [(name, .string given)] :=
    Record.formatted_eq_ok.mpr (.cons ⟨rfl, congrArg (Value.formatted · name) isGiven⟩ .nil)
  have written :
      serialize (readingsTable name ⟨"TEXT", []⟩) .xml [.ofFields [(name, .string given)]] =
        .ok (Xml.document (.array [.object [(name, .string given)]])) := by
    rw [serialize_xml, rowsOf, List.mapM_cons, form, List.mapM_nil]
    rfl
  refine ⟨_, written, fun document => notAllowed ?_⟩
  obtain ⟨names, strings⟩ := (Xml.isDocument_iff _).mp document
  exact ⟨names name List.mem_cons_self, strings given List.mem_cons_self⟩

/-- A letter that no name in XML has and a control character are written as they are, and so is
such a letter in the description of a table. -/
theorem xml_not_wellFormed :
    (∃ text,
      (readings "ª" "TEXT").describe = .ok (readingsTable "ª" ⟨"TEXT", []⟩) ∧
        serialize (readingsTable "ª" ⟨"TEXT", []⟩) .xml [.ofFields [("ª", .string "x")]] =
          .ok text ∧
        ¬Xml.IsDocument text) ∧
    (∃ text,
      (readings "s" "TEXT").describe = .ok (readingsTable "s" ⟨"TEXT", []⟩) ∧
        serialize (readingsTable "s" ⟨"TEXT", []⟩) .xml [.ofFields [("s", .string "\x01")]] =
          .ok text ∧
        ¬Xml.IsDocument text) ∧
    ∃ text,
      serializeTable (readingsTable "ª" ⟨"TEXT", []⟩) .xml = .ok text ∧
        ¬Xml.IsDocument text := by
  have described (name : String) :
      (readings name "TEXT").describe = .ok (readingsTable name ⟨"TEXT", []⟩) :=
    describe_readings name (by decide +kernel) (by decide +kernel)
  have unnamed : ¬NamesElement "ª" := by decide +kernel
  have control : ¬IsAllowedText "\x01" := by decide +kernel
  obtain ⟨first, isFirst, notFirst⟩ :=
    exists_not_isDocument_reading "ª" "x" fun allowed => unnamed allowed.1
  obtain ⟨second, isSecond, notSecond⟩ :=
    exists_not_isDocument_reading "s" "\x01" fun allowed => control allowed.2
  refine ⟨⟨first, described "ª", isFirst, notFirst⟩,
    ⟨second, described "s", isSecond, notSecond⟩, _, rfl, ?_⟩
  intro document
  have names := (Xml.isDocument_iff _).mp document
  exact unnamed (names.1 "ª" (by decide +kernel))

end GeoTables
