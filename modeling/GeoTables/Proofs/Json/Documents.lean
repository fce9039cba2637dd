import GeoTables.Json.Document
import GeoTables.Proofs.Json.Depth
import Mathlib.Data.List.Perm.Subperm

/-!
# Documents that are written and read

The text of a document has an outline in which the entries of every record
stand as they were given, and a name that is given twice stands there twice.
A reader keeps one field for each name, so that it has all entries of a record
exactly if their names are distinct.
-/

namespace GeoTables.Json

/-! ## Outlines without repeated names -/

namespace Outline

mutual

/-- No object within the outline has two members of the same name. -/
def HasDistinctNames : Outline → Prop
  | .null | .bool _ | .number _ | .string _ => True
  | .array items => ItemsHaveDistinctNames items
  | .object members =>
      (members.map fun member => member.1.value?).Nodup ∧ MembersHaveDistinctNames members

/-- No object within the items has two members of the same name. -/
def ItemsHaveDistinctNames : List Outline → Prop
  | [] => True
  | item :: rest => item.HasDistinctNames ∧ ItemsHaveDistinctNames rest

/-- No object within the values of the members has two members of the same name. -/
def MembersHaveDistinctNames : List (StringText × Outline) → Prop
  | [] => True
  | (_, member) :: rest => member.HasDistinctNames ∧ MembersHaveDistinctNames rest

end

end Outline

/-- Written names are distinct exactly if the names are. -/
theorem nodup_writtenNames_iff
    {names : List String} :
    (names.map fun name => StringText.value? (name.toList.map .ofWritten)).Nodup ↔
      names.Nodup := by
  simp only [value?_string]
  exact List.nodup_map_iff (Option.some_injective _)

theorem writtenNames_fieldOutlines (fields : List (String × Json)) :
    (fieldOutlines fields).map (fun member => member.1.value?) =
      (fields.map Prod.fst).map fun name => StringText.value? (name.toList.map .ofWritten) := by
  induction fields with
  | nil => rfl
  | cons field rest induction => simp [fieldOutlines, induction]

mutual

/-- The objects of a plain value have distinct names. -/
theorem hasDistinctNames_outline :
    ∀ {json : Json} {depth : Nat}, json.IsPlain depth → json.outline.HasDistinctNames
  | .null, _, _ | .bool _, _, _ | .number _, _, _ | .string _, _, _ => trivial
  | .array _, _, plain => itemsHaveDistinctNames_outlines plain.2
  | .object fields, _, plain => by
      refine ⟨?_, membersHaveDistinctNames_outlines plain.2.2⟩
      rw [writtenNames_fieldOutlines, nodup_writtenNames_iff]
      exact plain.2.1.nodup

theorem itemsHaveDistinctNames_outlines :
    ∀ {items : List Json} {depth : Nat},
      ArePlain depth items → Outline.ItemsHaveDistinctNames (itemOutlines items)
  | [], _, _ => trivial
  | _ :: _, _, plain =>
      ⟨hasDistinctNames_outline plain.1, itemsHaveDistinctNames_outlines plain.2⟩

theorem membersHaveDistinctNames_outlines :
    ∀ {fields : List (String × Json)} {depth : Nat},
      FieldsArePlain depth fields → Outline.MembersHaveDistinctNames (fieldOutlines fields)
  | [], _, _ => trivial
  | (_, _) :: _, _, plain =>
      ⟨hasDistinctNames_outline plain.1, membersHaveDistinctNames_outlines plain.2⟩

end

/-! ## Fields in the order of their names -/

/-- Fields of distinct names are only put in another order. -/
theorem sortedFields_perm
    {fields : List (String × Json)}
    (distinct : (fields.map Prod.fst).Nodup) :
    (sortedFields fields).Perm fields :=
  (List.perm_ext_iff_of_nodup (ascending_sortedFields fields).nodup.of_map distinct.of_map).mpr
    fun entry => ⟨mem_of_mem_sortedFields entry, mem_sortedFields distinct⟩

/-- All fields are kept exactly if their names are distinct. -/
theorem length_sortedFields_eq_iff
    {fields : List (String × Json)} :
    (sortedFields fields).length = fields.length ↔ (fields.map Prod.fst).Nodup := by
  refine ⟨fun all => ?_, fun distinct => (sortedFields_perm distinct).length_eq⟩
  have sorted : ((sortedFields fields).map Prod.fst).Nodup :=
    (ascending_sortedFields fields).nodup
  have within : (sortedFields fields).map Prod.fst ⊆ fields.map Prod.fst :=
    List.map_subset Prod.fst fun entry member => mem_of_mem_sortedFields entry member
  have permuted := (List.subperm_of_subset sorted within).perm_of_length_le (by simp [all])
  exact permuted.nodup_iff.mp sorted

/-- The second field has the name of the first one and what its value is read back as. -/
def IsRereadAs (field read : String × Json) : Prop :=
  read.1 = field.1 ∧ field.2.reread? = some read.2

theorem rereadFields?_eq_some_iff
    {fields values : List (String × Json)} :
    rereadFields? fields = some values ↔ List.Forall₂ IsRereadAs fields values := by
  induction fields generalizing values with
  | nil => simp [rereadFields?, eq_comm]
  | cons field rest induction =>
      obtain ⟨name, value⟩ := field
      simp only [rereadFields?, Option.bind_eq_bind, Option.bind_eq_some_iff, Option.pure_def,
        Option.some.injEq, induction]
      constructor
      · rintro ⟨read, isRead, others, areOthers, rfl⟩
        exact .cons ⟨rfl, isRead⟩ areOthers
      · rintro (_ | @⟨_, ⟨_, read⟩, _, _, ⟨rfl, isRead⟩, areOthers⟩)
        exact ⟨read, isRead, _, areOthers, rfl⟩

/-- A field may be set before or after the others are read back. -/
theorem forall₂_setField
    {name : String}
    {value read : Json}
    {fields values : List (String × Json)}
    (isRead : value.reread? = some read)
    (areRead : List.Forall₂ IsRereadAs fields values) :
    List.Forall₂ IsRereadAs (setField name value fields) (setField name read values) := by
  induction areRead with
  | nil => exact .cons ⟨rfl, isRead⟩ .nil
  | @cons field found fields values own others induction =>
      obtain ⟨other, kept⟩ := field
      obtain ⟨_, keptRead⟩ := found
      obtain ⟨rfl, keptIsRead⟩ := own
      unfold setField at induction ⊢
      unfold Entries.place
      dsimp only at keptIsRead ⊢
      split_ifs
      · exact .cons ⟨rfl, isRead⟩ (.cons ⟨rfl, keptIsRead⟩ others)
      · exact .cons ⟨rfl, isRead⟩ others
      · exact .cons ⟨rfl, keptIsRead⟩ induction

/-- Fields may be sorted before or after they are read back. -/
theorem rereadFields?_sortedFields
    {fields values : List (String × Json)}
    (read : rereadFields? fields = some values) :
    rereadFields? (sortedFields fields) = some (sortedFields values) := by
  rw [rereadFields?_eq_some_iff] at read ⊢
  have carried :
      ∀ {fields values}, List.Forall₂ IsRereadAs fields values →
        ∀ {sorted others}, List.Forall₂ IsRereadAs sorted others →
          List.Forall₂ IsRereadAs
            (fields.foldl (fun sorted field => setField field.1 field.2 sorted) sorted)
            (values.foldl (fun sorted field => setField field.1 field.2 sorted) others) := by
    intro fields values paired
    induction paired with
    | nil => exact id
    | cons own _ induction =>
        intro sorted others further
        rw [List.foldl_cons, List.foldl_cons, own.1]
        exact induction (forall₂_setField own.2 further)
  exact carried read .nil

/-- An integer of 64 bits, signed or not, is read back as it was. -/
theorem reread?_ofInt
    {number : Int}
    (atLeast : -(2 ^ 63 : Int) ≤ number)
    (below : number < (2 ^ 64 : Int)) :
    (ofInt number).reread? = some (ofInt number) := by
  rw [ofInt, reread?, Number.reread?_integer atLeast below]
  rfl

theorem IsRegular.ofInt (number : Int) : IsRegular (ofInt number) := ⟨0, trivial⟩

namespace Document

/-! ## Outlines of documents -/

mutual

/-- The outline of the text of a document. -/
def outline : Document → Outline
  | .value json => json.outline
  | .list items => .array (listOutlines items)
  | .record entries => .object (entryOutlines entries)

/-- The outlines of the texts of a list of documents. -/
def listOutlines : List Document → List Outline
  | [] => []
  | item :: rest => outline item :: listOutlines rest

/-- The outlines of the texts of the entries of a record. -/
def entryOutlines : List (String × Document) → List (StringText × Outline)
  | [] => []
  | (name, document) :: rest =>
      (name.toList.map .ofWritten, outline document) :: entryOutlines rest

end

/-- All values within the document are regular, those of repeated names among them. -/
inductive IsRegular : Document → Prop where
  | value
      {json : Json}
      (regular : json.IsRegular) :
      IsRegular (.value json)
  | list
      {items : List Document}
      (regular : ∀ item ∈ items, IsRegular item) :
      IsRegular (.list items)
  | record
      {entries : List (String × Document)}
      (regular : ∀ entry ∈ entries, IsRegular entry.2) :
      IsRegular (.record entries)

/-- The entries of a record. -/
def entries : Document → List (String × Document)
  | .record entries => entries
  | .value _ | .list _ => []

section

variable {items : List Document} {entries : List (String × Document)}

theorem scans_listCharacters
    (scans : ∀ item ∈ items, Scans (characters item) (outline item).lexemes) :
    List.Forall₂ Scans (listCharacters items) (Outline.itemLexemes (listOutlines items)) := by
  induction items with
  | nil => exact .nil
  | cons item rest induction =>
      rw [List.forall_mem_cons] at scans
      exact .cons scans.1 (induction scans.2)

theorem scans_entryCharacters
    (scans : ∀ entry ∈ entries, Scans (characters entry.2) (outline entry.2).lexemes) :
    List.Forall₂ Scans (entryCharacters entries)
      (Outline.memberLexemes (entryOutlines entries)) := by
  induction entries with
  | nil => exact .nil
  | cons entry rest induction =>
      rw [List.forall_mem_cons] at scans
      exact .cons (scans.1.entry entry.1) (induction scans.2)

/-- The text of a regular document scans to the lexemes of its outline. -/
theorem IsRegular.scans
    {document : Document}
    (regular : document.IsRegular) :
    Scans document.characters document.outline.lexemes := by
  induction regular with
  | value regular => exact regular.scans
  | list _ scans => exact Scans.arrayOf (scans_listCharacters scans)
  | record _ scans => exact Scans.objectOf (scans_entryCharacters scans)

/-- The text of a regular document has its outline. -/
theorem outline_characters
    {document : Document}
    (regular : document.IsRegular) :
    Outline.ofText? document.characters = some document.outline :=
  Outline.ofText?_of_scans regular.scans

theorem ofText?_characters
    {document : Document}
    (regular : document.IsRegular) :
    Json.ofText? document.characters = document.outline.value? maxDepth := by
  rw [Json.ofText?, outline_characters regular]
  rfl

/-! ## Repeated names -/

theorem hasDistinctNames_outline_value
    {json : Json}
    (regular : json.IsRegular) :
    (outline (.value json)).HasDistinctNames := by
  obtain ⟨_, plain⟩ := regular
  exact Json.hasDistinctNames_outline plain

theorem hasDistinctNames_outline_list :
    (outline (.list items)).HasDistinctNames ↔
      ∀ item ∈ items, item.outline.HasDistinctNames := by
  rw [outline, Outline.HasDistinctNames]
  induction items with
  | nil => exact iff_of_true trivial nofun
  | cons item rest induction =>
      rw [listOutlines, Outline.ItemsHaveDistinctNames, List.forall_mem_cons, induction]

theorem writtenNames_entryOutlines :
    (entryOutlines entries).map (fun member => member.1.value?) =
      (entries.map Prod.fst).map fun name => StringText.value? (name.toList.map .ofWritten) := by
  induction entries with
  | nil => rfl
  | cons entry rest induction => simp [entryOutlines, induction]

theorem membersHaveDistinctNames_entryOutlines :
    Outline.MembersHaveDistinctNames (entryOutlines entries) ↔
      ∀ entry ∈ entries, entry.2.outline.HasDistinctNames := by
  induction entries with
  | nil => exact iff_of_true trivial nofun
  | cons entry rest induction =>
      rw [entryOutlines, Outline.MembersHaveDistinctNames, List.forall_mem_cons, induction]

/-- The text of a record repeats no name exactly if its entries have distinct names and their own
texts repeat none. -/
theorem hasDistinctNames_outline_record :
    (outline (.record entries)).HasDistinctNames ↔
      (entries.map Prod.fst).Nodup ∧ ∀ entry ∈ entries, entry.2.outline.HasDistinctNames := by
  rw [outline, Outline.HasDistinctNames, writtenNames_entryOutlines, nodup_writtenNames_iff,
    membersHaveDistinctNames_entryOutlines]

/-! ## Values of documents -/

theorem rereadItems?_listValues
    {depth : Nat}
    {values : List Json}
    (reads : ∀ item ∈ items, ∀ json, item.outline.value? depth = some json →
      item.toJson.reread? = some json)
    (found : Outline.itemValues? depth (listOutlines items) = some values) :
    rereadItems? (listValues items) = some values := by
  induction items generalizing values with
  | nil => exact found
  | cons item rest induction =>
      rw [List.forall_mem_cons] at reads
      simp only [listOutlines, Outline.itemValues?, Option.bind_eq_bind, Option.bind_eq_some_iff,
        Option.pure_def, Option.some.injEq] at found
      obtain ⟨own, isOwn, others, areOthers, rfl⟩ := found
      rw [listValues, rereadItems?, reads.1 own isOwn, induction reads.2 areOthers]
      rfl

theorem rereadFields?_entryValues
    {depth : Nat}
    {values : List (String × Json)}
    (reads : ∀ entry ∈ entries, ∀ json, entry.2.outline.value? depth = some json →
      entry.2.toJson.reread? = some json)
    (found : Outline.memberValues? depth (entryOutlines entries) = some values) :
    rereadFields? (entryValues entries) = some values := by
  induction entries generalizing values with
  | nil => exact found
  | cons entry rest induction =>
      rw [List.forall_mem_cons] at reads
      simp only [entryOutlines, Outline.memberValues?, value?_string, Option.bind_eq_bind,
        Option.bind_some, Option.bind_eq_some_iff, Option.pure_def, Option.some.injEq] at found
      obtain ⟨own, isOwn, others, areOthers, rfl⟩ := found
      rw [entryValues, rereadFields?, reads.1 own isOwn, induction reads.2 areOthers]
      rfl

/-- What the text of a document is read as is what its value is read back as. -/
theorem reread?_toJson
    {document : Document}
    (regular : document.IsRegular)
    {depth : Nat}
    {json : Json}
    (read : document.outline.value? depth = some json) :
    document.toJson.reread? = some json := by
  induction regular generalizing depth json with
  | value regular =>
      obtain ⟨_, plain⟩ := regular
      have readable := isPlain_of_isSome_value? plain (Option.isSome_of_eq_some read)
      exact (Json.value?_outline readable).symm.trans read
  | list _ reads =>
      rw [outline, Outline.value?] at read
      split_ifs at read
      obtain ⟨values, found, rfl⟩ := Option.map_eq_some_iff.mp read
      rw [toJson, Json.reread?, rereadItems?_listValues (fun _ member _ => reads _ member) found]
      rfl
  | record _ reads =>
      rw [outline, Outline.value?] at read
      split_ifs at read
      obtain ⟨values, found, rfl⟩ := Option.map_eq_some_iff.mp read
      have fields := rereadFields?_entryValues (fun _ member _ => reads _ member) found
      change (rereadFields? (sortedFields _)).map _ = _
      rw [rereadFields?_sortedFields fields]
      rfl

/-! ## Documents that can be read -/

theorem isSome_value?_value_iff
    {json : Json}
    (regular : json.IsRegular)
    {depth : Nat} :
    ((outline (.value json)).value? depth).isSome ↔
      json.IsPlain depth ∧ json.reread?.isSome := by
  obtain ⟨_, plain⟩ := regular
  rw [outline]
  constructor
  · intro read
    have readable := isPlain_of_isSome_value? plain read
    exact ⟨readable, Json.value?_outline readable ▸ read⟩
  · rintro ⟨readable, read⟩
    rwa [Json.value?_outline readable]

/-- A list is read where there is room for it exactly if each of its items is read. -/
theorem isSome_value?_list_iff
    {depth : Nat} :
    ((outline (.list items)).value? (depth + 1)).isSome ↔
      ∀ item ∈ items, (item.outline.value? depth).isSome := by
  rw [outline, Outline.value?, if_neg (Nat.succ_ne_zero depth), Option.isSome_map,
    Nat.add_sub_cancel]
  induction items with
  | nil => exact iff_of_true rfl nofun
  | cons item rest induction =>
      rw [List.forall_mem_cons, ← induction, listOutlines, Outline.itemValues?]
      cases item.outline.value? depth <;>
        cases Outline.itemValues? depth (listOutlines rest) <;> simp

/-- A record is read where there is room for it exactly if each of its entries is read. -/
theorem isSome_value?_record_iff
    {depth : Nat} :
    ((outline (.record entries)).value? (depth + 1)).isSome ↔
      ∀ entry ∈ entries, (entry.2.outline.value? depth).isSome := by
  rw [outline, Outline.value?, if_neg (Nat.succ_ne_zero depth), Option.isSome_map,
    Nat.add_sub_cancel]
  induction entries with
  | nil => exact iff_of_true rfl nofun
  | cons entry rest induction =>
      rw [List.forall_mem_cons, ← induction, entryOutlines, Outline.memberValues?, value?_string]
      cases entry.2.outline.value? depth <;>
        cases Outline.memberValues? depth (entryOutlines rest) <;> simp

/-! ## Simple documents -/

/-- The document is a text, a truth value, an integer of 64 bits that may be left out, or a list of
texts. -/
inductive IsSimple : Document → Prop where
  | string (text : String) : IsSimple (ofString text)
  | bool (truth : Bool) : IsSimple (ofBool truth)
  | integer?
      {number : Option Int}
      (fits : ∀ value ∈ number, -(2 ^ 63 : Int) ≤ value ∧ value < (2 ^ 64 : Int)) :
      IsSimple (ofInt? number)
  | strings (texts : List String) : IsSimple (ofStrings texts)

namespace IsSimple

theorem ofNat
    {number : Nat}
    (fits : number < 2 ^ 64) :
    IsSimple (ofNat number) := by
  have within : ∀ value ∈ some (number : Int), -(2 ^ 63 : Int) ≤ value ∧ value < 2 ^ 64 := by
    rintro _ ⟨⟩
    omega
  exact .integer? within

theorem isRegular
    {document : Document}
    (simple : document.IsSimple) :
    document.IsRegular := by
  cases simple with
  | string text => exact .value (.string text)
  | bool truth => exact .value (.bool truth)
  | @integer? number _ =>
      cases number with
      | none => exact .value .null
      | some number => exact .value (.ofInt number)
  | strings texts => exact .list (List.forall_mem_map.mpr fun text _ => .value (.string text))

theorem hasDistinctNames
    {document : Document}
    (simple : document.IsSimple) :
    document.outline.HasDistinctNames := by
  cases simple with
  | string | bool => trivial
  | @integer? number _ => cases number <;> trivial
  | strings =>
      exact hasDistinctNames_outline_list.mpr (List.forall_mem_map.mpr fun _ _ => trivial)

/-- Simple documents are read where there is room for a list. -/
theorem isSome_value?
    {document : Document}
    (simple : document.IsSimple)
    (depth : Nat) :
    (document.outline.value? (depth + 1)).isSome := by
  have text (text : String) (depth : Nat) :
      ((outline (.value (.string text))).value? depth).isSome :=
    (isSome_value?_value_iff (.string text)).mpr ⟨trivial, rfl⟩
  cases simple with
  | string given => exact text given _
  | bool => rfl
  | @integer? number fits =>
      cases number with
      | none => rfl
      | some value =>
          refine (isSome_value?_value_iff (.ofInt value)).mpr ⟨trivial, ?_⟩
          rw [Json.reread?_ofInt (fits value rfl).1 (fits value rfl).2]
          rfl
  | strings texts =>
      exact isSome_value?_list_iff.mpr (List.forall_mem_map.mpr fun given _ => text given _)

end IsSimple

/-! ## Entries of records -/

theorem listValues_eq_map : listValues items = items.map toJson := by
  induction items with
  | nil => rfl
  | cons item rest induction => rw [listValues, induction, List.map_cons]

theorem entryValues_eq_map :
    entryValues entries = entries.map fun entry => (entry.1, entry.2.toJson) := by
  induction entries with
  | nil => rfl
  | cons entry rest induction =>
      rw [entryValues, induction]
      rfl

theorem names_entryValues : (entryValues entries).map Prod.fst = entries.map Prod.fst := by
  rw [entryValues_eq_map, List.map_map]
  rfl

/-- A record that is read back is an object of what the values of its entries are read back as. -/
theorem reread?_record_eq_some_iff
    {json : Json} :
    (toJson (.record entries)).reread? = some json ↔
      ∃ fields, json = .object fields ∧
        rereadFields? (sortedFields (entryValues entries)) = some fields := by
  change (rereadFields? (sortedFields (entryValues entries))).map Json.object = some json ↔ _
  rw [Option.map_eq_some_iff]
  exact exists_congr fun fields => by rw [and_comm, eq_comm]

/-- Of a record with distinct names the value of each entry is read back under its name. -/
theorem get?_of_reread?
    {json : Json}
    (distinct : (entries.map Prod.fst).Nodup)
    (read : (toJson (.record entries)).reread? = some json)
    {name : String}
    {document : Document}
    (member : (name, document) ∈ entries) :
    json.get? name = document.toJson.reread? := by
  obtain ⟨fields, rfl, areRead⟩ := reread?_record_eq_some_iff.mp read
  rw [← names_entryValues] at distinct
  have isValue : (name, document.toJson) ∈ entryValues entries := by
    rw [entryValues_eq_map]
    exact List.mem_map_of_mem member
  rw [get?, field?_of_rereadFields?_sortedFields distinct areRead,
    Entries.lookup_of_mem distinct isValue, Option.bind_some]

/-- If a record with distinct names is read back, the value of each of its entries is. -/
theorem isSome_reread?_of_mem
    {json : Json}
    (distinct : (entries.map Prod.fst).Nodup)
    (read : (toJson (.record entries)).reread? = some json)
    {name : String}
    {document : Document}
    (member : (name, document) ∈ entries) :
    document.toJson.reread?.isSome := by
  obtain ⟨fields, _, areRead⟩ := reread?_record_eq_some_iff.mp read
  rw [← names_entryValues] at distinct
  have each :=
    (isSome_rereadFields?_sortedFields_iff distinct).mp (Option.isSome_of_eq_some areRead)
  rw [entryValues_eq_map] at each
  exact each _ (List.mem_map_of_mem member)

/-- The value of a regular document is regular. -/
theorem IsRegular.toJson
    {document : Document}
    (regular : document.IsRegular) :
    document.toJson.IsRegular := by
  induction regular with
  | value regular => exact regular
  | list _ regular =>
      rw [Document.toJson, listValues_eq_map]
      exact .array (List.forall_mem_map.mpr regular)
  | record _ regular =>
      rw [Document.toJson, entryValues_eq_map]
      exact .ofFields (List.forall_mem_map.mpr regular)

end

end Document

/-- Under a name the value has an object with one field for each of the entries, and under another
name the number of these fields. -/
def Lists
    (json : Json)
    (name count : String)
    (entries : List (String × Document)) :
    Prop :=
  ∃ fields, json.get? name = some (.object fields) ∧
    json.get? count = some (.ofInt fields.length) ∧
      (fields.map fun field => (field.1, some field.2)).Perm
        (entries.map fun entry => (entry.1, entry.2.toJson.reread?))

/-- What fields are read back as, name by name. -/
theorem map_of_forall₂_isRereadAs
    {fields values : List (String × Json)}
    (read : List.Forall₂ IsRereadAs fields values) :
    values.map (fun value => (value.1, some value.2)) =
      fields.map fun field => (field.1, field.2.reread?) := by
  induction read with
  | nil => rfl
  | cons own _ induction => rw [List.map_cons, List.map_cons, induction, own.1, own.2]

/-- A record of distinct names that is read back within another one is listed there. -/
theorem lists_of_reread?
    {json : Json}
    {outer entries : List (String × Document)}
    {name count : String}
    (read : (Document.toJson (.record outer)).reread? = some json)
    (distinctOuter : (outer.map Prod.fst).Nodup)
    (listed : (name, .record entries) ∈ outer)
    (counted : (count, .ofNat entries.length) ∈ outer)
    (fits : entries.length < 2 ^ 64)
    (distinct : (entries.map Prod.fst).Nodup) :
    json.Lists name count entries := by
  have own := Document.get?_of_reread? distinctOuter read listed
  have number := Document.get?_of_reread? distinctOuter read counted
  have isCount :
      (Document.toJson (.ofNat entries.length)).reread? = some (ofInt entries.length) :=
    reread?_ofInt (by omega) (by exact_mod_cast fits)
  have isRead : (Document.toJson (.record entries)).reread?.isSome :=
    Document.isSome_reread?_of_mem distinctOuter read listed
  obtain ⟨value, isValue⟩ := Option.isSome_iff_exists.mp isRead
  obtain ⟨fields, rfl, areRead⟩ := Document.reread?_record_eq_some_iff.mp isValue
  rw [← Document.names_entryValues] at distinct
  have permuted := sortedFields_perm distinct
  have paired := rereadFields?_eq_some_iff.mp areRead
  have size : fields.length = entries.length := by
    rw [← paired.length_eq, permuted.length_eq, Document.entryValues_eq_map, List.length_map]
  refine ⟨fields, own.trans isValue, ?_, ?_⟩
  · rw [number, isCount, size]
  · rw [map_of_forall₂_isRereadAs paired]
    refine (permuted.map _).trans (.of_eq ?_)
    rw [Document.entryValues_eq_map, List.map_map]
    rfl

end GeoTables.Json
