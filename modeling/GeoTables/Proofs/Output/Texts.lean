import GeoTables.Json.Record
import GeoTables.Proofs.Output.Layout
import GeoTables.Proofs.Output.Value

/-!
# The texts of records

In every format the text of some records is made from their forms: an array of
objects, a collection of features, or one XML document.  The outlines of the
first two texts are those of the forms they are made from.
-/

namespace GeoTables

open Json (Outline)

namespace Json

/-- A member is written for every field. -/
theorem fieldTexts_eq_map (fields : List (String × Json)) :
    fieldTexts fields = fields.map fun field => entry field.1 field.2.characters := by
  induction fields with
  | nil => rfl
  | cons field rest induction => rw [fieldTexts, induction, List.map_cons]

theorem itemLexemes_eq_map (items : List Outline) :
    Outline.itemLexemes items = items.map Outline.lexemes := by
  induction items with
  | nil => rfl
  | cons item rest induction => rw [Outline.itemLexemes, induction, List.map_cons]

/-- Texts that have outlines make an array that has them as its items. -/
theorem Scans.outlines
    {texts : List (List Char)}
    {items : List Outline}
    (each : List.Forall₂ (fun text item => Scans text item.lexemes) texts items) :
    Scans (Json.arrayOf texts) (Outline.array items).lexemes := by
  rw [Outline.lexemes, itemLexemes_eq_map]
  exact Scans.arrayOf (List.forall₂_map_right_iff.mpr each)

namespace Outline

/-- The members of an object with their names, in the order in which they are written. -/
def members? : Outline → Option (List (String × Outline))
  | .object members => named? members
  | _ => none

/-- The object of members whose names are written as they are. -/
def ofMembers (members : List (String × Outline)) : Outline :=
  .object (members.map (Prod.map (fun name => name.toList.map .ofWritten) id))

/-- Written names are read back. -/
@[simp]
theorem members?_ofMembers (members : List (String × Outline)) :
    (ofMembers members).members? = some members := by
  have named : named? (members.map (Prod.map (fun name => name.toList.map .ofWritten) id)) =
      some members := by
    induction members with
    | nil => rfl
    | cons member rest induction =>
        rw [List.map_cons, Prod.map, named?, value?_string, induction]
        rfl
  exact named

end Outline

/-- The members by which fields are written. -/
def membersOf (fields : List (String × Json)) : List (String × Outline) :=
  fields.map (Prod.map id outline)

theorem ofMembers_membersOf (fields : List (String × Json)) :
    Outline.ofMembers (membersOf fields) = .object (fieldOutlines fields) := by
  have same : (membersOf fields).map (Prod.map (fun name => name.toList.map .ofWritten) id) =
      fieldOutlines fields := by
    induction fields with
    | nil => rfl
    | cons field rest induction =>
        rw [fieldOutlines, ← induction]
        rfl
  rw [Outline.ofMembers, same]

/-- Items with commas between them are the first item and a comma in front of each other one. -/
theorem joined_cons
    (first : List Char)
    (rest : List (List Char)) :
    joined (first :: rest) = first ++ rest.flatMap (',' :: ·) := by
  induction rest generalizing first with
  | nil => exact (List.append_nil first).symm
  | cons second others induction =>
      rw [joined, induction, List.flatMap_cons, List.cons_append]
      exact List.cons_ne_nil second others

end Json

namespace Layout

/-- Items with a comma as their separator are joined by commas. -/
theorem body_eq_joined
    {layout : Layout}
    (comma : layout.separator = [','])
    (items : List (List Char)) :
    layout.body items = Json.joined items := by
  cases items with
  | nil => rfl
  | cons first rest =>
      rw [Json.joined_cons, body, followed, comma]
      rfl

/-- Items without a separator stand one behind the other. -/
theorem body_of_no_separator
    {layout : Layout}
    (none : layout.separator = [])
    (items : List (List Char)) :
    layout.body items = items.flatten := by
  cases items with
  | nil => rfl
  | cons first rest => simp [body, followed, none]

end Layout

/-- If items are made from forms, the text is made from the forms of all records. -/
theorem serialize_of_forms
    {Form : Type}
    {table : Table}
    {format : Format}
    {form : Record → Except Failure Form}
    {itemText : Form → List Char}
    {wholeText : List Form → List Char}
    (item : ∀ record, (Layout.ofFormat table format).item record = (form record).map itemText)
    (text : ∀ forms, (Layout.ofFormat table format).text (forms.map itemText) = wholeText forms)
    (records : List Record) :
    serialize table format records = (records.mapM form).map wholeText := by
  rw [serialize_eq, funext item, Outcome.mapM_map]
  cases records.mapM form with
  | error failure => rfl
  | ok forms => exact congrArg Except.ok (text forms)

/-! ## Arrays of objects -/

/-- The forms of records in all columns, unless one of them has none. -/
def rowsOf (table : Table) (records : List Record) : Except Failure (List (List (String × Json))) :=
  records.mapM fun record => record.formatted table table.columns

/-- A row as a JSON text. -/
def rowText (row : List (String × Json)) : List Char :=
  Json.objectOf (Json.fieldTexts row)

/-- The text of a row has an object of its fields as its outline. -/
theorem scans_rowText
    {row : List (String × Json)}
    (regular : ∀ entry ∈ row, entry.2.IsRegular) :
    Json.Scans (rowText row) (Outline.object (Json.fieldOutlines row)).lexemes :=
  Json.Scans.objectOf (Json.IsRegular.scans_fieldTexts regular)

/-- The text of an array of rows has an array of such objects as its outline. -/
theorem ofText?_arrayOf_rowText
    {rows : List (List (String × Json))}
    (regular : ∀ row ∈ rows, ∀ entry ∈ row, entry.2.IsRegular) :
    Outline.ofText? (Json.arrayOf (rows.map rowText)) =
      some (.array (rows.map fun row => .object (Json.fieldOutlines row))) := by
  have each : List.Forall₂ (fun text item => Json.Scans text item.lexemes)
      (rows.map rowText) (rows.map fun row => Outline.object (Json.fieldOutlines row)) := by
    rw [List.forall₂_map_left_iff, List.forall₂_map_right_iff, List.forall₂_same]
    exact fun row member => scans_rowText (regular row member)
  exact Outline.ofText?_of_scans (Json.Scans.outlines each)

namespace Layout

theorem item_plain
    (table : Table)
    (record : Record) :
    (plain table).item record = (record.formatted table table.columns).map rowText := by
  simp only [plain, ← Json.fieldTexts_eq_map]
  cases record.formatted table table.columns <;> rfl

theorem text_plain
    (table : Table)
    (rows : List (List (String × Json))) :
    (plain table).text (rows.map rowText) = Json.arrayOf (rows.map rowText) := by
  have joined : (plain table).body (rows.map rowText) = Json.joined (rows.map rowText) :=
    body_eq_joined rfl _
  rw [text, joined]
  rfl

end Layout

/-- The plain text of records is an array of their rows. -/
theorem serialize_json
    (table : Table)
    (records : List Record) :
    serialize table .json records =
      (rowsOf table records).map fun rows => Json.arrayOf (rows.map rowText) :=
  @serialize_of_forms _ table .json _ _ _ (Layout.item_plain table) (Layout.text_plain table)
    records

/-! ## Collections of features -/

/-- What a feature is made from. -/
structure Feature where
  geometry : Json
  properties : List (String × Json)

namespace Feature

/-- The feature as a JSON text. -/
def text (feature : Feature) : List Char :=
  Json.objectOf [
    Json.entry "type" (Json.quoted "Feature"),
    Json.entry "geometry" feature.geometry.characters,
    Json.entry "properties" (rowText feature.properties)]

/-- The feature of a record, unless its geometry or one of its properties has no form. -/
def ofRecord (table : Table) (record : Record) : Except Failure Feature := do
  let geometry ← Layout.featureGeometry table record
  let columns := table.columns.filter fun column => !column.isGeometry
  return ⟨geometry, ← record.formatted table columns⟩

/-- Features as the text of a collection. -/
def collectionText (features : List Feature) : List Char :=
  Json.objectOf [
    Json.entry "type" (Json.quoted "FeatureCollection"),
    Json.entry "features" (Json.arrayOf (features.map text))]

end Feature

namespace Layout

theorem item_features
    (table : Table)
    (record : Record) :
    (features table).item record = (Feature.ofRecord table record).map Feature.text := by
  change feature table record = _
  rw [feature, Feature.ofRecord]
  simp only [← Json.fieldTexts_eq_map]
  cases featureGeometry table record with
  | error failure => rfl
  | ok geometry =>
      cases record.formatted table (table.columns.filter fun column => !column.isGeometry) <;> rfl

/-- What stands before the first feature. -/
theorem opening_features :
    "\x7b\"type\":\"FeatureCollection\",\"features\":[".toList =
      '\x7b' :: (Json.quoted "type" ++ ':' :: (Json.quoted "FeatureCollection" ++
        ',' :: (Json.quoted "features" ++ [':', '[']))) := by
  decide +kernel

theorem text_features
    (table : Table)
    (found : List Feature) :
    (features table).text (found.map Feature.text) = Feature.collectionText found := by
  have joined :
      (features table).body (found.map Feature.text) = Json.joined (found.map Feature.text) :=
    body_eq_joined rfl _
  have opening : (features table).opening = _ := opening_features
  have closing : (features table).closing = [']', '\x7d'] := rfl
  rw [text, joined, opening, closing]
  simp only [Feature.collectionText, Json.objectOf, Json.joined, Json.entry, Json.arrayOf,
    List.cons_append, List.append_assoc, List.nil_append]

end Layout

/-- The text of records with geometries is the collection of their features. -/
theorem serialize_geoJson
    (table : Table)
    (records : List Record) :
    serialize table .geoJson records =
      (records.mapM (Feature.ofRecord table)).map Feature.collectionText :=
  @serialize_of_forms _ table .geoJson _ _ _ (Layout.item_features table)
    (Layout.text_features table) records

/-! ## XML documents -/

/-- The items of an array are written one after the other. -/
theorem Xml.itemElements_eq_flatMap (items : List Json) :
    itemElements items = items.flatMap fun item => element "item" (content item) := by
  induction items with
  | nil => rfl
  | cons item rest induction => rw [itemElements, induction, List.flatMap_cons]

namespace Layout

/-- A row as the item of an XML document. -/
def xmlItem (row : List (String × Json)) : List Char :=
  Xml.element "item" (Xml.content (.object row))

theorem item_xml
    (table : Table)
    (record : Record) :
    (xml table).item record = (record.formatted table table.columns).map xmlItem := by
  have tag : Xml.elementName "item" = ['i', 't', 'e', 'm'] := by decide +kernel
  have opening : "<item>".toList = ['<', 'i', 't', 'e', 'm', '>'] := by decide +kernel
  have closing : "</item>".toList = ['<', '/', 'i', 't', 'e', 'm', '>'] := by decide +kernel
  have same (row : List (String × Json)) :
      "<item>".toList ++ Xml.fieldElements row ++ "</item>".toList = xmlItem row := by
    rw [xmlItem, Xml.element, Xml.content, tag, opening, closing]
    simp only [List.cons_append, List.nil_append, List.append_assoc]
  change (record.formatted table table.columns >>= fun row => _) = _
  simp only [same]
  cases record.formatted table table.columns <;> rfl

theorem text_xml
    (table : Table)
    (rows : List (List (String × Json))) :
    (xml table).text (rows.map xmlItem) = Xml.document (.array (rows.map .object)) := by
  have tag : Xml.elementName "root" = ['r', 'o', 'o', 't'] := by decide +kernel
  have opening : "<root>".toList = ['<', 'r', 'o', 'o', 't', '>'] := by decide +kernel
  have closing : "</root>".toList = ['<', '/', 'r', 'o', 'o', 't', '>'] := by decide +kernel
  have body : (xml table).body (rows.map xmlItem) = Xml.content (.array (rows.map .object)) := by
    rw [Xml.content, Xml.itemElements_eq_flatMap, body_of_no_separator rfl, List.flatMap_map]
    rfl
  rw [text, body, Xml.document, Xml.element, tag]
  change (Xml.declaration ++ "<root>".toList) ++ _ ++ "</root>".toList = _
  rw [opening, closing]
  simp only [List.cons_append, List.nil_append, List.append_assoc]

end Layout

/-- The XML text of records is the document of the array of their rows. -/
theorem serialize_xml
    (table : Table)
    (records : List Record) :
    serialize table .xml records =
      (rowsOf table records).map fun rows => Xml.document (.array (rows.map .object)) :=
  @serialize_of_forms _ table .xml _ _ _ (Layout.item_xml table) (Layout.text_xml table) records

end GeoTables
