import GeoTables.Proofs.Output.Texts
import GeoTables.Proofs.Store.Rows

/-!
# Agreement of the formats

Records have a plain text exactly if they have an XML text.  If they also have
a text as features, the two JSON texts tell the same: a feature has the values
of the row of its record, that of the first geometry column as its geometry
and those of all other columns as its properties.

The texts are read by the grammar alone, which keeps the members of objects in
the order in which they are written and takes them however deep they are
nested.
-/

namespace GeoTables

open Json (Outline membersOf)

/-! ## Reading the texts -/

namespace Json.Outline

/-- The objects of a text that is an array of objects. -/
def rows? (text : List Char) : Option (List (List (String × Outline))) :=
  (ofText? text).bind (list? members?)

/-- A member is looked up among the outlines like its field among the fields. -/
@[simp]
theorem field?_membersOf
    (fields : List (String × Json))
    (name : String) :
    field? (membersOf fields) name = (fields.lookup name).map outline := by
  induction fields with
  | nil => rfl
  | cons field rest induction =>
      obtain ⟨other, value⟩ := field
      simp only [field?, membersOf, List.map_cons, Prod.map_apply, id, Entries.lookup_entry]
        at induction ⊢
      split_ifs
      · rfl
      · exact induction

theorem eq_null_of_outline
    {json : Json}
    (null : json.outline = .null) :
    json = .null := by
  cases json with
  | null => rfl
  | _ => cases null

/-- The outlines of the members of an array are read one by one. -/
theorem mapM_eq_some
    {Form Result : Type}
    {read : Outline → Option Result}
    {written : Form → Outline}
    {result : Form → Result}
    {forms : List Form}
    (each : ∀ form ∈ forms, read (written form) = some (result form)) :
    (forms.map written).mapM read = some (forms.map result) := by
  induction forms with
  | nil => rfl
  | cons form rest induction =>
      rw [List.forall_mem_cons] at each
      rw [List.map_cons, List.mapM_cons, each.1, induction each.2]
      rfl

end Json.Outline

/-- A feature of a text. -/
structure WrittenFeature where
  geometry : Outline
  properties : List (String × Outline)

namespace WrittenFeature

/-- Read a feature. -/
def ofOutline? (outline : Outline) : Option WrittenFeature := do
  let members ← outline.members?
  let type ← Outline.required? members "type" Outline.string?
  if type = "Feature" then
    let geometry ← Outline.field? members "geometry"
    return ⟨geometry, ← Outline.required? members "properties" Outline.members?⟩
  else
    none

/-- The features of a text that is a collection of features. -/
def ofText? (text : List Char) : Option (List WrittenFeature) := do
  let members ← (← Outline.ofText? text).members?
  let type ← Outline.required? members "type" Outline.string?
  if type = "FeatureCollection" then
    Outline.required? members "features" (Outline.list? ofOutline?)
  else
    none

end WrittenFeature

/-- The rows of a plain text are the fields that it is made from. -/
theorem rows?_arrayOf
    {rows : List (List (String × Json))}
    (regular : ∀ row ∈ rows, ∀ entry ∈ row, entry.2.IsRegular) :
    Outline.rows? (Json.arrayOf (rows.map rowText)) = some (rows.map membersOf) := by
  rw [Outline.rows?, ofText?_arrayOf_rowText regular, Option.bind_some]
  refine Outline.mapM_eq_some fun row _ => ?_
  rw [← Json.ofMembers_membersOf]
  exact Outline.members?_ofMembers (membersOf row)

/-! ## Features -/

namespace Feature

/-- The numbers within a feature can be written. -/
structure IsRegular (feature : Feature) : Prop where
  geometry : feature.geometry.IsRegular
  properties : ∀ entry ∈ feature.properties, entry.2.IsRegular

/-- A name as an outline. -/
def named (name : String) : Outline :=
  .string (name.toList.map .ofWritten)

theorem string?_named (name : String) : (named name).string? = some name :=
  Json.value?_string name

/-- The outline of the text of a feature. -/
def outline (feature : Feature) : Outline :=
  .ofMembers [
    ("type", named "Feature"),
    ("geometry", feature.geometry.outline),
    ("properties", .ofMembers (membersOf feature.properties))]

/-- The feature as it stands in its text. -/
def written (feature : Feature) : WrittenFeature :=
  ⟨feature.geometry.outline, membersOf feature.properties⟩

theorem scans_text
    {feature : Feature}
    (regular : feature.IsRegular) :
    Json.Scans feature.text feature.outline.lexemes := by
  refine Json.Scans.objectOf (.cons ?_ (.cons ?_ (.cons ?_ .nil)))
  · exact (Json.Scans.quoted "Feature").entry "type"
  · exact regular.geometry.scans.entry "geometry"
  · rw [Json.ofMembers_membersOf]
    exact (scans_rowText regular.properties).entry "properties"

theorem ofOutline?_outline (feature : Feature) :
    WrittenFeature.ofOutline? feature.outline = some feature.written := by
  rw [WrittenFeature.ofOutline?, outline]
  simp [Outline.required?, Outline.field?, Entries.lookup_entry, string?_named, written]

theorem ofText?_collectionText
    {features : List Feature}
    (regular : ∀ feature ∈ features, feature.IsRegular) :
    WrittenFeature.ofText? (collectionText features) = some (features.map written) := by
  have each : List.Forall₂ (fun text item => Json.Scans text item.lexemes)
      (features.map text) (features.map outline) := by
    rw [List.forall₂_map_left_iff, List.forall₂_map_right_iff, List.forall₂_same]
    exact fun feature member => scans_text (regular feature member)
  have scans : Json.Scans (collectionText features)
      (Outline.ofMembers [
        ("type", named "FeatureCollection"),
        ("features", .array (features.map outline))]).lexemes := by
    refine Json.Scans.objectOf (.cons ?_ (.cons ?_ .nil))
    · exact (Json.Scans.quoted "FeatureCollection").entry "type"
    · exact (Json.Scans.outlines each).entry "features"
  rw [WrittenFeature.ofText?, Outline.ofText?_of_scans scans]
  have read : (features.map outline).mapM WrittenFeature.ofOutline? =
      some (features.map written) :=
    Outline.mapM_eq_some fun feature _ => ofOutline?_outline feature
  simp [Outline.required?, Outline.field?, Entries.lookup_entry, string?_named, Outline.list?,
    read]

end Feature

/-! ## Forms of geometries -/

/-- The coordinates of a geometry are an array. -/
theorem Geometry.coordinates_ne_null
    {geometry : Geometry}
    {json : Json}
    (found : geometry.coordinates = .ok json) :
    json ≠ .null := by
  rintro rfl
  cases geometry with
  | collection members =>
      obtain ⟨items, _, null⟩ := Outcome.map_eq_ok.mp found
      cases null
  | _ => cases found

/-- A value with a feature's geometry and a plain form has null for both or coordinates. -/
theorem Value.geometryObject_eq_ok
    {value : Value}
    {column : String}
    {geometry form : Json}
    (isGeometry : value.geometryObject column = .ok geometry)
    (isForm : value.formatted column = .ok form) :
    (geometry = .null ∧ form = .null) ∨
      form ≠ .null ∧
        ∃ type, geometry = .object [("coordinates", form), ("type", .string type)] := by
  cases value with
  | null =>
      cases isGeometry
      cases isForm
      exact .inl ⟨rfl, rfl⟩
  | geometry shape =>
      change Value.columnCoordinates shape column = .ok form at isForm
      have coordinates : shape.coordinates = .ok form := by
        rwa [Value.columnCoordinates, Outcome.mapError_eq_ok] at isForm
      rw [Value.geometryObject, isForm] at isGeometry
      cases isGeometry
      refine .inr ⟨shape.coordinates_ne_null coordinates, shape.typeName, ?_⟩
      have before : "coordinates" < "type" := by decide
      change Json.ofFields [("type", .string shape.typeName), ("coordinates", form)] = _
      simp only [Json.ofFields, List.foldl_cons, List.foldl_nil, Json.setField, Entries.place,
        before, decide_true, if_true]
  | _ => cases isGeometry

/-! ## Agreement -/

/-- The row of a record has one member for each column, in the order of the columns and with
the forms of the fields. -/
structure IsRowOf (table : Table) (record : Record) (row : List (String × Outline)) : Prop where
  names : row.map Prod.fst = table.columns.map Column.name
  forms : ∃ fields, record.formatted table table.columns = .ok fields ∧ row = membersOf fields

/-- The geometry of a feature is that of the first geometry column of its row, if there is one:
null for null, and else an object with the coordinates that stand in the row. -/
def HasGeometryOf
    (table : Table)
    (row : List (String × Outline))
    (geometry : Outline) :
    Prop :=
  match table.columns.find? Column.isGeometry with
  | none => geometry = .null
  | some column =>
      ∃ coordinates,
        row.lookup column.name = some coordinates ∧
          (geometry = .null ↔ coordinates = .null) ∧
          (geometry ≠ .null →
            ∃ members,
              geometry.members? = some members ∧
                members.lookup "coordinates" = some coordinates)

/-- The name is that of a geometry column. -/
def Table.namesGeometry (table : Table) (name : String) : Bool :=
  table.columns.any fun column => column.isGeometry && column.name == name

/-- The feature of a row has its members without the geometry columns as its properties. -/
structure IsFeatureOf
    (table : Table)
    (row : List (String × Outline))
    (feature : WrittenFeature) :
    Prop where
  properties : feature.properties = row.filter fun member => !table.namesGeometry member.1
  geometry : HasGeometryOf table row feature.geometry

/-- The column whose geometry is that of a feature is the first one of geometries. -/
theorem Table.firstGeometry?_of_describe
    {declaration : TableDeclaration}
    {table : Table}
    (described : declaration.describe = .ok table) :
    table.firstGeometry? = table.columns.find? Column.isGeometry := by
  have names : table.geometryNames = (table.columns.filter Column.isGeometry).map Column.name := by
    simp only [TableDeclaration.describe, Outcome.bind_eq_ok, Outcome.pure_eq_ok] at described
    obtain ⟨columns, _, further, _, rfl⟩ := described
    rfl
  rw [Table.firstGeometry?, names, List.head?_map, List.head?_filter]
  cases first : table.columns.find? Column.isGeometry with
  | none => rfl
  | some column =>
      exact Table.column?_of_mem (TableDeclaration.nodup_columns_of_describe described)
        (List.mem_of_find?_eq_some first)

/-- Of columns with distinct names, the geometry columns are told by their names. -/
theorem Table.namesGeometry_eq
    {table : Table}
    (nodup : (table.columns.map Column.name).Nodup)
    {column : Column}
    (member : column ∈ table.columns) :
    table.namesGeometry column.name = column.isGeometry := by
  rw [Bool.eq_iff_iff, Table.namesGeometry, List.any_eq_true]
  constructor
  · rintro ⟨other, isColumn, found⟩
    rw [Bool.and_eq_true, beq_iff_eq] at found
    rw [← List.inj_on_of_nodup_map nodup isColumn member found.2]
    exact found.1
  · intro geometric
    exact ⟨column, member, by rw [geometric, beq_self_eq_true, Bool.and_self]⟩

/-- The geometry of the feature for a record is that of the row of the record. -/
theorem hasGeometryOf_outline
    {declaration : TableDeclaration}
    {table : Table}
    (described : declaration.describe = .ok table)
    {record : Record}
    {fields : List (String × Json)}
    {geometry : Json}
    (isRow : record.formatted table table.columns = .ok fields)
    (isGeometry : Layout.featureGeometry table record = .ok geometry) :
    HasGeometryOf table (membersOf fields) geometry.outline := by
  have nodup := TableDeclaration.nodup_columns_of_describe described
  rw [HasGeometryOf]
  rw [Layout.featureGeometry, Table.firstGeometry?_of_describe described] at isGeometry
  split
  · rename_i none
    rw [none] at isGeometry
    cases isGeometry
    rfl
  · rename_i column first
    rw [first] at isGeometry
    obtain ⟨form, isForm, found⟩ :=
      Record.lookup_of_formatted nodup isRow (List.mem_of_find?_eq_some first)
    refine ⟨form.outline, ?_, ?_⟩
    · exact (Outline.field?_membersOf fields column.name).trans (congrArg _ found)
    · rcases Value.geometryObject_eq_ok (Outcome.mapError_eq_ok.mp isGeometry) isForm with
        ⟨rfl, rfl⟩ | ⟨notNull, type, rfl⟩
      · exact ⟨iff_of_true rfl rfl, fun absurd => (absurd rfl).elim⟩
      · refine ⟨?_, fun _ =>
          ⟨membersOf [("coordinates", form), ("type", .string type)], ?_, rfl⟩⟩
        · refine iff_of_false ?_ fun null => notNull (Outline.eq_null_of_outline null)
          intro null
          cases null
        · rw [Json.outline, ← Json.ofMembers_membersOf]
          exact Outline.members?_ofMembers _

/-- What the feature of a record is made from agrees with the row of the record. -/
theorem isFeatureOf_written
    {declaration : TableDeclaration}
    {table : Table}
    (described : declaration.describe = .ok table)
    {record : Record}
    {fields : List (String × Json)}
    {feature : Feature}
    (isRow : record.formatted table table.columns = .ok fields)
    (isFeature : Feature.ofRecord table record = .ok feature) :
    IsFeatureOf table (membersOf fields) feature.written := by
  have nodup := TableDeclaration.nodup_columns_of_describe described
  simp only [Feature.ofRecord, Outcome.bind_eq_ok, Outcome.pure_eq_ok] at isFeature
  obtain ⟨geometry, isGeometry, properties, areProperties, rfl⟩ := isFeature
  refine ⟨?_, hasGeometryOf_outline described isRow isGeometry⟩
  have kept := Record.formatted_filter
    (fun column => !column.isGeometry)
    (fun name => !table.namesGeometry name)
    (fun column member => by rw [Table.namesGeometry_eq nodup member]) isRow
  cases areProperties.symm.trans kept
  simp [Feature.written, membersOf, List.filter_map, Function.comp_def]

/-- The numbers within the feature of a record can be written. -/
theorem Feature.isRegular_of_ofRecord
    {table : Table}
    {record : Record}
    {feature : Feature}
    (isFeature : Feature.ofRecord table record = .ok feature) :
    feature.IsRegular := by
  simp only [Feature.ofRecord, Outcome.bind_eq_ok, Outcome.pure_eq_ok] at isFeature
  obtain ⟨geometry, isGeometry, properties, areProperties, rfl⟩ := isFeature
  refine ⟨?_, Record.isRegular_formatted areProperties⟩
  rw [Layout.featureGeometry] at isGeometry
  split at isGeometry
  · cases isGeometry
    exact .null
  · exact Value.isRegular_geometryObject (Outcome.mapError_eq_ok.mp isGeometry)

/-- The plain text and the XML text of records fail alike.  The plain text has the rows of the
records in their order, and the features of a text with geometries are those of the rows. -/
theorem formats_agree
    {declaration : TableDeclaration}
    {table : Table}
    (described : declaration.describe = .ok table)
    (records : List Record) :
    Outcome.fault? (serialize table .json records) =
        Outcome.fault? (serialize table .xml records) ∧
      ∀ plain,
        serialize table .json records = .ok plain →
        ∃ rows,
          Outline.rows? plain = some rows ∧
            List.Forall₂ (IsRowOf table) records rows ∧
            ∀ geographic,
              serialize table .geoJson records = .ok geographic →
              ∃ features,
                WrittenFeature.ofText? geographic = some features ∧
                  List.Forall₂ (IsFeatureOf table) rows features := by
  rw [serialize_json, serialize_xml, serialize_geoJson]
  constructor
  · cases rowsOf table records <;> rfl
  intro plain isPlain
  obtain ⟨rows, areRows, rfl⟩ := Outcome.map_eq_ok.mp isPlain
  rw [rowsOf, Outcome.mapM_eq_ok] at areRows
  have regular := Record.isRegular_of_forall₂_formatted areRows
  refine ⟨rows.map membersOf, rows?_arrayOf regular, ?_, ?_⟩
  · rw [List.forall₂_map_right_iff]
    refine areRows.imp fun record row isRow => ⟨?_, row, isRow, rfl⟩
    rw [← Record.names_of_formatted isRow]
    simp [membersOf]
  · intro geographic isGeographic
    obtain ⟨features, areFeatures, rfl⟩ := Outcome.map_eq_ok.mp isGeographic
    rw [Outcome.mapM_eq_ok] at areFeatures
    refine ⟨features.map Feature.written, Feature.ofText?_collectionText ?_, ?_⟩
    · intro feature member
      obtain ⟨record, _, isFeature⟩ := Outcome.exists_partner areFeatures.flip member
      exact Feature.isRegular_of_ofRecord isFeature
    · rw [List.forall₂_map_left_iff, List.forall₂_map_right_iff]
      exact Outcome.forall₂_of_common areRows areFeatures (isFeatureOf_written described)

/-- A parcel at a point. -/
def sitedParcel : Record :=
  .ofFields [("id", .int 1), ("site", .geometry (.point ⟨Binary64.ofInt 2, Binary64.ofInt 3⟩))]

/-- The two JSON texts of a parcel at a point agree. -/
theorem formats_agree_sitedParcel :
    parcels.describe = .ok parcelsTable ∧
      ∃ plain geographic,
        serialize parcelsTable .json [sitedParcel] = .ok plain ∧
          serialize parcelsTable .geoJson [sitedParcel] = .ok geographic ∧
          ∃ rows features,
            Outline.rows? plain = some rows ∧
              WrittenFeature.ofText? geographic = some features ∧
              List.Forall₂ (IsFeatureOf parcelsTable) rows features := by
  obtain ⟨_, agree⟩ := formats_agree describe_parcels [sitedParcel]
  have plain : ∃ plain, serialize parcelsTable .json [sitedParcel] = .ok plain := by
    rw [serialize_json]
    exact ⟨_, rfl⟩
  have geographic : ∃ text, serialize parcelsTable .geoJson [sitedParcel] = .ok text := by
    rw [serialize_geoJson]
    exact ⟨_, rfl⟩
  obtain ⟨plain, isPlain⟩ := plain
  obtain ⟨geographic, isGeographic⟩ := geographic
  obtain ⟨rows, areRows, _, features⟩ := agree plain isPlain
  obtain ⟨features, areFeatures, same⟩ := features geographic isGeographic
  exact ⟨describe_parcels, plain, geographic, isPlain, isGeographic, rows, features, areRows,
    areFeatures, same⟩

end GeoTables
