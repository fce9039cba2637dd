import GeoTables.Proofs.Geometry.Wkt.Spelled
import GeoTables.Proofs.Output.Agreement
import GeoTables.Proofs.Store.Calls

/-!
# Scanned records can be written

The coordinates of a geometry fail for the first segment, rectangle or triangle
within it, and for nothing else.  A text spells none of these, and a store reads
geometries from texts only, and only for columns of geometries.  So all that a
scan finds can be written in every format, whatever has been stored.
-/

namespace GeoTables

/-! ## Shapes without coordinates -/

namespace Geometry

mutual

/-- The geometries within a geometry that are no collections, in document order. -/
def leaves : Geometry → List Geometry
  | .collection members => memberLeaves members
  | leaf => [leaf]

/-- The geometries within the members of a collection that are no collections. -/
def memberLeaves : List Geometry → List Geometry
  | [] => []
  | member :: rest => leaves member ++ memberLeaves rest

end

/-- The shapes that only programs supply. -/
def isSupplied : Geometry → Bool
  | .segment _ _ | .rectangle _ _ | .triangle _ _ _ => true
  | _ => false

mutual

/-- The coordinates of a geometry fail with the type of its first leaf that has none. -/
theorem fault?_coordinates :
    ∀ geometry : Geometry,
      Outcome.fault? geometry.coordinates = (geometry.leaves.find? isSupplied).map typeName
  | .collection members => by
      rw [coordinates, Outcome.fault?_map, leaves, fault?_memberCoordinates members]
  | .point _ | .lineString _ | .polygon _ => rfl
  | .multiPoint _ | .multiLineString _ | .multiPolygon _ => rfl
  | .segment _ _ | .rectangle _ _ | .triangle _ _ _ => rfl

theorem fault?_memberCoordinates :
    ∀ members : List Geometry,
      Outcome.fault? (memberCoordinates members) =
        ((memberLeaves members).find? isSupplied).map typeName
  | [] => rfl
  | member :: rest => by
      have others (first : Json) :
          Outcome.fault? (do return first :: (← memberCoordinates rest)) =
            ((memberLeaves rest).find? isSupplied).map typeName := by
        rw [← fault?_memberCoordinates rest]
        exact Outcome.fault?_map (List.cons first) (memberCoordinates rest)
      rw [memberCoordinates, Outcome.fault?_bind others, fault?_coordinates member, memberLeaves,
        List.find?_append, Option.map_or]

end

mutual

/-- No leaf of a geometry that a text can spell is a shape that only programs supply. -/
theorem IsSpelled.isSupplied_of_mem_leaves :
    ∀ {geometry leaf : Geometry},
      geometry.IsSpelled → leaf ∈ geometry.leaves → leaf.isSupplied = false
  | .collection _, _, spelled, member => spelled.isSupplied_of_mem_memberLeaves member
  | .point _, _, _, member | .lineString _, _, _, member | .polygon _, _, _, member => by
      rw [List.mem_singleton.mp member]
      rfl
  | .multiPoint _, _, _, member
  | .multiLineString _, _, _, member
  | .multiPolygon _, _, _, member => by
      rw [List.mem_singleton.mp member]
      rfl
  | .segment _ _, _, spelled, _ | .rectangle _ _, _, spelled, _ | .triangle _ _ _, _, spelled, _ =>
      spelled.elim

theorem AreSpelled.isSupplied_of_mem_memberLeaves :
    ∀ {members : List Geometry} {leaf : Geometry},
      AreSpelled members → leaf ∈ memberLeaves members → leaf.isSupplied = false
  | _ :: _, _, ⟨spelled, others⟩, member => by
      rcases List.mem_append.mp member with own | later
      · exact spelled.isSupplied_of_mem_leaves own
      · exact others.isSupplied_of_mem_memberLeaves later

end

/-- A geometry that a text can spell has coordinates. -/
theorem IsSpelled.exists_coordinates
    {geometry : Geometry}
    (spelled : geometry.IsSpelled) :
    ∃ json, geometry.coordinates = .ok json := by
  rw [← Outcome.fault?_eq_none, fault?_coordinates, Option.map_eq_none_iff, List.find?_eq_none]
  intro leaf member
  rw [spelled.isSupplied_of_mem_leaves member]
  exact Bool.false_ne_true

end Geometry

/-! ## Values that are read from a store -/

namespace Value

/-- If the value is a geometry, a text can spell it. -/
def IsSpelled : Value → Prop
  | .geometry shape => shape.IsSpelled
  | _ => True

theorem isSpelled_of_storedGeometry
    {json : Json}
    {shape : Geometry}
    (read : storedGeometry json = .ok shape) :
    shape.IsSpelled := by
  unfold storedGeometry at read
  split at read
  · split at read
    · rename_i located isLocated
      cases read
      exact LocatedGeometry.isSpelled_of_ofText isLocated
    · cases read
  · cases read

/-- A geometry that is read from a store was read from a text. -/
theorem isSpelled_of_ofStored
    {column : Column}
    {json : Json}
    {value : Value}
    (read : ofStored column json = .ok value) :
    value.IsSpelled := by
  cases value with
  | geometry shape =>
      cases fits_of_ofStored read with
      | unknown _ _ isScalar => cases isScalar
      | geometry own geometric =>
          unfold ofStored at read
          rw [own, geometric, if_neg Bool.false_ne_true, if_pos rfl] at read
          split_ifs at read
          · cases read
          · obtain ⟨_, stored, ⟨⟩⟩ := Outcome.map_eq_ok.mp read
            exact isSpelled_of_storedGeometry stored
  | _ => trivial

variable {value : Value}

theorem IsSpelled.exists_columnCoordinates
    {shape : Geometry}
    (spelled : shape.IsSpelled)
    (column : String) :
    ∃ json, columnCoordinates shape column = .ok json := by
  obtain ⟨json, found⟩ := spelled.exists_coordinates
  exact ⟨json, Outcome.mapError_eq_ok.mpr found⟩

/-- A value without shapes that only programs supply has a form. -/
theorem IsSpelled.exists_formatted
    (spelled : value.IsSpelled)
    (column : String) :
    ∃ json, value.formatted column = .ok json := by
  cases value with
  | geometry shape => exact IsSpelled.exists_columnCoordinates spelled column
  | _ => exact ⟨_, rfl⟩

/-- Such a value of a column of geometries is one for a feature. -/
theorem IsSpelled.exists_geometryObject
    {column : Column}
    (spelled : value.IsSpelled)
    (fits : value.Fits column)
    (own : column.isRelationship = false)
    (geometric : column.isGeometry = true)
    (name : String) :
    ∃ json, value.geometryObject name = .ok json := by
  cases fits with
  | null => exact ⟨_, rfl⟩
  | association related => cases own.symm.trans related
  | geometry _ _ =>
      obtain ⟨coordinates, found⟩ := IsSpelled.exists_columnCoordinates spelled name
      exact ⟨_, by rw [geometryObject, found]; rfl⟩
  | bool _ type | int _ type | decimal _ type | float _ type | string _ type | date _ type
  | dateTime _ type | time _ type | unknown _ type =>
      simp [Column.isGeometry, type, LogicalType.isGeometry] at geometric

end Value

/-! ## Records -/

namespace Record

variable {record : Record} {table : Table}

/-- The record has values that can be read from a store for the columns of the table. -/
def IsReadFor (record : Record) (table : Table) : Prop :=
  ∀ column ∈ table.columns, ∃ json,
    Value.ofStored column json = .ok (record.get column.name)

theorem IsReadFor.exists_formatted
    (isRead : record.IsReadFor table)
    {columns : List Column}
    (among : columns ⊆ table.columns) :
    ∃ fields, record.formatted table columns = .ok fields := by
  simp only [formatted_eq_ok, Outcome.exists_partners_iff]
  intro column member
  obtain ⟨json, read⟩ := isRead column (among member)
  obtain ⟨form, found⟩ := (Value.isSpelled_of_ofStored read).exists_formatted column.name
  exact ⟨(column.name, form), rfl, found⟩

variable {declaration : TableDeclaration} (described : declaration.describe = .ok table)

include described

theorem IsReadFor.exists_featureGeometry
    (isRead : record.IsReadFor table) :
    ∃ json, Layout.featureGeometry table record = .ok json := by
  rw [Layout.featureGeometry, Table.firstGeometry?_of_describe described]
  cases first : table.columns.find? Column.isGeometry with
  | none => exact ⟨.null, rfl⟩
  | some column =>
      have member := List.mem_of_find?_eq_some first
      have geometric : column.isGeometry = true := List.find?_some first
      have own := TableDeclaration.isRelationship_of_isGeometry described member geometric
      obtain ⟨json, read⟩ := isRead column member
      obtain ⟨object, found⟩ := (Value.isSpelled_of_ofStored read).exists_geometryObject
        (Value.fits_of_ofStored read) own geometric column.name
      exact ⟨object, Outcome.mapError_eq_ok.mpr found⟩

theorem IsReadFor.exists_feature
    (isRead : record.IsReadFor table) :
    ∃ feature, Feature.ofRecord table record = .ok feature := by
  obtain ⟨geometry, isGeometry⟩ := isRead.exists_featureGeometry described
  have among : table.columns.filter (fun column => !column.isGeometry) ⊆ table.columns :=
    List.filter_subset_self _
  obtain ⟨properties, areProperties⟩ := isRead.exists_formatted among
  simp only [Feature.ofRecord, Outcome.bind_eq_ok, Outcome.pure_eq_ok]
  exact ⟨_, geometry, isGeometry, properties, areProperties, rfl⟩

/-- In every format there is an item for a record that is read for its table. -/
theorem IsReadFor.exists_item
    (isRead : record.IsReadFor table)
    (format : Format) :
    ∃ item, (Layout.ofFormat table format).item record = .ok item := by
  cases format with
  | json =>
      obtain ⟨fields, found⟩ := isRead.exists_formatted (List.Subset.refl _)
      exact ⟨_, (Layout.item_plain table record).trans (congrArg _ found)⟩
  | xml =>
      obtain ⟨fields, found⟩ := isRead.exists_formatted (List.Subset.refl _)
      exact ⟨_, (Layout.item_xml table record).trans (congrArg _ found)⟩
  | geoJson =>
      obtain ⟨feature, found⟩ := isRead.exists_feature described
      exact ⟨_, (Layout.item_features table record).trans (congrArg _ found)⟩

/-- Records that are read for their table are written in every format. -/
theorem exists_serialize
    {records : List Record}
    (areRead : ∀ record ∈ records, record.IsReadFor table)
    (format : Format) :
    ∃ text, serialize table format records = .ok text := by
  have items : ∃ items, records.mapM (Layout.ofFormat table format).item = .ok items := by
    simp only [Outcome.mapM_eq_ok, Outcome.exists_partners_iff]
    exact fun record member => (areRead record member).exists_item described format
  obtain ⟨items, found⟩ := items
  exact ⟨_, (serialize_eq table format records).trans (congrArg _ found)⟩

end Record

namespace RowStore

/-- Whatever a store holds, what a scan finds has been read for the columns of the table. -/
theorem isReadFor_of_scan
    {store : RowStore}
    {table : Table}
    {records : List Record}
    (nodup : (table.columns.map Column.name).Nodup)
    (scanned : store.scan table = .ok records) :
    ∀ record ∈ records, record.IsReadFor table := by
  intro record member
  rw [scan, Outcome.mapM_eq_ok] at scanned
  obtain ⟨entry, _, read⟩ := Outcome.exists_partner scanned.flip member
  obtain ⟨fields, _, each⟩ := exists_fields_of_storedRecord nodup read
  exact fun column isColumn => ⟨field fields column, each column isColumn⟩

/--
The coordinates of a geometry fail exactly if some leaf of it is a segment, a
rectangle or a triangle, and then they name the first such leaf.  All that a
scan of a described table finds, after any calls on any store, is written in
every format, also if only some of the records are shown or in another order.
-/
theorem scanned_records_written :
    (∀ (geometry : Geometry) (column : String),
      Outcome.fault? (Value.columnCoordinates geometry column) =
        (geometry.leaves.find? Geometry.isSupplied).map fun leaf =>
          .unsupportedGeometry column leaf.typeName none) ∧
    ∀ (declaration : TableDeclaration) (table : Table) (store : RowStore) (calls : List Call)
        (records shown : List Record),
      declaration.describe = .ok table →
      (run store calls).scan table = .ok records →
      shown ⊆ records →
      ∀ format, ∃ text, serialize table format shown = .ok text := by
  constructor
  · intro geometry column
    rw [Value.columnCoordinates, Outcome.fault?_mapError, Geometry.fault?_coordinates,
      Option.map_map]
    rfl
  · intro declaration table store calls records shown described scanned among format
    have nodup := TableDeclaration.nodup_columns_of_describe described
    have areRead := isReadFor_of_scan nodup scanned
    exact Record.exists_serialize described (fun record member => areRead record (among member))
      format

/-! ## A rectangle in a store -/

/-- A collection of a rectangle. -/
def framedShape : Geometry :=
  .collection [.rectangle ⟨.ofNat 0, .ofNat 0⟩ ⟨.ofNat 2, .ofNat 1⟩]

/-- A parcel with the collection for its site. -/
def framedParcel : Record :=
  .ofFields [("id", .int 1), ("site", .geometry framedShape)]

/-- A call that writes the parcel. -/
def framedCall : Call :=
  ⟨parcelsTable, .record framedParcel, 0⟩

theorem entries_framedCall :
    ((run .empty [framedCall]).tree parcelsTable.qualifiedName).entries =
      [(rowKey parcelsTable 0 framedParcel, RowStore.rowText parcelsTable framedParcel)] :=
  congrArg RowTree.entries (@tree_call_of_accepted .empty framedCall framedParcel rfl)

/-- The row of the parcel can be read. -/
theorem exists_storedRecord_framedParcel :
    ∃ stored,
      storedRecord parcelsTable (RowStore.rowText parcelsTable framedParcel) = .ok stored := by
  have readable : framedShape.reread?.isSome = true := by decide +kernel
  obtain ⟨kept, isKept⟩ := Option.isSome_iff_exists.mp readable
  have read : Value.ofStored parcelsTable.columns[2] (.string framedShape.wkt) =
      .ok (.geometry kept) :=
    Value.ofStored_of_ofText rfl rfl (LocatedGeometry.ofText_wkt_of_reread? isKept)
  have nodup := TableDeclaration.nodup_columns_of_describe describe_parcels
  let wanted : Column → Value := fun column =>
    if column.name = "site" then .geometry kept else framedParcel.get column.name
  have fits : ∀ column ∈ parcelsTable.columns, (framedParcel.get column.name).Fits column := by
    simp only [parcelsTable, List.forall_mem_cons, List.not_mem_nil, false_implies, implies_true]
    exact ⟨.int rfl rfl rfl, .null, .geometry rfl rfl, trivial⟩
  have each : ∀ column ∈ parcelsTable.columns, ∃ json,
      (framedParcel.get column.name).toStored.reread? = some json ∧
        Value.ofStored column json = .ok (wanted column) := by
    simp only [parcelsTable, List.forall_mem_cons, List.not_mem_nil, false_implies, implies_true]
    exact ⟨⟨.ofInt 1, rfl, rfl⟩, ⟨.null, rfl, rfl⟩, ⟨.string framedShape.wkt, rfl, read⟩, trivial⟩
  have whole : ∀ column ∈ parcelsTable.columns,
      (framedParcel.get column.name).toStored.reread?.isSome := by
    intro column member
    obtain ⟨json, isJson, _⟩ := each column member
    exact Option.isSome_of_eq_some isJson
  obtain ⟨stored, isStored, _⟩ := exists_storedRecord_of_reread nodup nodup fits
    (fun column member absent => (absent (List.mem_map_of_mem member)).elim) whole each
  exact ⟨stored, isStored⟩

/-- The rectangle itself has no coordinates, but what a scan makes of it is written. -/
theorem scanned_records_written_framedParcel :
    Outcome.fault? (Value.columnCoordinates framedShape "site") =
        some (.unsupportedGeometry "site" "Rect" none) ∧
      parcels.describe = .ok parcelsTable ∧
      ∃ stored,
        (run .empty [framedCall]).scan parcelsTable = .ok [stored] ∧
          ∀ format, ∃ text, serialize parcelsTable format [stored] = .ok text := by
  obtain ⟨faults, written⟩ := scanned_records_written
  obtain ⟨stored, isStored⟩ := exists_storedRecord_framedParcel
  have scanned : (run .empty [framedCall]).scan parcelsTable = .ok [stored] := by
    rw [scan, entries_framedCall, List.mapM_cons, isStored]
    rfl
  exact ⟨(faults framedShape "site").trans rfl, describe_parcels, stored, scanned,
    written parcels parcelsTable .empty [framedCall] [stored] [stored] describe_parcels scanned
      (List.Subset.refl _)⟩

end RowStore

end GeoTables
