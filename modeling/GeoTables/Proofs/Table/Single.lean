import GeoTables.Proofs.Table.Columns

/-!
# Tables of one column

A column without references that holds no geometry makes a table by itself,
which has neither a key nor relationships.
-/

namespace GeoTables

/-- A declared column that may be null and refers to nothing. -/
def bareColumn (name typeText : String) : ColumnDeclaration where
  name := name
  typeText := typeText
  nullable := true
  isKey := false
  foreignKeys := []
  initial := none
  srid := none
  header := none

/-- Readings in a single column. -/
def readings (name typeText : String) : TableDeclaration where
  schema := "public"
  name := "readings"
  columns := [bareColumn name typeText]
  relationships := []

/-- The column of readings of a type. -/
def readingsColumn (name : String) (type : StoreType) : Column where
  name := name
  header := none
  type := type.logicalType
  storeType := type.base
  length := type.length?
  precision := type.precision?
  scale := type.scale?
  isExact := type.isExact
  nullable := true
  isKey := false
  references := []
  initial := none
  srid := none
  isRelationship := false

/-- The table of readings of a type that holds no geometry. -/
def readingsTable (name : String) (type : StoreType) : Table where
  name := ⟨"public", "readings"⟩
  columns := [readingsColumn name type]
  relationships := []
  keyNames := []
  geometryNames := []

/-- Readings are described by their table. -/
theorem describe_readings
    (name : String)
    {typeText : String}
    {type : StoreType}
    (parsed : StoreType.ofText typeText = type)
    (plain : type.logicalType.isGeometry = false) :
    (readings name typeText).describe = .ok (readingsTable name type) := by
  have resolves : (bareColumn name typeText).resolveSrid "readings" type = .ok none := by
    rw [ColumnDeclaration.resolveSrid, plain, if_neg (by decide)]
  have column :
      (bareColumn name typeText).describe "readings" = .ok (readingsColumn name type) :=
    ColumnDeclaration.describe_eq_ok parsed rfl resolves
  have columns :
      TableDeclaration.describeColumns "readings" [] (readings name typeText).columns =
        .ok [readingsColumn name type] :=
    TableDeclaration.describeColumns_cons rfl column rfl
  have geometries : [readingsColumn name type].filter Column.isGeometry = [] := by
    rw [List.filter_singleton, Column.isGeometry, readingsColumn, plain]
    rfl
  have assembled :
      (readings name typeText).assemble [readingsColumn name type] = readingsTable name type := by
    have keys : List.mergeSort ([] : List String) = [] := List.mergeSort_nil
    rw [TableDeclaration.assemble, geometries]
    change { readingsTable name type with keyNames := List.mergeSort [] } = _
    rw [keys]
    rfl
  rw [TableDeclaration.describe]
  change (TableDeclaration.describeColumns "readings" [] (readings name typeText).columns >>= _) = _
  rw [columns, ← assembled]
  rfl

end GeoTables
