import GeoTables.Proofs.Outcome
import GeoTables.Table.Description
import Mathlib.Data.List.Nodup

/-!
# Columns of described tables

Every column of a described table is either a declared column or the column of
a relationship that may lead to many records.  What the description of a single
column guarantees therefore holds of all columns: a column of geometries has a
reference system, and the column of a relationship holds no geometries.
-/

namespace GeoTables

/-- The reference system of a type of geometries is there once it is resolved. -/
theorem ColumnDeclaration.resolveSrid_isSome
    {table : String}
    {declared : ColumnDeclaration}
    {type : StoreType}
    {resolved : Option Int}
    (resolves : declared.resolveSrid table type = .ok resolved)
    (geometric : type.logicalType.isGeometry = true) :
    resolved.isSome := by
  rw [resolveSrid, if_pos geometric] at resolves
  cases found : declared.srid <|> type.srid? with
  | none =>
      rw [found] at resolves
      cases resolves
  | some srid =>
      rw [found] at resolves
      cases resolves
      rfl

/-- A declared column of geometries is described with a reference system. -/
theorem ColumnDeclaration.srid_isSome_of_describe
    {table : String}
    {declared : ColumnDeclaration}
    {column : Column}
    (described : declared.describe table = .ok column)
    (geometric : column.isGeometry = true) :
    column.srid.isSome := by
  simp only [describe, Outcome.bind_eq_ok, Outcome.pure_eq_ok] at described
  obtain ⟨references, _, srid, resolves, rfl⟩ := described
  simp only [Column.isGeometry] at geometric
  exact resolveSrid_isSome resolves geometric

/-- A declared column stands for no relationship. -/
theorem ColumnDeclaration.isRelationship_of_describe
    {table : String}
    {declared : ColumnDeclaration}
    {column : Column}
    (described : declared.describe table = .ok column) :
    column.isRelationship = false := by
  simp only [describe, Outcome.bind_eq_ok, Outcome.pure_eq_ok] at described
  obtain ⟨_, _, _, _, rfl⟩ := described
  rfl

/-- A column without references is what its type and its reference system make of it. -/
theorem ColumnDeclaration.describe_eq_ok
    {table : String}
    {declared : ColumnDeclaration}
    {type : StoreType}
    {srid : Option Int}
    (parsed : StoreType.ofText declared.typeText = type)
    (bare : declared.foreignKeys = [])
    (resolves : declared.resolveSrid table type = .ok srid) :
    declared.describe table =
      .ok {
        name := declared.name
        header := declared.header
        type := type.logicalType
        storeType := type.base
        length := type.length?
        precision := type.precision?
        scale := type.scale?
        isExact := type.isExact
        nullable := declared.nullable && !declared.isKey
        isKey := declared.isKey
        references := []
        initial := declared.initial
        srid := srid
        isRelationship := false } := by
  unfold describe
  dsimp only
  rw [targets, bare, parsed, resolves]
  rfl

namespace TableDeclaration

/-- A column with a new name is described in front of the others. -/
theorem describeColumns_cons
    {table : String}
    {declared : ColumnDeclaration}
    {rest : List ColumnDeclaration}
    {seen : List String}
    {column : Column}
    {columns : List Column}
    (new : seen.contains declared.name = false)
    (described : declared.describe table = .ok column)
    (others : describeColumns table (declared.name :: seen) rest = .ok columns) :
    describeColumns table seen (declared :: rest) = .ok (column :: columns) := by
  rw [describeColumns, new, if_neg (by decide), described, others]
  rfl

theorem mem_describeColumns
    {table : String}
    {declarations : List ColumnDeclaration}
    {seen : List String}
    {columns : List Column}
    (described : describeColumns table seen declarations = .ok columns)
    {column : Column}
    (member : column ∈ columns) :
    ∃ declared ∈ declarations, declared.describe table = .ok column := by
  induction declarations generalizing seen columns with
  | nil =>
      simp only [describeColumns, Except.ok.injEq] at described
      subst described
      cases member
  | cons declared rest induction =>
      rw [describeColumns] at described
      split_ifs at described
      simp only [Outcome.bind_eq_ok, Outcome.pure_eq_ok] at described
      obtain ⟨first, own, others, remaining, rfl⟩ := described
      rcases List.mem_cons.mp member with rfl | later
      · exact ⟨declared, by simp, own⟩
      · obtain ⟨found, isDeclared, foundDescribed⟩ := induction remaining later
        exact ⟨found, by simp [isDeclared], foundDescribed⟩

theorem mem_relationshipColumns
    {table : String}
    {declarations : List RelationshipDeclaration}
    {seen : List String}
    {columns : List Column}
    (described : relationshipColumns table seen declarations = .ok columns)
    {column : Column}
    (member : column ∈ columns) :
    ∃ declared ∈ declarations,
      declared.cardinality.isToMany = true ∧ column = declared.column := by
  induction declarations generalizing seen columns with
  | nil =>
      simp only [relationshipColumns, Except.ok.injEq] at described
      subst described
      cases member
  | cons declared rest induction =>
      rw [relationshipColumns] at described
      split_ifs at described with toOne repeated
      · obtain ⟨found, isDeclared, equal⟩ := induction described member
        exact ⟨found, by simp [isDeclared], equal⟩
      · simp only [Outcome.bind_eq_ok, Outcome.pure_eq_ok] at described
        obtain ⟨others, remaining, rfl⟩ := described
        rcases List.mem_cons.mp member with rfl | later
        · exact ⟨declared, by simp, by simpa using toOne, rfl⟩
        · obtain ⟨found, isDeclared, equal⟩ := induction remaining later
          exact ⟨found, by simp [isDeclared], equal⟩

/-- A column of a described table is declared or stands for a relationship. -/
theorem mem_columns_of_describe
    {declaration : TableDeclaration}
    {table : Table}
    (described : declaration.describe = .ok table)
    {column : Column}
    (member : column ∈ table.columns) :
    (∃ declared ∈ declaration.columns,
      declared.describe declaration.name = .ok column) ∨
    (∃ declared ∈ declaration.relationships,
      declared.cardinality.isToMany = true ∧ column = declared.column) := by
  simp only [describe, Outcome.bind_eq_ok, Outcome.pure_eq_ok] at described
  obtain ⟨columns, own, further, relationships, rfl⟩ := described
  rcases List.mem_append.mp member with isOwn | isFurther
  · exact .inl (mem_describeColumns own isOwn)
  · exact .inr (mem_relationshipColumns relationships isFurther)

/-- Every column of geometries of a described table has a reference system. -/
theorem srid_isSome_of_describe
    {declaration : TableDeclaration}
    {table : Table}
    (described : declaration.describe = .ok table)
    {column : Column}
    (member : column ∈ table.columns)
    (geometric : column.isGeometry = true) :
    column.srid.isSome := by
  rcases mem_columns_of_describe described member with
    ⟨declared, _, own⟩ | ⟨declared, _, _, rfl⟩
  · exact ColumnDeclaration.srid_isSome_of_describe own geometric
  · cases geometric

/-- A described column keeps the declared name. -/
theorem name_of_describe
    {table : String}
    {declared : ColumnDeclaration}
    {column : Column}
    (described : declared.describe table = .ok column) :
    column.name = declared.name := by
  simp only [ColumnDeclaration.describe, Outcome.bind_eq_ok, Outcome.pure_eq_ok] at described
  obtain ⟨_, _, _, _, rfl⟩ := described
  rfl

/-- A column with a new name in front of columns with other names. -/
theorem nodup_cons
    {first : Column}
    {others : List Column}
    {seen : List String}
    (new : first.name ∉ seen)
    (distinct : (others.map Column.name).Nodup ∧
      ∀ column ∈ others, column.name ∉ first.name :: seen) :
    ((first :: others).map Column.name).Nodup ∧
      ∀ column ∈ first :: others, column.name ∉ seen := by
  obtain ⟨distinct, fresh⟩ := distinct
  simp only [List.mem_cons, not_or] at fresh
  rw [List.map_cons, List.nodup_cons, List.forall_mem_cons]
  refine ⟨⟨?_, distinct⟩, new, fun column member => (fresh column member).2⟩
  intro again
  obtain ⟨column, member, same⟩ := List.mem_map.mp again
  exact (fresh column member).1 same

/-- Described columns have new names, each of them once. -/
theorem nodup_describeColumns
    {table : String}
    {declarations : List ColumnDeclaration}
    {seen : List String}
    {columns : List Column}
    (described : describeColumns table seen declarations = .ok columns) :
    (columns.map Column.name).Nodup ∧ ∀ column ∈ columns, column.name ∉ seen := by
  induction declarations generalizing seen columns with
  | nil =>
      simp only [describeColumns, Except.ok.injEq] at described
      subst described
      simp
  | cons declared rest induction =>
      rw [describeColumns] at described
      split_ifs at described with repeated
      simp only [Outcome.bind_eq_ok, Outcome.pure_eq_ok] at described
      obtain ⟨first, own, others, remaining, rfl⟩ := described
      rw [← name_of_describe own] at repeated remaining
      simp only [List.contains_eq_mem, decide_eq_true_eq] at repeated
      exact nodup_cons repeated (induction remaining)

theorem nodup_relationshipColumns
    {table : String}
    {declarations : List RelationshipDeclaration}
    {seen : List String}
    {columns : List Column}
    (described : relationshipColumns table seen declarations = .ok columns) :
    (columns.map Column.name).Nodup ∧ ∀ column ∈ columns, column.name ∉ seen := by
  induction declarations generalizing seen columns with
  | nil =>
      simp only [relationshipColumns, Except.ok.injEq] at described
      subst described
      simp
  | cons declared rest induction =>
      rw [relationshipColumns] at described
      split_ifs at described with toOne repeated
      · exact induction described
      · simp only [Outcome.bind_eq_ok, Outcome.pure_eq_ok] at described
        obtain ⟨others, remaining, rfl⟩ := described
        simp only [List.contains_eq_mem, decide_eq_true_eq] at repeated
        exact @nodup_cons declared.column others seen repeated (induction remaining)

/-- No two columns of a described table have the same name. -/
theorem nodup_columns_of_describe
    {declaration : TableDeclaration}
    {table : Table}
    (described : declaration.describe = .ok table) :
    (table.columns.map Column.name).Nodup := by
  simp only [describe, Outcome.bind_eq_ok, Outcome.pure_eq_ok] at described
  obtain ⟨columns, own, further, relationships, rfl⟩ := described
  obtain ⟨distinct, _⟩ := nodup_describeColumns own
  obtain ⟨othersDistinct, fresh⟩ := nodup_relationshipColumns relationships
  rw [assemble, List.map_append, List.nodup_append]
  refine ⟨distinct, othersDistinct, ?_⟩
  intro name isOwn other isOther same
  obtain ⟨column, member, rfl⟩ := List.mem_map.mp isOwn
  obtain ⟨relationship, isRelationship, rfl⟩ := List.mem_map.mp isOther
  obtain ⟨declared, isDeclared, describes⟩ := mem_describeColumns own member
  apply fresh relationship isRelationship
  rw [← same, name_of_describe describes]
  exact List.mem_map_of_mem isDeclared

/-- The names of the key of a described table are those of its key columns. -/
theorem mem_keyNames_iff
    {declaration : TableDeclaration}
    {table : Table}
    (described : declaration.describe = .ok table)
    {name : String} :
    name ∈ table.keyNames ↔
      ∃ column ∈ table.columns, column.isKey = true ∧ column.name = name := by
  simp only [describe, Outcome.bind_eq_ok, Outcome.pure_eq_ok] at described
  obtain ⟨columns, _, further, _, rfl⟩ := described
  rw [assemble, List.mem_mergeSort, List.mem_map]
  simp only [List.mem_filter, and_assoc]

/-- A key column stands for no relationship. -/
theorem isRelationship_of_isKey
    {declaration : TableDeclaration}
    {table : Table}
    (described : declaration.describe = .ok table)
    {column : Column}
    (member : column ∈ table.columns)
    (isKey : column.isKey = true) :
    column.isRelationship = false := by
  rcases mem_columns_of_describe described member with
    ⟨declared, _, own⟩ | ⟨declared, _, _, rfl⟩
  · exact ColumnDeclaration.isRelationship_of_describe own
  · cases isKey

/-- A column of geometries stands for no relationship. -/
theorem isRelationship_of_isGeometry
    {declaration : TableDeclaration}
    {table : Table}
    (described : declaration.describe = .ok table)
    {column : Column}
    (member : column ∈ table.columns)
    (geometric : column.isGeometry = true) :
    column.isRelationship = false := by
  rcases mem_columns_of_describe described member with
    ⟨declared, _, own⟩ | ⟨declared, _, _, rfl⟩
  · exact ColumnDeclaration.isRelationship_of_describe own
  · cases geometric

end TableDeclaration

/-- A column that is found by its name is a column of the table with that name. -/
theorem Table.mem_of_column?
    {table : Table}
    {name : String}
    {column : Column}
    (found : table.column? name = some column) :
    column ∈ table.columns ∧ column.name = name := by
  refine ⟨List.mem_of_find?_eq_some found, ?_⟩
  have named := List.find?_some found
  simpa using named

/-- A column is found by its name if no other column has it. -/
theorem Table.column?_of_mem
    {table : Table}
    (nodup : (table.columns.map Column.name).Nodup)
    {column : Column}
    (member : column ∈ table.columns) :
    table.column? column.name = some column := by
  cases found : table.column? column.name with
  | none =>
      have absent := List.find?_eq_none.mp found column member
      simp at absent
  | some other =>
      obtain ⟨isColumn, named⟩ := Table.mem_of_column? found
      rw [List.inj_on_of_nodup_map nodup isColumn member named]

theorem Table.column?_eq_none
    {table : Table}
    {name : String}
    (absent : name ∉ table.columns.map Column.name) :
    table.column? name = none := by
  cases found : table.column? name with
  | none => rfl
  | some column =>
      obtain ⟨member, rfl⟩ := Table.mem_of_column? found
      exact absurd (List.mem_map_of_mem member) absent

/-- A table with a single key column and without relationships is described by its columns. -/
theorem TableDeclaration.describe_keyed
    {declaration : TableDeclaration}
    {columns : List Column}
    {key : String}
    (described : describeColumns declaration.name [] declaration.columns = .ok columns)
    (unrelated : declaration.relationships = [])
    (keyed : (columns.filter Column.isKey).map Column.name = [key]) :
    declaration.describe =
      .ok {
        name := declaration.tableName
        columns := columns
        relationships := []
        keyNames := [key]
        geometryNames := (columns.filter Column.isGeometry).map Column.name } := by
  rw [describe, described, unrelated]
  change Except.ok (declaration.assemble (columns ++ [])) = _
  rw [List.append_nil, assemble, keyed, unrelated, List.mergeSort_singleton]
  rfl

/-! ## Declared tables -/

/-- Parcels with a number, an area in exact decimals and a point. -/
def parcels : TableDeclaration where
  schema := "public"
  name := "parcels"
  columns := [
    { name := "id", typeText := "INTEGER", nullable := false, isKey := true,
      foreignKeys := [], initial := none, srid := none, header := none },
    { name := "area", typeText := "NUMERIC(10, 2)", nullable := true, isKey := false,
      foreignKeys := [], initial := none, srid := none, header := none },
    { name := "site", typeText := "geometry(POINT, 2056)", nullable := true, isKey := false,
      foreignKeys := [], initial := none, srid := none, header := none }]
  relationships := []

/-- The table of the parcels. -/
def parcelsTable : Table where
  name := ⟨"public", "parcels"⟩
  columns := [
    { name := "id", header := none, type := .integer, storeType := "INTEGER",
      length := none, precision := none, scale := none, isExact := false,
      nullable := false, isKey := true, references := [], initial := none,
      srid := none, isRelationship := false },
    { name := "area", header := none, type := .float, storeType := "NUMERIC",
      length := none, precision := some 10, scale := some 2, isExact := true,
      nullable := true, isKey := false, references := [], initial := none,
      srid := none, isRelationship := false },
    { name := "site", header := none, type := .geometry .point, storeType := "GEOMETRY",
      length := none, precision := none, scale := none, isExact := false,
      nullable := true, isKey := false, references := [], initial := none,
      srid := some 2056, isRelationship := false }]
  relationships := []
  keyNames := ["id"]
  geometryNames := ["site"]

theorem describe_parcelNumber :
    parcels.columns[0].describe "parcels" = .ok parcelsTable.columns[0] := by
  have parsed : StoreType.ofText parcels.columns[0].typeText = ⟨"INTEGER", []⟩ := by
    decide +kernel
  rw [ColumnDeclaration.describe_eq_ok parsed rfl rfl]
  rfl

theorem describe_parcelArea :
    parcels.columns[1].describe "parcels" = .ok parcelsTable.columns[1] := by
  have parsed :
      StoreType.ofText parcels.columns[1].typeText = ⟨"NUMERIC", ["10", "2"]⟩ := by
    decide +kernel
  have precise : StoreType.precision? ⟨"NUMERIC", ["10", "2"]⟩ = some 10 := by decide +kernel
  have scaled : StoreType.scale? ⟨"NUMERIC", ["10", "2"]⟩ = some 2 := by decide +kernel
  rw [ColumnDeclaration.describe_eq_ok parsed rfl rfl, precise, scaled]
  rfl

theorem describe_parcelSite :
    parcels.columns[2].describe "parcels" = .ok parcelsTable.columns[2] := by
  have parsed :
      StoreType.ofText parcels.columns[2].typeText = ⟨"GEOMETRY", ["POINT", "2056"]⟩ := by
    decide +kernel
  have named : StoreType.srid? ⟨"GEOMETRY", ["POINT", "2056"]⟩ = some 2056 := by
    decide +kernel
  have resolves :
      parcels.columns[2].resolveSrid "parcels" ⟨"GEOMETRY", ["POINT", "2056"]⟩ =
        .ok (some 2056) := by
    unfold ColumnDeclaration.resolveSrid
    rw [named]
    rfl
  rw [ColumnDeclaration.describe_eq_ok parsed rfl resolves]
  rfl

/-- The parcels are described by their table. -/
theorem describe_parcels : parcels.describe = .ok parcelsTable := by
  have columns :
      TableDeclaration.describeColumns "parcels" [] parcels.columns =
        .ok parcelsTable.columns :=
    TableDeclaration.describeColumns_cons rfl describe_parcelNumber
      (TableDeclaration.describeColumns_cons (by decide +kernel) describe_parcelArea
        (TableDeclaration.describeColumns_cons (by decide +kernel) describe_parcelSite rfl))
  exact TableDeclaration.describe_keyed columns rfl rfl

/-- Parcels that have a name as well. -/
def namedParcels : TableDeclaration :=
  { parcels with
    columns := parcels.columns ++ [
      { name := "name", typeText := "TEXT", nullable := true, isKey := false,
        foreignKeys := [], initial := none, srid := none, header := none }] }

/-- The table of the parcels with names. -/
def namedParcelsTable : Table :=
  { parcelsTable with
    columns := parcelsTable.columns ++ [
      { name := "name", header := none, type := .string, storeType := "TEXT",
        length := none, precision := none, scale := none, isExact := false,
        nullable := true, isKey := false, references := [], initial := none,
        srid := none, isRelationship := false }] }

theorem describe_parcelName :
    namedParcels.columns[3].describe "parcels" = .ok namedParcelsTable.columns[3] := by
  have parsed : StoreType.ofText namedParcels.columns[3].typeText = ⟨"TEXT", []⟩ := by
    decide +kernel
  rw [ColumnDeclaration.describe_eq_ok parsed rfl rfl]
  rfl

/-- The parcels with names are described by their table. -/
theorem describe_namedParcels : namedParcels.describe = .ok namedParcelsTable := by
  have columns :
      TableDeclaration.describeColumns "parcels" [] namedParcels.columns =
        .ok namedParcelsTable.columns :=
    TableDeclaration.describeColumns_cons rfl describe_parcelNumber
      (TableDeclaration.describeColumns_cons (by decide +kernel) describe_parcelArea
        (TableDeclaration.describeColumns_cons (by decide +kernel) describe_parcelSite
          (TableDeclaration.describeColumns_cons (by decide +kernel) describe_parcelName rfl)))
  exact TableDeclaration.describe_keyed columns rfl rfl

/-- What the columns of the number, the area, the site and the name have is had by all columns of
the parcels with names. -/
theorem forall_mem_namedParcelsTable_columns
    {property : Column → Prop}
    (number : property namedParcelsTable.columns[0])
    (area : property namedParcelsTable.columns[1])
    (site : property namedParcelsTable.columns[2])
    (name : property namedParcelsTable.columns[3]) :
    ∀ column ∈ namedParcelsTable.columns, property column := by
  intro column member
  simp only [namedParcelsTable, parcelsTable, List.cons_append, List.nil_append, List.mem_cons,
    List.not_mem_nil, or_false] at member
  rcases member with rfl | rfl | rfl | rfl
  · exact number
  · exact area
  · exact site
  · exact name

end GeoTables
