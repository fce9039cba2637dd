import GeoTables.Proofs.Table.Columns
import Mathlib.Data.List.Sort
import Mathlib.Data.String.Basic

/-!
# Declarations that can be described

A declaration can be described exactly if the names of its columns and of its
relationships to many records are distinct, every reference has a path and
every column of geometries has a reference system.  Otherwise the first column
or relationship that breaks one of these rules is reported, where what stands
before it could be described by itself.

The table of a declaration has a column for each declared one and then one for
each relationship to many records.  All that is said about it besides follows
from these columns.
-/

namespace GeoTables

/-! ## Columns -/

namespace ColumnDeclaration

/-- The type that the text of a column names. -/
def storeType (column : ColumnDeclaration) : StoreType :=
  StoreType.ofText column.typeText

/-- The reference system that is given for a column, or else by the second argument of its type. -/
def givenSrid? (column : ColumnDeclaration) : Option Int :=
  column.srid <|>
    column.storeType.arguments[1]?.bind fun argument => Text.signedWithin? 32 argument.toList

/-- The reference system of a column, which only a column of geometries has. -/
def ownSrid? (column : ColumnDeclaration) : Option Int :=
  if column.storeType.logicalType.isGeometry then column.givenSrid? else none

/-- The column that is declared, with the paths of its references and its reference system. -/
def column
    (declared : ColumnDeclaration)
    (paths : List String)
    (srid : Option Int) :
    Column where
  name := declared.name
  header := declared.header
  type := declared.storeType.logicalType
  storeType := declared.storeType.base
  length := declared.storeType.length?
  precision := declared.storeType.precision?
  scale := declared.storeType.scale?
  isExact := declared.storeType.isExact
  nullable := declared.nullable && !declared.isKey
  isKey := declared.isKey
  references := paths
  initial := declared.initial
  srid := srid
  isRelationship := false

@[simp]
theorem column_references
    {declared : ColumnDeclaration}
    {paths : List String}
    {srid : Option Int} :
    (declared.column paths srid).references = paths :=
  rfl

@[simp]
theorem column_srid
    {declared : ColumnDeclaration}
    {paths : List String}
    {srid : Option Int} :
    (declared.column paths srid).srid = srid :=
  rfl

/-- Every reference has a path, and a column of geometries is given a reference system. -/
structure IsSound (column : ColumnDeclaration) : Prop where
  resolved : ∀ reference ∈ column.foreignKeys, reference.target?.isSome
  located : column.storeType.logicalType.isGeometry = true → column.givenSrid?.isSome

/-- The column is the declared one, with the path of each reference and its reference system. -/
structure Makes (declared : ColumnDeclaration) (column : Column) : Prop where
  references :
    List.Forall₂ (fun reference path => reference.target? = some path)
      declared.foreignKeys column.references
  srid : column.srid = declared.ownSrid?
  isDeclared : column = declared.column column.references column.srid

namespace Makes

variable {declared : ColumnDeclaration} {column : Column}

theorem name_eq (makes : declared.Makes column) : column.name = declared.name := by
  rw [makes.isDeclared, ColumnDeclaration.column]

theorem isKey_eq (makes : declared.Makes column) : column.isKey = declared.isKey := by
  rw [makes.isDeclared, ColumnDeclaration.column]

theorem nullable_eq (makes : declared.Makes column) :
    column.nullable = (declared.nullable && !declared.isKey) := by
  rw [makes.isDeclared, ColumnDeclaration.column]

theorem length_eq (makes : declared.Makes column) :
    column.length = declared.storeType.length? := by
  rw [makes.isDeclared, ColumnDeclaration.column]

theorem precision_eq (makes : declared.Makes column) :
    column.precision = declared.storeType.precision? := by
  rw [makes.isDeclared, ColumnDeclaration.column]

theorem scale_eq (makes : declared.Makes column) :
    column.scale = declared.storeType.scale? := by
  rw [makes.isDeclared, ColumnDeclaration.column]

theorem initial_eq (makes : declared.Makes column) : column.initial = declared.initial := by
  rw [makes.isDeclared, ColumnDeclaration.column]

theorem isRelationship_eq (makes : declared.Makes column) : column.isRelationship = false := by
  rw [makes.isDeclared, ColumnDeclaration.column]

theorem isGeometry_eq (makes : declared.Makes column) :
    column.isGeometry = declared.storeType.logicalType.isGeometry := by
  rw [makes.isDeclared, ColumnDeclaration.column, Column.isGeometry]

/-- A column of geometries has a reference system, and no other column has one. -/
theorem isSome_srid_iff
    (makes : declared.Makes column)
    (sound : declared.IsSound) :
    column.srid.isSome ↔ column.isGeometry = true := by
  rw [makes.srid, makes.isGeometry_eq, ownSrid?]
  split_ifs with geometric
  · exact iff_of_true (sound.located geometric) geometric
  · exact iff_of_false nofun geometric

end Makes

/-- Of a sound column a column can be made. -/
theorem IsSound.exists_makes
    {declared : ColumnDeclaration}
    (sound : declared.IsSound) :
    ∃ column, declared.Makes column := by
  obtain ⟨paths, arePaths⟩ := Outcome.exists_partners_iff.mpr fun reference member =>
    Option.isSome_iff_exists.mp (sound.resolved reference member)
  refine ⟨declared.column paths declared.ownSrid?, ?_, column_srid, ?_⟩
  · rwa [column_references]
  · rw [column_references, column_srid]

/-- The fault of a column that stands behind columns with the given names. -/
inductive Offends
    (table : String)
    (names : List String)
    (column : ColumnDeclaration) :
    SchemaFault → Prop where
  | repeated
      (again : column.name ∈ names) :
      Offends table names column (.duplicateColumn table column.name)
  | unresolved
      {before after : List ForeignKey}
      {reference : ForeignKey}
      (new : column.name ∉ names)
      (split : column.foreignKeys = before ++ reference :: after)
      (resolved : ∀ earlier ∈ before, earlier.target?.isSome)
      (unresolved : reference.target? = none) :
      Offends table names column (.unresolvedForeignKey table column.name reference.text)
  | unlocated
      (new : column.name ∉ names)
      (resolved : ∀ reference ∈ column.foreignKeys, reference.target?.isSome)
      (geometric : column.storeType.logicalType.isGeometry = true)
      (unlocated : column.givenSrid? = none) :
      Offends table names column (.missingSrid table column.name)

section

variable {table : String} {declared : ColumnDeclaration} {column : Column} {fault : SchemaFault}

/-- The path of a reference, or the fault of a column that has a reference without one. -/
def resolve
    (table : String)
    (declared : ColumnDeclaration)
    (reference : ForeignKey) :
    Except SchemaFault String :=
  match reference.target? with
  | some path => .ok path
  | none => .error (.unresolvedForeignKey table declared.name reference.text)

theorem resolve_eq_ok
    {reference : ForeignKey}
    {path : String} :
    declared.resolve table reference = .ok path ↔ reference.target? = some path := by
  unfold resolve
  cases reference.target? <;> simp

theorem resolve_eq_error
    {reference : ForeignKey} :
    declared.resolve table reference = .error fault ↔
      reference.target? = none ∧
        fault = .unresolvedForeignKey table declared.name reference.text := by
  unfold resolve
  cases reference.target? with
  | some path => simp
  | none => simp [eq_comm]

theorem targets_eq_ok
    {paths : List String} :
    declared.targets table = .ok paths ↔
      List.Forall₂ (fun reference path => reference.target? = some path)
        declared.foreignKeys paths := by
  change declared.foreignKeys.mapM (declared.resolve table) = .ok paths ↔ _
  simp only [Outcome.mapM_eq_ok, resolve_eq_ok]

/-- References have paths exactly if each of them has one. -/
theorem exists_paths_iff
    {references : List ForeignKey} :
    (∃ paths, List.Forall₂ (fun reference path => ForeignKey.target? reference = some path)
      references paths) ↔
      ∀ reference ∈ references, reference.target?.isSome := by
  simp only [Outcome.exists_partners_iff, Option.isSome_iff_exists]

theorem targets_eq_error :
    declared.targets table = .error fault ↔
      ∃ before reference after,
        declared.foreignKeys = before ++ reference :: after ∧
          (∀ earlier ∈ before, earlier.target?.isSome) ∧
            reference.target? = none ∧
              fault = .unresolvedForeignKey table declared.name reference.text := by
  change declared.foreignKeys.mapM (declared.resolve table) = .error fault ↔ _
  simp only [Outcome.mapM_eq_error, Outcome.mapM_eq_ok, resolve_eq_ok, resolve_eq_error,
    exists_paths_iff]

/-- A column of geometries has the reference system that is given for it. -/
theorem resolveSrid_eq :
    declared.resolveSrid table declared.storeType =
      if declared.storeType.logicalType.isGeometry then
        match declared.givenSrid? with
        | some srid => .ok (some srid)
        | none => .error (.missingSrid table declared.name)
      else
        .ok none := by
  unfold resolveSrid givenSrid? StoreType.srid?
  split_ifs <;> rfl

theorem resolveSrid_eq_ok
    {srid : Option Int} :
    declared.resolveSrid table declared.storeType = .ok srid ↔
      srid = declared.ownSrid? ∧
        (declared.storeType.logicalType.isGeometry = true → declared.givenSrid?.isSome) := by
  rw [resolveSrid_eq, ownSrid?]
  split_ifs with geometric
  · cases declared.givenSrid? with
    | none => exact iff_of_false nofun fun sound => absurd (sound.2 geometric) (by decide)
    | some given =>
        refine ⟨fun isGiven => ?_, fun isGiven => congrArg Except.ok isGiven.1.symm⟩
        cases isGiven
        exact ⟨rfl, fun _ => rfl⟩
  · refine ⟨fun isNone => ?_, fun isNone => congrArg Except.ok isNone.1.symm⟩
    cases isNone
    exact ⟨rfl, fun isGeometric => absurd isGeometric geometric⟩

theorem resolveSrid_eq_error :
    declared.resolveSrid table declared.storeType = .error fault ↔
      declared.storeType.logicalType.isGeometry = true ∧ declared.givenSrid? = none ∧
        fault = .missingSrid table declared.name := by
  rw [resolveSrid_eq]
  split_ifs with geometric
  · cases declared.givenSrid? with
    | none => simp only [Except.error.injEq, geometric, true_and, eq_comm]
    | some given => simp
  · simp [geometric]

/-- A column is described by its references and then by its reference system. -/
theorem describe_eq :
    declared.describe table =
      (declared.targets table >>= fun paths =>
        declared.resolveSrid table declared.storeType >>= fun srid =>
          pure (declared.column paths srid)) := by
  unfold describe
  simp only [column, storeType]

/-- A column is described exactly if it is sound. -/
theorem describe_eq_ok_iff :
    declared.describe table = .ok column ↔ declared.Makes column ∧ declared.IsSound := by
  rw [describe_eq]
  simp only [Outcome.bind_eq_ok, Outcome.pure_eq_ok, targets_eq_ok, resolveSrid_eq_ok]
  constructor
  · rintro ⟨paths, arePaths, srid, ⟨isSrid, located⟩, rfl⟩
    exact ⟨⟨arePaths, isSrid, rfl⟩, exists_paths_iff.mp ⟨paths, arePaths⟩, located⟩
  · rintro ⟨⟨arePaths, isSrid, isDeclared⟩, sound⟩
    exact ⟨column.references, arePaths, column.srid, ⟨isSrid, sound.located⟩, isDeclared.symm⟩

/-- A column with a new name that is not described offends by a reference or by its reference
system. -/
theorem describe_eq_error_iff
    {names : List String}
    (new : declared.name ∉ names) :
    declared.describe table = .error fault ↔ declared.Offends table names fault := by
  rw [describe_eq]
  simp only [Outcome.bind_eq_error, Outcome.pure_ne_error, and_false, exists_const, or_false,
    resolveSrid_eq_error, exists_and_right, targets_eq_ok, exists_paths_iff]
  rw [targets_eq_error]
  constructor
  · rintro (⟨_, _, _, split, resolved, none, rfl⟩ | ⟨resolved, geometric, none, rfl⟩)
    · exact .unresolved new split resolved none
    · exact .unlocated new resolved geometric none
  · rintro (again | ⟨_, split, resolved, none⟩ | ⟨_, resolved, geometric, none⟩)
    · exact absurd again new
    · exact .inl ⟨_, _, _, split, resolved, none, rfl⟩
    · exact .inr ⟨resolved, geometric, none, rfl⟩

/-- The column that is declared behind columns with the given names. -/
def describeBehind
    (table : String)
    (names : List String)
    (declared : ColumnDeclaration) :
    Except SchemaFault Column :=
  if names.contains declared.name then
    .error (.duplicateColumn table declared.name)
  else
    declared.describe table

theorem describeBehind_eq_ok_iff
    {names : List String} :
    declared.describeBehind table names = .ok column ↔
      declared.name ∉ names ∧ declared.Makes column ∧ declared.IsSound := by
  unfold describeBehind
  split_ifs with again
  · exact iff_of_false not_false fun made => made.1 (List.contains_iff_mem.mp again)
  · rw [describe_eq_ok_iff, and_iff_right (mt List.contains_iff_mem.mpr again)]

theorem describeBehind_eq_error_iff
    {names : List String} :
    declared.describeBehind table names = .error fault ↔ declared.Offends table names fault := by
  unfold describeBehind
  split_ifs with again
  · rw [List.contains_iff_mem] at again
    constructor
    · rintro ⟨⟩
      exact .repeated again
    · rintro (_ | new | new)
      · rfl
      · exact absurd again new
      · exact absurd again new
  · exact describe_eq_error_iff (mt List.contains_iff_mem.mpr again)

/-- Whether a column offends depends on which names stand before it, not on their order. -/
theorem Offends.congr
    {names others : List String}
    (same : ∀ name, name ∈ names ↔ name ∈ others)
    (offends : declared.Offends table names fault) :
    declared.Offends table others fault := by
  cases offends with
  | repeated again => exact .repeated ((same _).mp again)
  | unresolved new split resolved none =>
      exact .unresolved (mt (same _).mpr new) split resolved none
  | unlocated new resolved geometric none =>
      exact .unlocated (mt (same _).mpr new) resolved geometric none

end

end ColumnDeclaration

/-! ## Relationships -/

namespace RelationshipDeclaration

/-- The names that are taken once the relationship stands behind columns with the given names. -/
def namesBehind (names : List String) (declared : RelationshipDeclaration) : List String :=
  if declared.cardinality.isToMany then declared.name :: names else names

/-- The columns that the relationship adds behind columns with the given names. -/
def columnsBehind
    (table : String)
    (names : List String)
    (declared : RelationshipDeclaration) :
    Except SchemaFault (List Column) :=
  if declared.cardinality.isToMany then
    if names.contains declared.name then
      .error (.duplicateColumn table declared.name)
    else
      .ok [declared.column]
  else
    .ok []

section

variable {table : String} {names : List String} {declared : RelationshipDeclaration}

theorem columnsBehind_eq_ok_iff
    {columns : List Column} :
    declared.columnsBehind table names = .ok columns ↔
      (declared.cardinality.isToMany = true → declared.name ∉ names) ∧
        columns = if declared.cardinality.isToMany then [declared.column] else [] := by
  unfold columnsBehind
  split_ifs with isToMany again
  · exact iff_of_false not_false fun made => made.1 isToMany (List.contains_iff_mem.mp again)
  · simp only [isToMany, true_implies, mt List.contains_iff_mem.mpr again, not_false_eq_true,
      true_and, Except.ok.injEq, eq_comm]
  · simp [isToMany, eq_comm]

theorem columnsBehind_eq_error_iff
    {fault : SchemaFault} :
    declared.columnsBehind table names = .error fault ↔
      declared.cardinality.isToMany = true ∧ declared.name ∈ names ∧
        fault = .duplicateColumn table declared.name := by
  unfold columnsBehind
  split_ifs with isToMany again
  · simp only [isToMany, List.contains_iff_mem.mp again, true_and, Except.error.injEq, eq_comm]
  · exact iff_of_false not_false fun made => again (List.contains_iff_mem.mpr made.2.1)
  · exact iff_of_false not_false fun made => isToMany made.1

end

end RelationshipDeclaration

/-! ## Tables -/

namespace TableDeclaration

/-- Those relationships that may lead to many records. -/
def many (relationships : List RelationshipDeclaration) : List RelationshipDeclaration :=
  relationships.filter fun relationship => relationship.cardinality.isToMany

theorem many_cons_of_isToMany
    {relationship : RelationshipDeclaration}
    {rest : List RelationshipDeclaration}
    (isToMany : relationship.cardinality.isToMany = true) :
    many (relationship :: rest) = relationship :: many rest :=
  List.filter_cons_of_pos isToMany

theorem many_cons_of_not_isToMany
    {relationship : RelationshipDeclaration}
    {rest : List RelationshipDeclaration}
    (isToOne : ¬relationship.cardinality.isToMany = true) :
    many (relationship :: rest) = many rest :=
  List.filter_cons_of_neg isToOne

/-- The names of the columns that the table is to have. -/
def columnNames (declaration : TableDeclaration) : List String :=
  declaration.columns.map ColumnDeclaration.name ++
    (many declaration.relationships).map RelationshipDeclaration.name

/-- No name is given to two columns, and every declared column is sound. -/
structure IsDescribable (declaration : TableDeclaration) : Prop where
  distinct : declaration.columnNames.Nodup
  sound : ∀ column ∈ declaration.columns, column.IsSound

/-- The fault of the first column or relationship, in the order in which they are declared, behind
which the declaration can no longer be described. -/
inductive FirstFault (declaration : TableDeclaration) : SchemaFault → Prop where
  | column
      {before after : List ColumnDeclaration}
      {column : ColumnDeclaration}
      {fault : SchemaFault}
      (split : declaration.columns = before ++ column :: after)
      (describable : IsDescribable { declaration with columns := before, relationships := [] })
      (offends : column.Offends declaration.name (before.map ColumnDeclaration.name) fault) :
      FirstFault declaration fault
  | relationship
      {before after : List RelationshipDeclaration}
      {relationship : RelationshipDeclaration}
      (split : declaration.relationships = before ++ relationship :: after)
      (describable : IsDescribable { declaration with relationships := before })
      (isToMany : relationship.cardinality.isToMany = true)
      (again : relationship.name ∈ columnNames { declaration with relationships := before }) :
      FirstFault declaration (.duplicateColumn declaration.name relationship.name)

/-- Names that are given once and are not among those seen before. -/
def AreNew (seen names : List String) : Prop :=
  names.Nodup ∧ ∀ name ∈ names, name ∉ seen

theorem areNew_cons_iff
    {seen names : List String}
    {name : String} :
    AreNew seen (name :: names) ↔ name ∉ seen ∧ AreNew (name :: seen) names := by
  rw [AreNew, AreNew, List.nodup_cons, List.forall_mem_cons]
  simp only [List.mem_cons, not_or]
  constructor
  · rintro ⟨⟨once, distinct⟩, new, others⟩
    refine ⟨new, distinct, fun other member => ⟨?_, others other member⟩⟩
    rintro rfl
    exact once member
  · rintro ⟨new, distinct, others⟩
    exact ⟨⟨fun again => (others name again).1 rfl, distinct⟩, new,
      fun other member => (others other member).2⟩

section

variable {table : String} {fault : SchemaFault} {seen : List String}

/-! ### Declared columns -/

/-- The first column is described by itself and the others behind it. -/
theorem describeColumns_cons_eq
    (seen : List String)
    (declared : ColumnDeclaration)
    (rest : List ColumnDeclaration) :
    describeColumns table seen (declared :: rest) =
      declared.describeBehind table seen >>= fun own =>
        (describeColumns table (declared.name :: seen) rest).map (List.cons own) := by
  rw [describeColumns, ColumnDeclaration.describeBehind]
  split_ifs
  · rfl
  · cases declared.describe table with
    | error fault => rfl
    | ok own => cases describeColumns table (declared.name :: seen) rest <;> rfl

/-- Columns are described exactly if their names are new and each of them is sound. -/
theorem describeColumns_eq_ok
    {declarations : List ColumnDeclaration}
    {columns : List Column} :
    describeColumns table seen declarations = .ok columns ↔
      List.Forall₂ ColumnDeclaration.Makes declarations columns ∧
        (∀ declared ∈ declarations, declared.IsSound) ∧
          AreNew seen (declarations.map ColumnDeclaration.name) := by
  induction declarations generalizing seen columns with
  | nil => simp [describeColumns, AreNew, eq_comm]
  | cons declared rest induction =>
      rw [List.forall_mem_cons, List.map_cons, areNew_cons_iff, describeColumns_cons_eq]
      simp only [Outcome.bind_eq_ok, Outcome.map_eq_ok, induction,
        ColumnDeclaration.describeBehind_eq_ok_iff]
      constructor
      · rintro ⟨column, ⟨again, makes, sound⟩, others, ⟨make, sounds, new⟩, rfl⟩
        exact ⟨.cons makes make, ⟨sound, sounds⟩, again, new⟩
      · rintro ⟨_ | ⟨makes, make⟩, ⟨sound, sounds⟩, again, new⟩
        exact ⟨_, ⟨again, makes, sound⟩, _, ⟨make, sounds, new⟩, rfl⟩

/-- Columns are not described because of the first that offends. -/
theorem describeColumns_eq_error
    {declarations : List ColumnDeclaration} :
    describeColumns table seen declarations = .error fault ↔
      ∃ before column after,
        declarations = before ++ column :: after ∧
          (∃ columns, describeColumns table seen before = .ok columns) ∧
            column.Offends table ((before.map ColumnDeclaration.name).reverse ++ seen) fault := by
  have nil (state : List String) : ∃ columns, describeColumns table state [] = .ok columns :=
    ⟨[], rfl⟩
  rw [Outcome.traversal_eq_error nil describeColumns_cons_eq]
  simp only [List.foldl_flip_cons_eq_append, ColumnDeclaration.describeBehind_eq_error_iff]

/-! ### Relationships -/

/-- The names that are taken behind those seen before, once relationships to many records have
columns. -/
theorem foldl_namesBehind
    (relationships : List RelationshipDeclaration)
    (seen : List String) :
    relationships.foldl (fun names declared => declared.namesBehind names) seen =
      ((many relationships).map RelationshipDeclaration.name).reverse ++ seen := by
  induction relationships generalizing seen with
  | nil => rfl
  | cons declared rest induction =>
      rw [List.foldl_cons, induction, RelationshipDeclaration.namesBehind]
      split_ifs with isToMany
      · rw [many_cons_of_isToMany isToMany, List.map_cons, List.reverse_cons, List.append_assoc,
          List.singleton_append]
      · rw [many_cons_of_not_isToMany isToMany]

/-- The column of the first relationship stands before those of the others. -/
theorem relationshipColumns_cons_eq
    (seen : List String)
    (declared : RelationshipDeclaration)
    (rest : List RelationshipDeclaration) :
    relationshipColumns table seen (declared :: rest) =
      declared.columnsBehind table seen >>= fun own =>
        (relationshipColumns table (declared.namesBehind seen) rest).map (own ++ ·) := by
  rw [relationshipColumns, RelationshipDeclaration.columnsBehind,
    RelationshipDeclaration.namesBehind]
  by_cases isToMany : declared.cardinality.isToMany = true
  · rw [isToMany, if_neg (by decide), if_pos rfl, if_pos rfl]
    split_ifs
    · rfl
    · cases relationshipColumns table (declared.name :: seen) rest <;> rfl
  · rw [Bool.eq_false_of_not_eq_true isToMany, if_pos (by decide), if_neg (by decide),
      if_neg (by decide)]
    cases relationshipColumns table seen rest <;> rfl

/-- Relationships to many records have columns exactly if their names are new. -/
theorem relationshipColumns_eq_ok
    {declarations : List RelationshipDeclaration}
    {columns : List Column} :
    relationshipColumns table seen declarations = .ok columns ↔
      columns = (many declarations).map RelationshipDeclaration.column ∧
        AreNew seen ((many declarations).map RelationshipDeclaration.name) := by
  induction declarations generalizing seen columns with
  | nil => simp [relationshipColumns, many, AreNew, eq_comm]
  | cons declared rest induction =>
      rw [relationshipColumns_cons_eq]
      simp only [Outcome.bind_eq_ok, Outcome.map_eq_ok, induction,
        RelationshipDeclaration.columnsBehind_eq_ok_iff, RelationshipDeclaration.namesBehind]
      by_cases isToMany : declared.cardinality.isToMany = true
      · rw [many_cons_of_isToMany isToMany, List.map_cons, List.map_cons, areNew_cons_iff]
        simp only [isToMany, if_true, true_implies]
        constructor
        · rintro ⟨_, ⟨again, rfl⟩, _, ⟨rfl, new⟩, rfl⟩
          exact ⟨rfl, again, new⟩
        · rintro ⟨rfl, again, new⟩
          exact ⟨_, ⟨again, rfl⟩, _, ⟨rfl, new⟩, rfl⟩
      · rw [many_cons_of_not_isToMany isToMany]
        simp [isToMany, and_comm, eq_comm]

/-- Relationships have no columns because of the first to many records whose name is taken. -/
theorem relationshipColumns_eq_error
    {declarations : List RelationshipDeclaration} :
    relationshipColumns table seen declarations = .error fault ↔
      ∃ before declared after,
        declarations = before ++ declared :: after ∧
          (∃ columns, relationshipColumns table seen before = .ok columns) ∧
            declared.cardinality.isToMany = true ∧
              declared.name ∈ ((many before).map RelationshipDeclaration.name).reverse ++ seen ∧
                fault = .duplicateColumn table declared.name := by
  have nil (state : List String) : ∃ columns, relationshipColumns table state [] = .ok columns :=
    ⟨[], rfl⟩
  rw [Outcome.traversal_eq_error nil relationshipColumns_cons_eq]
  simp only [foldl_namesBehind, RelationshipDeclaration.columnsBehind_eq_error_iff]

/-! ### Success and failure -/

theorem areNew_nil_iff
    {names : List String} :
    AreNew [] names ↔ names.Nodup := by
  simp [AreNew]

/-- Columns can be described by themselves exactly if their names are distinct and each of them is
sound. -/
theorem exists_describeColumns_iff
    {declarations : List ColumnDeclaration} :
    (∃ columns, describeColumns table [] declarations = .ok columns) ↔
      (declarations.map ColumnDeclaration.name).Nodup ∧
        ∀ declared ∈ declarations, declared.IsSound := by
  simp only [describeColumns_eq_ok, areNew_nil_iff, exists_and_right]
  rw [Outcome.exists_partners_iff]
  constructor
  · rintro ⟨_, sound, distinct⟩
    exact ⟨distinct, sound⟩
  · rintro ⟨distinct, sound⟩
    exact ⟨fun declared member => (sound declared member).exists_makes, sound, distinct⟩

/-- The names of columns and relationships are distinct exactly if those of the columns are, and
those of the relationships to many records are new behind them. -/
theorem nodup_columnNames_iff
    {declaration : TableDeclaration} :
    declaration.columnNames.Nodup ↔
      (declaration.columns.map ColumnDeclaration.name).Nodup ∧
        AreNew (declaration.columns.map ColumnDeclaration.name)
          ((many declaration.relationships).map RelationshipDeclaration.name) := by
  rw [columnNames, List.nodup_append, AreNew]
  constructor
  · rintro ⟨distinct, further, disjoint⟩
    exact ⟨distinct, further, fun name member again => disjoint name again name member rfl⟩
  · rintro ⟨distinct, further, new⟩
    refine ⟨distinct, further, ?_⟩
    rintro name own _ member rfl
    exact new name member own

section

variable {declaration : TableDeclaration} {described : Table}

/-- A table is described exactly if the declaration allows it, by the columns that are made of the
declared ones and those of relationships to many records behind them. -/
theorem describe_eq_ok_iff :
    declaration.describe = .ok described ↔
      declaration.IsDescribable ∧
        ∃ own, List.Forall₂ ColumnDeclaration.Makes declaration.columns own ∧
          declaration.assemble
              (own ++ (many declaration.relationships).map RelationshipDeclaration.column) =
            described := by
  simp only [describe, Outcome.bind_eq_ok, Outcome.pure_eq_ok, describeColumns_eq_ok,
    relationshipColumns_eq_ok, areNew_nil_iff]
  constructor
  · rintro ⟨own, ⟨makes, sound, distinct⟩, _, ⟨rfl, new⟩, rfl⟩
    exact ⟨⟨nodup_columnNames_iff.mpr ⟨distinct, new⟩, sound⟩, own, makes, rfl⟩
  · rintro ⟨⟨distinct, sound⟩, own, makes, rfl⟩
    obtain ⟨ownDistinct, new⟩ := nodup_columnNames_iff.mp distinct
    exact ⟨own, ⟨makes, sound, ownDistinct⟩, _, ⟨rfl, new⟩, rfl⟩

/-- A table is described exactly if the declaration allows it. -/
theorem exists_describe_iff :
    (∃ table, declaration.describe = .ok table) ↔ declaration.IsDescribable := by
  simp only [describe_eq_ok_iff, exists_and_left]
  refine and_iff_left_of_imp fun describable => ?_
  obtain ⟨own, makes⟩ := Outcome.exists_partners_iff.mpr fun declared member =>
    (describable.sound declared member).exists_makes
  exact ⟨_, own, makes, rfl⟩

/-- A table is not described because of the first fault of its declaration. -/
theorem describe_eq_error_iff :
    declaration.describe = .error fault ↔ declaration.FirstFault fault := by
  simp only [describe, Outcome.bind_eq_error, Outcome.pure_ne_error, and_false, exists_const,
    or_false, exists_and_right]
  rw [describeColumns_eq_error, exists_describeColumns_iff, relationshipColumns_eq_error]
  simp only [exists_describeColumns_iff, relationshipColumns_eq_ok]
  constructor
  · rintro (⟨before, column, after, split, ⟨distinct, sound⟩, offends⟩ |
      ⟨⟨distinct, sound⟩, before, relationship, after, split, ⟨_, _, new⟩, isToMany, again,
        rfl⟩)
    · refine .column split ⟨?_, sound⟩ (offends.congr (by simp))
      exact nodup_columnNames_iff.mpr ⟨distinct, .nil, List.forall_mem_nil _⟩
    · refine .relationship split ⟨nodup_columnNames_iff.mpr ⟨distinct, new⟩, sound⟩ isToMany ?_
      simpa [columnNames, or_comm] using again
  · rintro (⟨split, ⟨distinct, sound⟩, offends⟩ | ⟨split, ⟨distinct, sound⟩, isToMany, again⟩)
    · refine .inl ⟨_, _, _, split, ⟨(nodup_columnNames_iff.mp distinct).1, sound⟩, ?_⟩
      exact offends.congr (by simp)
    · obtain ⟨ownDistinct, new⟩ := nodup_columnNames_iff.mp distinct
      refine .inr ⟨⟨ownDistinct, sound⟩, _, _, _, split, ⟨_, rfl, new⟩, isToMany, ?_, rfl⟩
      simpa [columnNames, or_comm] using again

end

end

/-! ### Described tables -/

section

open ColumnDeclaration (Makes)

variable {declared : List ColumnDeclaration} {own : List Column}

/-- What holds of declared columns exactly if it holds of the columns made of them, selects columns
of the same names from both. -/
theorem names_filter_of_makes
    {test : ColumnDeclaration → Bool}
    {selects : Column → Bool}
    (makes : List.Forall₂ Makes declared own)
    (same : ∀ {declaration column},
      Makes declaration column → selects column = test declaration) :
    (own.filter selects).map Column.name = (declared.filter test).map ColumnDeclaration.name := by
  induction makes with
  | nil => rfl
  | cons first others induction =>
      rw [List.filter_cons, List.filter_cons, same first]
      split_ifs
      · rw [List.map_cons, List.map_cons, induction, first.name_eq]
      · exact induction

/-- Columns of relationships are selected by no test that each of them fails. -/
theorem filter_relationshipColumns
    {relationships : List RelationshipDeclaration}
    {selects : Column → Bool}
    (fails : ∀ relationship, selects (RelationshipDeclaration.column relationship) = false) :
    (relationships.map RelationshipDeclaration.column).filter selects = [] := by
  rw [List.filter_eq_nil_iff]
  intro column member
  obtain ⟨relationship, _, rfl⟩ := List.mem_map.mp member
  rw [fails relationship]
  decide

end

/-- What holds of the table of a declaration. -/
structure IsDescribedBy (declaration : TableDeclaration) (table : Table) : Prop where
  name : table.name = declaration.tableName
  columns :
    ∃ own, List.Forall₂ ColumnDeclaration.Makes declaration.columns own ∧
      table.columns =
        own ++ (many declaration.relationships).map RelationshipDeclaration.column
  relationships :
    table.relationships = declaration.relationships.map RelationshipDeclaration.describe
  keysAscend : table.keyNames.Pairwise (· < ·)
  keys :
    ∀ name, name ∈ table.keyNames ↔
      ∃ column ∈ declaration.columns, column.isKey = true ∧ column.name = name
  keysOfPermuted :
    ∀ columns, columns.Perm declaration.columns →
      ∃ other, describe { declaration with columns := columns } = .ok other ∧
        other.keyNames = table.keyNames
  keysHaveValues :
    ∀ column ∈ table.columns, column.isKey = true → column.nullable = false
  geometries :
    table.geometryNames =
      (declaration.columns.filter fun column =>
        column.storeType.logicalType.isGeometry).map ColumnDeclaration.name
  located :
    ∀ column ∈ table.columns, column.srid.isSome ↔ column.isGeometry = true
  relationshipsArePlain :
    ∀ column ∈ table.columns, column.isRelationship = true →
      column.isKey = false ∧ column.isGeometry = false
  found :
    ∀ name column, table.column? name = some column ↔
      column ∈ table.columns ∧ column.name = name
  keysFound :
    ∀ name ∈ table.keyNames, ∃ column, table.column? name = some column ∧ column.isKey = true
  geometriesFound :
    ∀ name ∈ table.geometryNames,
      ∃ column, table.column? name = some column ∧ column.isGeometry = true
  firstGeometry : table.firstGeometry? = table.columns.find? Column.isGeometry

section

variable {declaration : TableDeclaration} {described : Table}

/-- The names of the key ascend, so that no name is among them twice. -/
theorem keyNames_ascend
    (isDescribed : declaration.describe = .ok described) :
    described.keyNames.Pairwise (· < ·) := by
  have distinct := nodup_columns_of_describe isDescribed
  obtain ⟨_, own, _, rfl⟩ := describe_eq_ok_iff.mp isDescribed
  have ofKeys :
      (((own ++ (many declaration.relationships).map
        RelationshipDeclaration.column).filter Column.isKey).map Column.name).Nodup :=
    distinct.sublist (List.filter_sublist.map Column.name)
  exact (List.sortedLE_mergeSort.sortedLT_of_nodup (List.nodup_mergeSort.mpr ofKeys)).pairwise

/-- The names of the key are those of the columns that are declared to be its columns. -/
theorem mem_keyNames_iff_declared
    (isDescribed : declaration.describe = .ok described)
    {name : String} :
    name ∈ described.keyNames ↔
      ∃ column ∈ declaration.columns, column.isKey = true ∧ column.name = name := by
  obtain ⟨_, own, makes, rfl⟩ := describe_eq_ok_iff.mp isDescribed
  have names := names_filter_of_makes makes fun made => made.isKey_eq
  rw [assemble, List.mem_mergeSort, List.filter_append,
    filter_relationshipColumns (fun _ => rfl), List.append_nil, names]
  simp only [List.mem_map, List.mem_filter, and_assoc]

/-- Columns may be declared in another order. -/
theorem IsDescribable.of_perm
    (describable : declaration.IsDescribable)
    {columns : List ColumnDeclaration}
    (permuted : columns.Perm declaration.columns) :
    IsDescribable { declaration with columns := columns } where
  distinct := ((permuted.map ColumnDeclaration.name).append_right _).nodup_iff.mpr
    describable.distinct
  sound := fun column member => describable.sound column (permuted.mem_iff.mp member)

/-- The key does not depend on the order in which columns are declared. -/
theorem exists_describe_of_perm
    (isDescribed : declaration.describe = .ok described)
    {columns : List ColumnDeclaration}
    (permuted : columns.Perm declaration.columns) :
    ∃ other, describe { declaration with columns := columns } = .ok other ∧
      other.keyNames = described.keyNames := by
  obtain ⟨describable, _⟩ := describe_eq_ok_iff.mp isDescribed
  obtain ⟨other, isOther⟩ := exists_describe_iff.mpr (describable.of_perm permuted)
  refine ⟨other, isOther, ?_⟩
  -- Ascending lists of the same names are equal.
  apply (keyNames_ascend isOther).eq_of_mem_iff (keyNames_ascend isDescribed)
  intro name
  rw [mem_keyNames_iff_declared isOther, mem_keyNames_iff_declared isDescribed]
  simp only [permuted.mem_iff]

/-- The names of geometries are those of the columns of geometries, in their order. -/
theorem geometryNames_eq
    (isDescribed : declaration.describe = .ok described) :
    described.geometryNames =
      (described.columns.filter Column.isGeometry).map Column.name := by
  obtain ⟨_, own, _, rfl⟩ := describe_eq_ok_iff.mp isDescribed
  rfl

theorem mem_geometryNames_iff
    (isDescribed : declaration.describe = .ok described)
    {name : String} :
    name ∈ described.geometryNames ↔
      ∃ column ∈ described.columns, column.isGeometry = true ∧ column.name = name := by
  rw [geometryNames_eq isDescribed, List.mem_map]
  simp only [List.mem_filter, and_assoc]

theorem geometryNames_eq_declared
    (isDescribed : declaration.describe = .ok described) :
    described.geometryNames =
      (declaration.columns.filter fun column =>
        column.storeType.logicalType.isGeometry).map ColumnDeclaration.name := by
  rw [geometryNames_eq isDescribed]
  obtain ⟨_, own, makes, rfl⟩ := describe_eq_ok_iff.mp isDescribed
  rw [← names_filter_of_makes makes fun made => made.isGeometry_eq, assemble, List.filter_append,
    filter_relationshipColumns (fun _ => rfl), List.append_nil]

/-- A column of a described table is made of a sound declared one or stands for a relationship. -/
theorem exists_makes_of_mem
    (isDescribed : declaration.describe = .ok described)
    {column : Column}
    (member : column ∈ described.columns) :
    (∃ declared, ColumnDeclaration.Makes declared column ∧ declared.IsSound) ∨
      ∃ relationship, column = RelationshipDeclaration.column relationship := by
  rcases mem_columns_of_describe isDescribed member with
    ⟨declared, _, own⟩ | ⟨relationship, _, _, isColumn⟩
  · exact .inl ⟨declared, ColumnDeclaration.describe_eq_ok_iff.mp own⟩
  · exact .inr ⟨relationship, isColumn⟩

theorem column?_eq_some_iff
    (isDescribed : declaration.describe = .ok described)
    {name : String}
    {column : Column} :
    described.column? name = some column ↔ column ∈ described.columns ∧ column.name = name := by
  refine ⟨Table.mem_of_column?, ?_⟩
  rintro ⟨member, rfl⟩
  exact Table.column?_of_mem (nodup_columns_of_describe isDescribed) member

theorem firstGeometry?_eq_find?
    (isDescribed : declaration.describe = .ok described) :
    described.firstGeometry? = described.columns.find? Column.isGeometry := by
  rw [Table.firstGeometry?, geometryNames_eq isDescribed, List.head?_map, List.head?_filter]
  cases first : described.columns.find? Column.isGeometry with
  | none => rfl
  | some column =>
      exact (column?_eq_some_iff isDescribed).mpr ⟨List.mem_of_find?_eq_some first, rfl⟩

/-- A described table is as its declaration says. -/
theorem isDescribedBy_of_describe
    (isDescribed : declaration.describe = .ok described) :
    declaration.IsDescribedBy described where
  name := by
    obtain ⟨_, own, _, rfl⟩ := describe_eq_ok_iff.mp isDescribed
    rfl
  columns := by
    obtain ⟨_, own, makes, rfl⟩ := describe_eq_ok_iff.mp isDescribed
    exact ⟨own, makes, rfl⟩
  relationships := by
    obtain ⟨_, own, _, rfl⟩ := describe_eq_ok_iff.mp isDescribed
    rfl
  keysAscend := keyNames_ascend isDescribed
  keys := fun _ => mem_keyNames_iff_declared isDescribed
  keysOfPermuted := fun _ => exists_describe_of_perm isDescribed
  keysHaveValues := by
    intro column member isKey
    rcases exists_makes_of_mem isDescribed member with ⟨declared, makes, _⟩ | ⟨_, rfl⟩
    · rw [makes.nullable_eq, ← makes.isKey_eq, isKey, Bool.not_true, Bool.and_false]
    · cases isKey
  geometries := geometryNames_eq_declared isDescribed
  located := by
    intro column member
    rcases exists_makes_of_mem isDescribed member with ⟨declared, makes, sound⟩ | ⟨_, rfl⟩
    · exact makes.isSome_srid_iff sound
    · exact iff_of_false nofun nofun
  relationshipsArePlain := by
    intro column member isRelationship
    rcases exists_makes_of_mem isDescribed member with ⟨declared, makes, _⟩ | ⟨_, rfl⟩
    · rw [makes.isRelationship_eq] at isRelationship
      cases isRelationship
    · exact ⟨rfl, rfl⟩
  found := fun _ _ => column?_eq_some_iff isDescribed
  keysFound := by
    intro name member
    obtain ⟨column, isColumn, isKey, named⟩ := (mem_keyNames_iff isDescribed).mp member
    exact ⟨column, (column?_eq_some_iff isDescribed).mpr ⟨isColumn, named⟩, isKey⟩
  geometriesFound := by
    intro name member
    obtain ⟨column, isColumn, isGeometry, named⟩ := (mem_geometryNames_iff isDescribed).mp member
    exact ⟨column, (column?_eq_some_iff isDescribed).mpr ⟨isColumn, named⟩, isGeometry⟩
  firstGeometry := firstGeometry?_eq_find? isDescribed

end

/-- A declaration is described exactly if its names are distinct and its columns are sound, by a
table that is as it says.  Otherwise its first fault is reported. -/
theorem described_exactly_if_describable
    (declaration : TableDeclaration) :
    ((∃ table, declaration.describe = .ok table) ↔ declaration.IsDescribable) ∧
      (∀ fault, declaration.describe = .error fault ↔ declaration.FirstFault fault) ∧
        ∀ table, declaration.describe = .ok table → declaration.IsDescribedBy table :=
  ⟨exists_describe_iff, fun _ => describe_eq_error_iff, fun _ => isDescribedBy_of_describe⟩

theorem described_exactly_if_describable_parcels :
    parcels.IsDescribable ∧ parcels.describe = .ok parcelsTable ∧
      parcels.IsDescribedBy parcelsTable :=
  have exactly := described_exactly_if_describable parcels
  ⟨exactly.1.mp ⟨_, describe_parcels⟩, describe_parcels, exactly.2.2 _ describe_parcels⟩

end TableDeclaration

end GeoTables
