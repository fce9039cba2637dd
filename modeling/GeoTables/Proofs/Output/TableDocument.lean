import GeoTables.Output.Writing
import GeoTables.Proofs.Json.Documents
import GeoTables.Proofs.Output.Structure
import GeoTables.Proofs.Table.Describable

/-!
# Descriptions of tables

The document of a table has a record of its columns and a record of its
relationships, each under their names, beside the numbers of both.  The names of
columns are distinct, so that a reader of the document finds all of them.  The
names of relationships to single records may be repeated; the text then repeats
a name, and a reader finds fewer relationships than their number says.
-/

namespace GeoTables

open Json (Document Outline)

/-! ## The elements of a record -/

namespace Xml

/-- Among elements stands one that has an element for each of the entries, and one with their
number. -/
def Lists
    (children : List Node)
    (name count : String)
    (entries : List (String × Document)) :
    Prop :=
  ∃ listed, .element (elementName name) listed ∈ children ∧
    .element (elementName count) (nodesOf (Json.ofInt listed.length)) ∈ children ∧
      listed.Perm
        (entries.map fun entry => .element (elementName entry.1) (nodesOf entry.2.toJson))

/-- The elements of a record are those of its fields in the order of their names. -/
theorem nodesOf_record (entries : List (String × Document)) :
    nodesOf (Document.toJson (.record entries)) =
      (Json.sortedFields (Document.entryValues entries)).map fun field =>
        .element (elementName field.1) (nodesOf field.2) := by
  have ascending := Json.ascending_sortedFields (Document.entryValues entries)
  change nodesOf (.object (Json.sortedFields (Document.entryValues entries))) = _
  rw [nodesOf, inKeyOrder_of_ascending ascending, membersOf_eq_map, List.map_map]
  rfl

section

variable {entries : List (String × Document)} {name : String} {document : Document}

/-- Where no two names give the same element, the element of an entry holds what is written for
its value. -/
theorem mem_nodesOf_record_iff
    (distinct : (entries.map fun entry => elementName entry.1).Nodup)
    (member : (name, document) ∈ entries)
    {children : List Node} :
    .element (elementName name) children ∈ nodesOf (Document.toJson (.record entries)) ↔
      children = nodesOf document.toJson := by
  have named : ((Document.entryValues entries).map Prod.fst).Nodup := by
    rw [Document.names_entryValues]
    refine List.Nodup.of_map elementName ?_
    rwa [List.map_map]
  have isValue : (name, document.toJson) ∈ Document.entryValues entries := by
    rw [Document.entryValues_eq_map]
    exact List.mem_map_of_mem member
  rw [nodesOf_record, List.mem_map]
  constructor
  · rintro ⟨field, isField, same⟩
    have isGiven := Json.mem_of_mem_sortedFields field isField
    rw [Document.entryValues_eq_map] at isGiven
    obtain ⟨other, isEntry, rfl⟩ := List.mem_map.mp isGiven
    obtain ⟨sameName, rfl⟩ := Node.element.inj same
    rw [List.inj_on_of_nodup_map distinct isEntry member sameName]
  · rintro rfl
    exact ⟨_, Json.mem_sortedFields named isValue, rfl⟩

/-- The elements of a record within another one are all there exactly if its names are distinct. -/
theorem lists_iff
    {listed : List (String × Document)}
    {count : String}
    (distinct : (entries.map fun entry => elementName entry.1).Nodup)
    (member : (name, .record listed) ∈ entries)
    (counted : (count, .ofNat listed.length) ∈ entries) :
    Lists (nodesOf (Document.toJson (.record entries))) name count listed ↔
      (listed.map Prod.fst).Nodup := by
  have size :
      (nodesOf (Document.toJson (.record listed))).length = listed.length ↔
        (listed.map Prod.fst).Nodup := by
    rw [nodesOf_record, List.length_map, ← Document.names_entryValues,
      ← Json.length_sortedFields_eq_iff, Document.entryValues_eq_map, List.length_map]
  constructor
  · rintro ⟨children, isMember, _, permuted⟩
    obtain rfl := (mem_nodesOf_record_iff distinct member).mp isMember
    rw [← size, permuted.length_eq, List.length_map]
  · intro named
    refine ⟨nodesOf (Document.toJson (.record listed)),
      (mem_nodesOf_record_iff distinct member).mpr rfl, ?_, ?_⟩
    · rw [size.mpr named]
      exact (mem_nodesOf_record_iff distinct counted).mpr rfl
    · rw [← Document.names_entryValues] at named
      rw [nodesOf_record]
      refine ((Json.sortedFields_perm named).map _).trans (.of_eq ?_)
      rw [Document.entryValues_eq_map, List.map_map]
      rfl

end

end Xml

/-! ## The document of a table -/

namespace Table

/-- The columns of a table as documents under their names. -/
def columnEntries (table : Table) : List (String × Document) :=
  table.columns.map fun column => (column.name, column.document)

/-- The relationships of a table as documents under their names. -/
def relationshipEntries (table : Table) : List (String × Document) :=
  table.relationships.map fun relationship => (relationship.name, relationship.document)

/-- The names within the document of a table. -/
theorem names_document (table : Table) :
    table.document.entries.map Prod.fst =
      ["name", "schema_name", "table_name", "primary_key_column_names",
        "primary_key_column_count", "geometry_column_names", "geometry_column_count",
        "column_count", "columns", "relationship_count", "relationships"] :=
  rfl

theorem nodup_names_document (table : Table) :
    (table.document.entries.map Prod.fst).Nodup := by
  rw [names_document]
  decide

/-- No two names within the document of a table give the same element. -/
theorem nodup_elementNames_document (table : Table) :
    (table.document.entries.map fun entry => Xml.elementName entry.1).Nodup := by
  change ((table.document.entries.map Prod.fst).map Xml.elementName).Nodup
  rw [names_document]
  decide +kernel

/-- The numbers within the document of the table fit 64 bits. -/
structure IsSmall (table : Table) : Prop where
  keys : table.keyNames.length < 2 ^ 64
  geometries : table.geometryNames.length < 2 ^ 64
  columns : table.columns.length < 2 ^ 64
  relationships : table.relationships.length < 2 ^ 64

theorem columns_mem_document (table : Table) :
    ("columns", .record table.columnEntries) ∈ table.document.entries :=
  List.mem_of_getElem? (i := 8) rfl

theorem columnCount_mem_document (table : Table) :
    ("column_count", .ofNat table.columnEntries.length) ∈ table.document.entries := by
  rw [columnEntries, List.length_map]
  exact List.mem_of_getElem? (i := 7) rfl

theorem relationships_mem_document (table : Table) :
    ("relationships", .record table.relationshipEntries) ∈ table.document.entries :=
  List.mem_of_getElem? (i := 10) rfl

theorem relationshipCount_mem_document (table : Table) :
    ("relationship_count", .ofNat table.relationshipEntries.length) ∈ table.document.entries := by
  rw [relationshipEntries, List.length_map]
  exact List.mem_of_getElem? (i := 9) rfl

theorem names_columnEntries (table : Table) :
    table.columnEntries.map Prod.fst = table.columns.map Column.name := by
  rw [columnEntries, List.map_map]
  rfl

theorem names_relationshipEntries (table : Table) :
    table.relationshipEntries.map Prod.fst = table.relationships.map Relationship.name := by
  rw [relationshipEntries, List.map_map]
  rfl

end Table

/-! ### The documents within it -/

/-- The numbers of a column fit 64 bits, and its initial value is regular. -/
structure Column.IsWritable (column : Column) : Prop where
  length : ∀ size ∈ column.length, size < 2 ^ 64
  precision : ∀ size ∈ column.precision, size < 2 ^ 64
  scale : ∀ size ∈ column.scale, size < 2 ^ 64
  srid : ∀ srid ∈ column.srid, -(2 ^ 63 : Int) ≤ srid ∧ srid < (2 ^ 64 : Int)
  initial : ∀ json ∈ column.initial, json.IsRegular

section

variable (holds : Document → Prop)

/-- What holds of simple documents holds of all in the document of a column, if it does of the
initial value. -/
theorem Column.forall_mem_document_iff
    {column : Column}
    (writable : column.IsWritable)
    (simple : ∀ {document : Document}, document.IsSimple → holds document) :
    (∀ entry ∈ column.document.entries, holds entry.2) ↔
      holds (.value (column.initial.getD .null)) := by
  have size {number : Option Nat} (fits : ∀ size ∈ number, size < 2 ^ 64) :
      Document.IsSimple (.ofInt? (number.map Int.ofNat)) := by
    refine .integer? fun value member => ?_
    obtain ⟨size, isSize, rfl⟩ := Option.mem_map.mp member
    have bound := fits size isSize
    rw [Int.ofNat_eq_natCast]
    omega
  refine ⟨fun all => all ("default", _) (List.mem_of_getElem? (i := 8) rfl), fun initial => ?_⟩
  simp only [document, Document.entries, List.forall_mem_cons]
  exact ⟨simple (.string _), simple (.string _), simple (.string _), simple (.string _),
    simple (size writable.length), simple (size writable.precision), simple (size writable.scale),
    simple (.bool _), initial, simple (.bool _), simple (.bool _), simple (.strings _),
    simple (.bool _), simple (.bool _), simple (.integer? writable.srid), nofun⟩

theorem Relationship.forall_mem_document
    (relationship : Relationship)
    (simple : ∀ {document : Document}, document.IsSimple → holds document) :
    ∀ entry ∈ relationship.document.entries, holds entry.2 := by
  simp only [document, Document.entries, List.forall_mem_cons]
  exact ⟨simple (.string _), simple (.string _), simple (.string _), simple (.bool _),
    simple (.strings _), nofun⟩

/-- What holds of simple documents holds of all in the document of a table, if it does of its
columns and relationships. -/
theorem Table.forall_mem_document_iff
    {table : Table}
    (small : table.IsSmall)
    (simple : ∀ {document : Document}, document.IsSimple → holds document) :
    (∀ entry ∈ table.document.entries, holds entry.2) ↔
      holds (.record table.columnEntries) ∧ holds (.record table.relationshipEntries) := by
  refine ⟨fun all =>
    ⟨all _ table.columns_mem_document, all _ table.relationships_mem_document⟩, ?_⟩
  rintro ⟨columns, relationships⟩
  simp only [document, Document.entries, List.forall_mem_cons]
  exact ⟨simple (.string _), simple (.string _), simple (.string _), simple (.strings _),
    simple (.ofNat small.keys), simple (.strings _), simple (.ofNat small.geometries),
    simple (.ofNat small.columns), columns, simple (.ofNat small.relationships), relationships,
    nofun⟩

end

/-! ### Regular documents -/

theorem Column.IsWritable.isRegular_initial
    {column : Column}
    (writable : column.IsWritable) :
    (column.initial.getD .null).IsRegular := by
  cases given : column.initial with
  | none => exact .null
  | some json => exact writable.initial json given

section

variable {table : Table}

/-- All that is written in the document of a table is regular. -/
theorem Table.isRegular_document
    (small : table.IsSmall)
    (writable : ∀ column ∈ table.columns, column.IsWritable) :
    table.document.IsRegular := by
  have columns : Document.IsRegular (.record table.columnEntries) := by
    refine .record (List.forall_mem_map.mpr fun column member => ?_)
    have initial := (writable column member).isRegular_initial
    exact .record ((Column.forall_mem_document_iff _ (writable column member)
      Document.IsSimple.isRegular).mpr (.value initial))
  have relationships : Document.IsRegular (.record table.relationshipEntries) := by
    refine .record (List.forall_mem_map.mpr fun relationship _ => ?_)
    exact .record (relationship.forall_mem_document _ Document.IsSimple.isRegular)
  exact .record ((Table.forall_mem_document_iff _ small Document.IsSimple.isRegular).mpr
    ⟨columns, relationships⟩)

/-! ### Repeated names -/

theorem Column.hasDistinctNames_document
    {column : Column}
    (writable : column.IsWritable) :
    column.document.outline.HasDistinctNames := by
  have names : (column.document.entries.map Prod.fst).Nodup := by
    change ["column_name", "header", "type", "store_type", "length", "precision", "scale",
      "nullable", "default", "is_primary_key", "has_foreign_keys", "foreign_key_names",
      "is_collection_valued", "is_geometry_column", "srid"].Nodup
    decide
  refine Document.hasDistinctNames_outline_record.mpr ⟨names, ?_⟩
  refine (Column.forall_mem_document_iff _ writable Document.IsSimple.hasDistinctNames).mpr ?_
  exact Document.hasDistinctNames_outline_value writable.isRegular_initial

theorem Relationship.hasDistinctNames_document (relationship : Relationship) :
    relationship.document.outline.HasDistinctNames := by
  have names : (relationship.document.entries.map Prod.fst).Nodup := by
    change ["name", "target_table", "cardinality", "is_collection_valued",
      "connected_foreign_keys"].Nodup
    decide
  refine Document.hasDistinctNames_outline_record.mpr ⟨names, ?_⟩
  exact relationship.forall_mem_document _ Document.IsSimple.hasDistinctNames

/-- The document of a table repeats no name exactly if neither its columns nor its relationships
do. -/
theorem Table.hasDistinctNames_document_iff
    (small : table.IsSmall)
    (writable : ∀ column ∈ table.columns, column.IsWritable) :
    table.document.outline.HasDistinctNames ↔
      (table.columns.map Column.name).Nodup ∧
        (table.relationships.map Relationship.name).Nodup := by
  have columns :
      (Document.outline (.record table.columnEntries)).HasDistinctNames ↔
        (table.columns.map Column.name).Nodup := by
    rw [Document.hasDistinctNames_outline_record, names_columnEntries]
    exact and_iff_left (List.forall_mem_map.mpr fun column member =>
      Column.hasDistinctNames_document (writable column member))
  have relationships :
      (Document.outline (.record table.relationshipEntries)).HasDistinctNames ↔
        (table.relationships.map Relationship.name).Nodup := by
    rw [Document.hasDistinctNames_outline_record, names_relationshipEntries]
    exact and_iff_left (List.forall_mem_map.mpr fun relationship _ =>
      relationship.hasDistinctNames_document)
  rw [← columns, ← relationships]
  change (Document.outline (.record table.document.entries)).HasDistinctNames ↔ _
  rw [Document.hasDistinctNames_outline_record, and_iff_right table.nodup_names_document]
  exact Table.forall_mem_document_iff _ small Document.IsSimple.hasDistinctNames

/-! ### Documents that are read -/

/-- The document of a column is read exactly if the initial value is. -/
theorem Column.isSome_value?_document_iff
    {column : Column}
    (writable : column.IsWritable)
    {depth : Nat} :
    (column.document.outline.value? (depth + 2)).isSome ↔
      ∀ json ∈ column.initial, json.IsPlain (depth + 1) ∧ json.reread?.isSome := by
  change ((Document.outline (.record column.document.entries)).value? (depth + 2)).isSome ↔ _
  rw [Document.isSome_value?_record_iff, Column.forall_mem_document_iff
      (fun document => (document.outline.value? (depth + 1)).isSome) writable
      fun simple => simple.isSome_value? depth,
    Document.isSome_value?_value_iff writable.isRegular_initial]
  cases column.initial with
  | none => exact iff_of_true ⟨trivial, rfl⟩ nofun
  | some json => simp

theorem Relationship.isSome_value?_document
    (relationship : Relationship)
    (depth : Nat) :
    (relationship.document.outline.value? (depth + 2)).isSome := by
  exact Document.isSome_value?_record_iff.mpr (relationship.forall_mem_document
    (fun document => (document.outline.value? (depth + 1)).isSome)
    fun simple => simple.isSome_value? depth)

/-- The document of a table is read exactly if the initial values of its columns are, three levels
further in. -/
theorem Table.isSome_value?_document_iff
    (small : table.IsSmall)
    (writable : ∀ column ∈ table.columns, column.IsWritable)
    {depth : Nat} :
    (table.document.outline.value? (depth + 4)).isSome ↔
      ∀ column ∈ table.columns, ∀ json ∈ column.initial,
        json.IsPlain (depth + 1) ∧ json.reread?.isSome := by
  have relationships :
      ((Document.outline (.record table.relationshipEntries)).value? (depth + 3)).isSome := by
    refine Document.isSome_value?_record_iff.mpr (List.forall_mem_map.mpr ?_)
    exact fun relationship _ => relationship.isSome_value?_document depth
  change ((Document.outline (.record table.document.entries)).value? (depth + 4)).isSome ↔ _
  rw [Document.isSome_value?_record_iff, Table.forall_mem_document_iff
      (fun document => (document.outline.value? (depth + 3)).isSome) small
      fun simple => simple.isSome_value? (depth + 2),
    and_iff_left relationships, Document.isSome_value?_record_iff, columnEntries,
    List.forall_mem_map]
  exact forall₂_congr fun column member =>
    Column.isSome_value?_document_iff (writable column member)

end

/-! ## Described tables -/

/-- A size that an argument of a type gives has 32 bits. -/
theorem StoreType.size?_lt
    {type : StoreType}
    {index size : Nat}
    (isSize : type.size? index = some size) :
    size < 2 ^ 64 := by
  obtain ⟨argument, _, within⟩ := Option.bind_eq_some_iff.mp isSize
  have bound : size < 2 ^ 32 := of_decide_eq_true (Option.filter_eq_some_iff.mp within).2
  omega

/-- So has a size that only some types have. -/
theorem StoreType.forall_ite_size?_lt
    (type : StoreType)
    (index : Nat)
    {has : Prop}
    [Decidable has] :
    ∀ size ∈ if has then type.size? index else none, size < 2 ^ 64 := by
  intro size isSize
  split_ifs at isSize
  · exact StoreType.size?_lt isSize
  · exact absurd isSize (Option.not_mem_none size)

/-- The initial values of a declaration are regular, its reference systems have 32 bits and the
numbers of its columns and relationships 64. -/
structure TableDeclaration.IsWritable (declaration : TableDeclaration) : Prop where
  initial : ∀ column ∈ declaration.columns, ∀ json ∈ column.initial, json.IsRegular
  srid :
    ∀ column ∈ declaration.columns, ∀ srid ∈ column.srid,
      -(2 ^ 31 : Int) ≤ srid ∧ srid < (2 ^ 31 : Int)
  size : declaration.columns.length + declaration.relationships.length < 2 ^ 64

namespace ColumnDeclaration

variable {declared : ColumnDeclaration} {column : Column}

/-- The reference system of a column has 32 bits if the declared one does. -/
theorem givenSrid?_bounds
    (bounded : ∀ srid ∈ declared.srid, -(2 ^ 31 : Int) ≤ srid ∧ srid < (2 ^ 31 : Int))
    {srid : Int}
    (given : declared.givenSrid? = some srid) :
    -(2 ^ 31 : Int) ≤ srid ∧ srid < (2 ^ 31 : Int) := by
  rw [givenSrid?] at given
  cases own : declared.srid with
  | some number =>
      rw [own] at given
      cases given
      exact bounded _ own
  | none =>
      rw [own, Option.orElse_eq_orElse, Option.orElse_none] at given
      obtain ⟨argument, _, within⟩ := Option.bind_eq_some_iff.mp given
      have bounds := (Option.filter_eq_some_iff.mp within).2
      simpa using bounds

/-- A column that is made of a declared one can be written. -/
theorem Makes.isWritable
    (makes : declared.Makes column)
    (initial : ∀ json ∈ declared.initial, json.IsRegular)
    (bounded : ∀ srid ∈ declared.srid, -(2 ^ 31 : Int) ≤ srid ∧ srid < (2 ^ 31 : Int)) :
    column.IsWritable where
  length := by
    rw [makes.length_eq, StoreType.length?]
    exact declared.storeType.forall_ite_size?_lt 0
  precision := by
    rw [makes.precision_eq, StoreType.precision?]
    exact declared.storeType.forall_ite_size?_lt 0
  scale := by
    rw [makes.scale_eq, StoreType.scale?]
    exact declared.storeType.forall_ite_size?_lt 1
  srid := by
    rw [makes.srid, ownSrid?]
    split_ifs
    · intro srid given
      have bounds := givenSrid?_bounds bounded given
      omega
    · exact fun _ none => absurd none (Option.not_mem_none _)
  initial := by
    rw [makes.initial_eq]
    exact initial

end ColumnDeclaration

/-- The column of a relationship can be written. -/
theorem RelationshipDeclaration.isWritable_column (declared : RelationshipDeclaration) :
    declared.column.IsWritable where
  length := nofun
  precision := nofun
  scale := nofun
  srid := nofun
  initial := nofun

namespace TableDeclaration

variable {declaration : TableDeclaration} {table : Table}

/-- The columns of a described table can be written. -/
theorem isWritable_columns
    (described : declaration.describe = .ok table)
    (writable : declaration.IsWritable) :
    ∀ column ∈ table.columns, column.IsWritable := by
  intro column member
  rcases mem_columns_of_describe described member with
    ⟨declared, isDeclared, own⟩ | ⟨relationship, _, _, rfl⟩
  · exact (ColumnDeclaration.describe_eq_ok_iff.mp own).1.isWritable
      (writable.initial declared isDeclared) (writable.srid declared isDeclared)
  · exact relationship.isWritable_column

/-- A described table has few enough columns and relationships for their numbers to be written. -/
theorem isSmall_of_describe
    (described : declaration.describe = .ok table)
    (writable : declaration.IsWritable) :
    table.IsSmall := by
  have size := writable.size
  obtain ⟨_, own, makes, rfl⟩ := describe_eq_ok_iff.mp described
  have columns :
      (own ++ (many declaration.relationships).map RelationshipDeclaration.column).length <
        2 ^ 64 := by
    have further : (many declaration.relationships).length ≤ declaration.relationships.length :=
      List.length_filter_le _ _
    rw [List.length_append, List.length_map, ← makes.length_eq]
    omega
  refine ⟨?_, ?_, columns, ?_⟩
  · rw [assemble, List.length_mergeSort, List.length_map]
    exact (List.length_filter_le _ _).trans_lt columns
  · rw [assemble, List.length_map]
    exact (List.length_filter_le _ _).trans_lt columns
  · rw [assemble, List.length_map]
    omega

/-- The initial values of the columns of a described table are those that are declared. -/
theorem forall_initial_iff
    (described : declaration.describe = .ok table)
    {holds : Json → Prop} :
    (∀ column ∈ table.columns, ∀ json ∈ column.initial, holds json) ↔
      ∀ column ∈ declaration.columns, ∀ json ∈ column.initial, holds json := by
  obtain ⟨_, own, makes, rfl⟩ := describe_eq_ok_iff.mp described
  have same {declared : ColumnDeclaration} {column : Column} (made : declared.Makes column) :
      (∀ json ∈ declared.initial, holds json) ↔ ∀ json ∈ column.initial, holds json := by
    rw [made.initial_eq]
  rw [Outcome.forall_iff_of_forall₂ makes same, assemble, List.forall_mem_append]
  refine and_iff_left (List.forall_mem_map.mpr fun relationship _ json none => ?_)
  exact absurd none (Option.not_mem_none json)

theorem names_relationships
    (described : declaration.describe = .ok table) :
    table.relationships.map Relationship.name =
      declaration.relationships.map RelationshipDeclaration.name := by
  obtain ⟨_, own, _, rfl⟩ := describe_eq_ok_iff.mp described
  rw [assemble, List.map_map]
  rfl

end TableDeclaration

/-! ## What is listed -/

/-- In whatever the text is read as, and in the elements that the markup is read as, each of the
entries is listed once under the name, beside their number. -/
structure Table.IsListed
    (text markup : List Char)
    (name count : String)
    (entries : List (String × Document)) :
    Prop where
  read : ∀ json, Json.ofText? text = some json → json.Lists name count entries
  marked :
    ∃ body children, markup = Xml.declaration ++ body ∧
      Xml.nodes? body = some [.element "root".toList children] ∧
        Xml.Lists children name count entries

/-- The text repeats no name within an object, and each column and each relationship of the table
is listed once, in the text as in the markup. -/
structure Table.IsFaithful (table : Table) (text markup : List Char) : Prop where
  distinct : ∃ outline, Outline.ofText? text = some outline ∧ outline.HasDistinctNames
  columns : IsListed text markup "columns" "column_count" table.columnEntries
  relationships :
    IsListed text markup "relationships" "relationship_count" table.relationshipEntries

section

variable {table : Table} {entries : List (String × Document)} {name count : String}

/-- A record within the document of a table is listed exactly if its names are distinct. -/
theorem Table.isListed_iff
    (small : table.IsSmall)
    (writable : ∀ column ∈ table.columns, column.IsWritable)
    (member : (name, .record entries) ∈ table.document.entries)
    (counted : (count, .ofNat entries.length) ∈ table.document.entries)
    (fits : entries.length < 2 ^ 64) :
    IsListed table.document.characters (Xml.document table.document.toJson) name count entries ↔
      (entries.map Prod.fst).Nodup := by
  have regular := Table.isRegular_document small writable
  obtain ⟨body, isBody, nodes⟩ := Xml.nodes?_document regular.toJson
  have marked := Xml.lists_iff table.nodup_elementNames_document member counted
  constructor
  · rintro ⟨_, other, children, isOther, otherNodes, lists⟩
    obtain rfl := List.append_cancel_left (isBody.symm.trans isOther)
    rw [nodes] at otherNodes
    cases otherNodes
    exact marked.mp lists
  · intro distinct
    refine ⟨fun json read => ?_, body, _, isBody, nodes, marked.mpr distinct⟩
    rw [Document.ofText?_characters regular] at read
    exact Json.lists_of_reread? (Document.reread?_toJson regular read)
      table.nodup_names_document member counted fits distinct

/-- The columns of a table are listed if no two have the same name. -/
theorem Table.isListed_columns
    (small : table.IsSmall)
    (writable : ∀ column ∈ table.columns, column.IsWritable)
    (named : (table.columns.map Column.name).Nodup) :
    IsListed table.document.characters (Xml.document table.document.toJson)
      "columns" "column_count" table.columnEntries := by
  refine (isListed_iff small writable table.columns_mem_document
    table.columnCount_mem_document ?_).mpr ?_
  · rw [columnEntries, List.length_map]
    exact small.columns
  · rwa [names_columnEntries]

/-- If no two columns have the same name, a table is described faithfully exactly if no two
relationships have. -/
theorem Table.isFaithful_iff
    (small : table.IsSmall)
    (writable : ∀ column ∈ table.columns, column.IsWritable)
    (named : (table.columns.map Column.name).Nodup) :
    table.IsFaithful table.document.characters (Xml.document table.document.toJson) ↔
      (table.relationships.map Relationship.name).Nodup := by
  have fits : table.relationshipEntries.length < 2 ^ 64 := by
    rw [relationshipEntries, List.length_map]
    exact small.relationships
  have listed :=
    isListed_iff small writable table.relationships_mem_document
      table.relationshipCount_mem_document fits
  rw [names_relationshipEntries] at listed
  have distinct := hasDistinctNames_document_iff small writable
  have outline := Document.outline_characters (isRegular_document small writable)
  refine ⟨fun faithful => listed.mp faithful.relationships, fun names => ?_⟩
  exact ⟨⟨_, outline, distinct.mpr ⟨named, names⟩⟩, isListed_columns small writable named,
    listed.mpr names⟩

end

namespace TableDeclaration

/--
The description of a table lists each of its columns once, as the text of an
object and as elements.  It repeats no name, and lists each relationship once
beside their number, exactly if the declared names of the relationships are
distinct.  The text can be read exactly if the initial values of the columns
can, three levels further in.
-/
theorem description_faithful_iff
    {declaration : TableDeclaration}
    {table : Table}
    (described : declaration.describe = .ok table)
    (writable : declaration.IsWritable) :
    ∃ text markup,
      serializeTable table .json = .ok text ∧ serializeTable table .xml = .ok markup ∧
        ((Json.ofText? text).isSome ↔
          ∀ column ∈ declaration.columns, ∀ json ∈ column.initial,
            json.IsPlain (Json.maxDepth - 3) ∧ json.reread?.isSome) ∧
        Table.IsListed text markup "columns" "column_count" table.columnEntries ∧
        (table.IsFaithful text markup ↔
          (declaration.relationships.map RelationshipDeclaration.name).Nodup) := by
  have small := isSmall_of_describe described writable
  have columns := isWritable_columns described writable
  have named := nodup_columns_of_describe described
  refine ⟨_, _, rfl, rfl, ?_, Table.isListed_columns small columns named, ?_⟩
  · rw [Document.ofText?_characters (Table.isRegular_document small columns),
      ← forall_initial_iff described]
    exact Table.isSome_value?_document_iff small columns
  · rw [Table.isFaithful_iff small columns named, names_relationships described]

/-- Parcels that are related to other tables. -/
def relatedParcels (relationships : List RelationshipDeclaration) : TableDeclaration :=
  { parcels with relationships := relationships }

/-- The owner of a parcel, who is one of many in a table. -/
def ownerIn (target : String) : RelationshipDeclaration where
  name := "owner"
  target := target
  cardinality := .manyToOne
  foreignKeys := []

/-- The buildings on a parcel. -/
def buildings : RelationshipDeclaration where
  name := "buildings"
  target := "buildings"
  cardinality := .oneToMany
  foreignKeys := []

theorem exists_describe_relatedParcels
    {relationships : List RelationshipDeclaration}
    (distinct : (relatedParcels relationships).columnNames.Nodup) :
    ∃ table, (relatedParcels relationships).describe = .ok table :=
  exists_describe_iff.mpr ⟨distinct, (exists_describe_iff.mp ⟨_, describe_parcels⟩).sound⟩

theorem isWritable_relatedParcels
    {relationships : List RelationshipDeclaration}
    (few : 3 + relationships.length < 2 ^ 64) :
    (relatedParcels relationships).IsWritable where
  initial := by
    simp only [relatedParcels, parcels, List.forall_mem_cons]
    exact ⟨nofun, nofun, nofun, nofun⟩
  srid := by
    simp only [relatedParcels, parcels, List.forall_mem_cons]
    exact ⟨nofun, nofun, nofun, nofun⟩
  size := few

/-- The owner and the buildings of a parcel are both listed. -/
theorem description_faithful_iff_parcels :
    ∃ table text markup,
      (relatedParcels [ownerIn "persons", buildings]).describe = .ok table ∧
        serializeTable table .json = .ok text ∧ serializeTable table .xml = .ok markup ∧
          (Json.ofText? text).isSome ∧ table.IsFaithful text markup := by
  have distinct : (relatedParcels [ownerIn "persons", buildings]).columnNames.Nodup := by
    decide
  obtain ⟨table, described⟩ := exists_describe_relatedParcels distinct
  obtain ⟨text, markup, isText, isMarkup, read, _, faithful⟩ :=
    description_faithful_iff described (isWritable_relatedParcels (by decide))
  refine ⟨table, text, markup, described, isText, isMarkup, read.mpr ?_, faithful.mpr (by decide)⟩
  simp only [relatedParcels, parcels, List.forall_mem_cons]
  exact ⟨nofun, nofun, nofun, nofun⟩

/-- The owners of a parcel in two tables are accepted under one name, of which the description
lists a single relationship. -/
theorem description_not_faithful :
    ∃ table text markup,
      (relatedParcels [ownerIn "persons", ownerIn "companies"]).describe = .ok table ∧
        serializeTable table .json = .ok text ∧ serializeTable table .xml = .ok markup ∧
          ¬table.IsFaithful text markup := by
  have distinct :
      (relatedParcels [ownerIn "persons", ownerIn "companies"]).columnNames.Nodup := by
    decide
  have writable : (relatedParcels [ownerIn "persons", ownerIn "companies"]).IsWritable :=
    isWritable_relatedParcels (by decide)
  obtain ⟨table, described⟩ := exists_describe_relatedParcels distinct
  refine ⟨table, _, _, described, rfl, rfl, ?_⟩
  rw [Table.isFaithful_iff (isSmall_of_describe described writable)
    (isWritable_columns described writable) (nodup_columns_of_describe described),
    names_relationships described]
  decide

end TableDeclaration

end GeoTables
