import GeoTables.Proofs.Catalog.Latest
import GeoTables.Proofs.Store.Calls
import GeoTables.Store.Memory
import Mathlib.Logic.Relation

/-!
# Tables that are kept apart

A store in memory, the cache of described tables and the registry tell tables
apart by their names, so what is done for one table is never seen in another
one.  A store of rows tells them apart by the text of the name, in which a point
stands between schema and table.  Two names with a point inside can have one
text, and then the two tables share their rows.  No other tables do.
-/

namespace GeoTables

/-! ## Texts of names -/

namespace TableName

/-- The right name ends its schema at a later point of one text: what stands between the two points
belongs to the table of the left name. -/
def SplitsBefore (left right : TableName) : Prop :=
  ∃ middle,
    right.schema = left.schema ++ "." ++ middle ∧ left.table = middle ++ "." ++ right.table

theorem SplitsBefore.text_eq
    {left right : TableName}
    (splits : left.SplitsBefore right) :
    left.text = right.text := by
  obtain ⟨middle, schema, table⟩ := splits
  rw [text, text, schema, table]
  simp only [String.append_assoc]

/-- The right schema of two that split a text at different points has a point in its name. -/
theorem SplitsBefore.point_mem_schema
    {left right : TableName}
    (splits : left.SplitsBefore right) :
    '.' ∈ right.schema.toList := by
  obtain ⟨middle, schema, _⟩ := splits
  simp [schema]

/-- A schema that begins with another one belongs to the same name or to a later split. -/
theorem eq_or_splitsBefore
    {left right : TableName}
    {between : List Char}
    (schema : right.schema.toList = left.schema.toList ++ between)
    (table : '.' :: left.table.toList = between ++ '.' :: right.table.toList) :
    left = right ∨ left.SplitsBefore right := by
  rcases List.cons_eq_append_iff.mp table with ⟨rfl, same⟩ | ⟨middle, rfl, rest⟩
  · left
    rw [List.append_nil, String.toList_inj] at schema
    rw [List.cons.injEq, String.toList_inj] at same
    cases left
    cases right
    exact (TableName.mk.injEq ..).mpr ⟨schema.symm, same.2.symm⟩
  · right
    refine ⟨.ofList middle, ?_, ?_⟩
    · simp [← String.toList_inj, schema]
    · simp [← String.toList_inj, rest]

/-- Names with one text are the same, or split it at different points. -/
theorem text_eq_text_iff
    {left right : TableName} :
    left.text = right.text ↔
      left = right ∨ left.SplitsBefore right ∨ right.SplitsBefore left := by
  constructor
  · intro same
    simp only [text, ← String.toList_inj, String.toList_append, List.append_assoc] at same
    rcases List.append_eq_append_iff.mp same with ⟨_, schema, table⟩ | ⟨_, schema, table⟩
    · exact (eq_or_splitsBefore schema table).imp_right .inl
    · exact (eq_or_splitsBefore schema table).imp Eq.symm .inr
  · rintro (rfl | earlier | later)
    · rfl
    · exact earlier.text_eq
    · exact later.text_eq.symm

/-- Schemas without a point in their names keep all texts apart. -/
theorem text_inj_of_plain
    {left right : TableName}
    (leftPlain : '.' ∉ left.schema.toList)
    (rightPlain : '.' ∉ right.schema.toList) :
    left.text = right.text ↔ left = right := by
  rw [text_eq_text_iff, or_iff_left]
  rintro (splits | splits)
  · exact rightPlain splits.point_mem_schema
  · exact leftPlain splits.point_mem_schema

end TableName

/-! ## What is seen of a state -/

section

variable {State View : Type}

/-- What is seen of a state is the same after any number of changes. -/
def IsUntouched (changes : State → State → Prop) (view : State → View) : Prop :=
  ∀ before after, Relation.ReflTransGen changes before after → view after = view before

/-- What no single change touches is not touched by any number of them. -/
theorem isUntouched_iff_step
    {changes : State → State → Prop}
    {view : State → View} :
    IsUntouched changes view ↔ ∀ before after, changes before after → view after = view before := by
  constructor
  · exact fun untouched before after changed => untouched before after (.single changed)
  · intro step before after changed
    induction changed with
    | refl => rfl
    | tail _ last induction => exact (step _ _ last).trans induction

end

/-! ## Stores of rows -/

namespace RowStore

/-- What is seen of a table: its records and their number. -/
def seen (table : Table) (store : RowStore) : Except Failure (List Record) × Nat :=
  (store.scan table, store.size table)

/-- A call was made for a table, accepted or not. -/
def Writes (table : Table) (store next : RowStore) : Prop :=
  ∃ call : Call, call.table = table ∧ next = store.call call

/-- What is seen of a table depends on its own tree alone. -/
theorem seen_eq_of_tree
    {table : Table}
    {store next : RowStore}
    (same : next.tree table.qualifiedName = store.tree table.qualifiedName) :
    next.seen table = store.seen table := by
  unfold seen scan size
  rw [same]

/-- Calls for one table are never seen in another one exactly if their qualified names differ. -/
theorem isUntouched_iff_qualifiedName
    {table other : Table} :
    IsUntouched (Writes table) (seen other) ↔ table.qualifiedName ≠ other.qualifiedName := by
  rw [isUntouched_iff_step]
  constructor
  · intro untouched same
    let call : Call := ⟨table, .record .empty, 0⟩
    have unseen := untouched .empty (RowStore.empty.call call) ⟨call, rfl, rfl⟩
    have written := @tree_call_of_accepted .empty call .empty rfl
    have none : (RowStore.empty.call call).size other = 0 := congrArg Prod.snd unseen
    rw [size, ← same, RowTree.size, List.length_eq_zero_iff] at none
    rw [written] at none
    exact Entries.place_ne_nil _ none
  · rintro different store next ⟨call, rfl, rfl⟩
    exact seen_eq_of_tree (tree_call_of_ne different)

end RowStore

/-! ## Stores in memory -/

namespace MemoryStore

/-- What is seen of a table: the records that a session finds, and their number. -/
def seen (table : Table) (store : MemoryStore) : Except Failure (List Record) × Nat :=
  (store.opened.scan store table, store.size table.name)

/-- Records were added to the table of a name. -/
def Adds (name : TableName) (store next : MemoryStore) : Prop :=
  ∃ added, next = store.extend name added

theorem isUntouched_iff
    {name : TableName}
    {other : Table} :
    IsUntouched (Adds name) (seen other) ↔ name ≠ other.name := by
  rw [isUntouched_iff_step]
  constructor
  · rintro untouched rfl
    have unseen := untouched .empty (extend .empty other.name [.empty]) ⟨_, rfl⟩
    have none : size (extend .empty other.name [.empty]) other.name = 0 :=
      congrArg Prod.snd unseen
    simp [size] at none
  · rintro different store next ⟨added, rfl⟩
    have same : (store.extend name added).records other.name = store.records other.name := by
      rw [records_extend, if_neg different.symm]
    exact Prod.ext (congrArg Except.ok same) (congrArg List.length same)

end MemoryStore

/-! ## Described tables -/

namespace TableCache

/-- The table of a name was described or taken from the cache, offered to it or dropped. -/
inductive Uses (name : TableName) (cache : TableCache) : TableCache → Prop where
  | describe
      (declaration : TableDeclaration)
      (own : declaration.tableName = name) :
      Uses name cache (cache.getOrDescribe declaration).2
  | offer (table : Table) : Uses name cache (cache.offer name table).2
  | invalidate : Uses name cache (cache.invalidate name).2

/-- A use of the cache adds no entry but one under the name of the declaration. -/
theorem Serves.get?_eq_of_ne
    {cache next : TableCache}
    {declaration : TableDeclaration}
    {outcome : Except SchemaFault Table}
    {other : TableName}
    (serves : cache.Serves declaration outcome next)
    (different : other ≠ declaration.tableName) :
    next.get? other = cache.get? other := by
  cases serves with
  | found _ same => exact same other
  | failed _ _ same => exact same other
  | described _ _ added => rw [added, if_neg different]

theorem isUntouched_iff
    {name other : TableName} :
    IsUntouched (Uses name) (fun cache => cache.get? other) ↔ name ≠ other := by
  rw [isUntouched_iff_step]
  constructor
  · rintro untouched rfl
    have unseen := untouched .empty _ (.offer ⟨name, [], [], [], []⟩)
    simp at unseen
  · rintro different cache next (⟨declaration, rfl⟩ | ⟨table⟩ | _)
    · exact (serves_getOrDescribe cache declaration).get?_eq_of_ne different.symm
    · exact (get?_offer cache name other table).trans (if_neg different.symm)
    · exact (get?_invalidate cache name other).trans (if_neg different.symm)

end TableCache

/-! ## Served tables -/

namespace Registry

/-- What is seen of a table: its declaration, and the table that is kept for it. -/
def seen (name : TableName) (registry : Registry) : Option TableDeclaration × Option Table :=
  (registry.declaration? name, registry.cache.get? name)

/-- The table of a name was registered, or served from where tables stand under their names. -/
inductive Uses (name : TableName) (registry : Registry) : Registry → Prop where
  | register
      (declaration : TableDeclaration)
      (own : declaration.tableName = name) :
      Uses name registry (registry.register declaration)
  | serve
      (indexed : registry.IsIndexed) :
      Uses name registry (registry.table name).2

theorem isUntouched_iff
    {name other : TableName} :
    IsUntouched (Uses name) (seen other) ↔ name ≠ other := by
  rw [isUntouched_iff_step]
  constructor
  · rintro untouched rfl
    let declaration : TableDeclaration := ⟨name.schema, name.table, [], []⟩
    have unseen := congrArg Prod.fst (untouched .empty _ (.register declaration rfl))
    have registered :
        (Registry.empty.register declaration).declaration? name = some declaration :=
      (declaration?_register .empty declaration name).trans (if_pos rfl)
    cases registered.symm.trans unseen
  · rintro different registry next (⟨declaration, rfl⟩ | indexed)
    · refine Prod.ext ?_ ?_
      · exact (declaration?_register registry declaration other).trans (if_neg different.symm)
      · exact (TableCache.get?_invalidate registry.cache _ other).trans (if_neg different.symm)
    · refine Prod.ext (congrArg (List.lookup other) (tables_table registry name)) ?_
      unfold seen table
      cases registered : registry.declaration? name with
      | none => rfl
      | some declaration =>
          apply (TableCache.serves_getOrDescribe registry.cache declaration).get?_eq_of_ne
          rw [indexed.tableName_eq registered]
          exact different.symm

end Registry

/-! ## Tables -/

namespace RowStore

/--
What is written for one table is never seen in another one exactly if their
names differ and have no text in common; wherever names themselves are keys,
tables are kept apart exactly if their names differ.
-/
theorem kept_apart_iff (table other : Table) :
    (IsUntouched (Writes table) (seen other) ↔
      table.name ≠ other.name ∧
        ¬table.name.SplitsBefore other.name ∧ ¬other.name.SplitsBefore table.name) ∧
    (IsUntouched (MemoryStore.Adds table.name) (MemoryStore.seen other) ↔
      table.name ≠ other.name) ∧
    (IsUntouched (TableCache.Uses table.name) (fun cache => cache.get? other.name) ↔
      table.name ≠ other.name) ∧
    (IsUntouched (Registry.Uses table.name) (Registry.seen other.name) ↔
      table.name ≠ other.name) := by
  refine ⟨?_, MemoryStore.isUntouched_iff, TableCache.isUntouched_iff, Registry.isUntouched_iff⟩
  rw [isUntouched_iff_qualifiedName, Table.qualifiedName, Table.qualifiedName, ne_eq,
    TableName.text_eq_text_iff, not_or, not_or]

/-- Parcels in a schema whose name has a point inside. -/
def nestedParcels : TableDeclaration :=
  { parcels with schema := "land.north", name := "parcels" }

/-- Parcels in a table whose name has a point inside. -/
def pointedParcels : TableDeclaration :=
  { parcels with schema := "land", name := "north.parcels" }

/-- Parcels of two schemas share their rows, since the texts of their names are the same. -/
theorem not_kept_apart :
    ¬∀ (left right : TableDeclaration) (table other : Table),
      left.describe = .ok table → right.describe = .ok other → table.name ≠ other.name →
        IsUntouched (Writes table) (seen other) := by
  intro apart
  have sound := (TableDeclaration.exists_describe_iff.mp ⟨_, describe_parcels⟩).sound
  obtain ⟨table, described⟩ :=
    (@TableDeclaration.exists_describe_iff nestedParcels).mpr ⟨by decide, sound⟩
  obtain ⟨other, isOther⟩ :=
    (@TableDeclaration.exists_describe_iff pointedParcels).mpr ⟨by decide, sound⟩
  have name := TableDeclaration.name_eq_of_describe described
  have otherName := TableDeclaration.name_eq_of_describe isOther
  have different : table.name ≠ other.name := by
    rw [name, otherName]
    decide
  apply isUntouched_iff_qualifiedName.mp (apart _ _ _ _ described isOther different)
  rw [Table.qualifiedName, Table.qualifiedName, name, otherName]
  rfl

end RowStore

end GeoTables
