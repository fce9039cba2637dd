import GeoTables.Entries
import GeoTables.Failure
import GeoTables.Table.Record

/-!
# Stores in memory

A store in memory appends records to the tables of their names and keeps them
as they are.  A session that is opened on it keeps the tables as they were at
that moment.
-/

namespace GeoTables

/-- The records of each table, in the order in which they were added. -/
structure MemoryStore where
  tables : List (TableName × List Record)

namespace MemoryStore

/-- The store without records. -/
def empty : MemoryStore := ⟨[]⟩

instance : Inhabited MemoryStore := ⟨empty⟩

/-- The records of a table. -/
def records (store : MemoryStore) (name : TableName) : List Record :=
  (store.tables.lookup name).getD []

/-- Add records to a table. -/
def extend (store : MemoryStore) (name : TableName) (added : List Record) : MemoryStore :=
  ⟨Entries.alter name (fun kept => kept.getD [] ++ added) store.tables⟩

@[simp]
theorem records_empty (name : TableName) : empty.records name = [] := rfl

@[simp]
theorem records_extend
    (store : MemoryStore)
    (name other : TableName)
    (added : List Record) :
    (store.extend name added).records other =
      if other = name then store.records name ++ added else store.records other := by
  by_cases same : other = name <;> simp [records, extend, same]

/-- Add a record to a table. -/
def insert (store : MemoryStore) (name : TableName) (record : Record) : MemoryStore :=
  store.extend name [record]

/-- The number of records of a table. -/
def size (store : MemoryStore) (name : TableName) : Nat :=
  (store.records name).length

/-- A session; it keeps the tables as they were when it was opened. -/
structure Opened where
  tables : List (TableName × List Record)

/-- Open a session. -/
def opened (store : MemoryStore) : Opened := ⟨store.tables⟩

/-- The records of a table that a session sees, whatever the store holds by now. -/
def Opened.scan
    (session : Opened)
    (_current : MemoryStore)
    (table : Table) :
    Except Failure (List Record) :=
  .ok (MemoryStore.records ⟨session.tables⟩ table.name)

end MemoryStore

end GeoTables
