import GeoTables.Failure
import GeoTables.Json.Outline
import GeoTables.Store.Tree
import GeoTables.Table.Record
import GeoTables.Value.Stored

/-!
# Stores of rows

A store of rows keeps every record as the text of a JSON object, in a tree for
each qualified name of a table.  A record replaces the one with the same key;
records of a table without a key are all kept, in the order in which they were
added.  Rows are read back by the columns of the table that is scanned.

A session sees the rows that are there when it scans, not those that were there
when it was opened.

The storage that keeps the trees can fail.  Where this matters to what is
written, the calls that fail are given from outside.
-/

namespace GeoTables

/-- Trees of rows by the qualified names of their tables. -/
structure RowStore where
  trees : List (String × RowTree)
  nextSerial : Nat

/--
Storage fails to write a row.  By then it may have generated the number that is
the key of a row of a table without one.
-/
structure WriteFault where
  reason : String
  numbered : Bool
  deriving DecidableEq, Repr

namespace RowStore

/-- The store without rows. -/
def empty : RowStore := ⟨[], 0⟩

instance : Inhabited RowStore := ⟨empty⟩

/-- The tree of a name. -/
def tree (store : RowStore) (name : String) : RowTree :=
  (store.trees.lookup name).getD .empty

/-- The number of rows of a table. -/
def size (store : RowStore) (table : Table) : Nat :=
  (store.tree table.qualifiedName).size

/-- The text under which a record is kept: its key as an array. -/
def keyText (table : Table) (record : Record) : List Char :=
  (Json.array ((record.key table).map Value.toStored)).characters

/-- The text of the row for a record; fields that the table does not have are lost. -/
def rowText (table : Table) (record : Record) : List Char :=
  (Json.ofFields (table.columns.map fun column =>
    (column.name, (record.get column.name).toStored))).characters

/-- Put a row under a key. -/
def put (store : RowStore) (name : String) (key : RowKey) (row : List Char) : RowStore :=
  { store with
    trees := Entries.alter name (fun kept => (kept.getD .empty).put key row) store.trees }

@[simp]
theorem tree_empty (name : String) : empty.tree name = .empty := rfl

@[simp]
theorem tree_put
    (store : RowStore)
    (name other : String)
    (key : RowKey)
    (row : List Char) :
    (store.put name key row).tree other =
      if other = name then (store.tree name).put key row else store.tree other := by
  by_cases same : other = name <;> simp [tree, put, same]

/-- Write a record, in place of any other record with its key. -/
def insert (store : RowStore) (table : Table) (record : Record) : RowStore :=
  let row := rowText table record
  if table.keyNames.isEmpty then
    { store.put table.qualifiedName (.serial store.nextSerial) row with
      nextSerial := store.nextSerial + 1 }
  else
    store.put table.qualifiedName (.text (keyText table record)) row

/-- Read a field of a row that is to be written. -/
def fieldOf (table : Table) (name : String) (json : Json) : Except Failure (String × Value) :=
  match table.column? name with
  | none => .error (.unknownColumn table.qualifiedName name)
  | some column =>
      match Value.ofStored column json with
      | .ok value => .ok (name, value)
      | .error fault => .error (.invalidValue name json.text (.coercion fault))

/-- Read a row that is to be written. -/
def recordOf (table : Table) (row : Json) : Except Failure Record :=
  match row with
  | .object fields => do
      return .ofFields (← fields.mapM fun (name, json) => fieldOf table name json)
  | other => .error (.invalidValue table.qualifiedName other.text .notRow)

/-- Write a row that is given as JSON; it may hold no fields that the table does not have. -/
def insertJson (store : RowStore) (table : Table) (row : Json) : Except Failure RowStore := do
  return store.insert table (← recordOf table row)

/-- What is left of a write that storage fails to make: no row, but a number that is used up. -/
def unwritten (store : RowStore) (table : Table) (fault : WriteFault) : RowStore :=
  if table.keyNames.isEmpty && fault.numbered then
    { store with nextSerial := store.nextSerial + 1 }
  else
    store

@[simp]
theorem tree_unwritten
    (store : RowStore)
    (table : Table)
    (fault : WriteFault)
    (name : String) :
    (store.unwritten table fault).tree name = store.tree name := by
  rw [unwritten]
  split <;> rfl

/-- Read the field of a stored row for a column; one that is missing is null. -/
def storedField
    (table : Table)
    (fields : List (String × Json))
    (column : Column) :
    Except Failure (String × Value) :=
  match Value.ofStored column ((Json.field? fields column.name).getD .null) with
  | .ok value => .ok (column.name, value)
  | .error fault => .error (.unreadableField (.stored table.qualifiedName column.name) fault)

/-- Read a stored row. -/
def storedRecord (table : Table) (row : List Char) : Except Failure Record :=
  match Json.ofText? row with
  | some (.object fields) => do
      return .ofFields (← table.columns.mapM (storedField table fields))
  | _ => .error .unreadableText

/-- All records of a table, in the order of their keys. -/
def scan (store : RowStore) (table : Table) : Except Failure (List Record) :=
  (store.tree table.qualifiedName).entries.mapM fun entry => storedRecord table entry.2

/-- A session; it keeps nothing. -/
structure Opened where

/-- Open a session. -/
def opened (_store : RowStore) : Opened := {}

/-- The records of a table that a session sees in the store as it is by now. -/
def Opened.scan
    (_session : Opened)
    (current : RowStore)
    (table : Table) :
    Except Failure (List Record) :=
  current.scan table

end RowStore

end GeoTables
