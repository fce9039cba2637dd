import GeoTables.Predicate.Evaluation
import GeoTables.Query.Order

/-!
# Executing queries

A query is run on the rows that a session scans: first the rows are selected,
then sorted, then cut to the range.  Counting and looking up by key scan the
same rows.  A failure of the predicate names the first record it happened on.

A sort that gives up is no failure of the query, which then has no outcome at
all.
-/

namespace GeoTables

/-- Rows of tables as they are seen while a session is open. -/
structure Session where
  scan : Table → Except Failure (List Record)

/-- What is read from a table. -/
structure ReadQuery where
  predicate : Option Predicate
  sort : Option SortKey
  paging : Option Paging

namespace Query

/-- The predicate holds of a record of a table. -/
def accepts (table : Table) (predicate : Predicate) (record : Record) : Except Failure Bool :=
  (predicate.holds record).mapError (Failure.onRecord (record.keyText? table))

/-- The records of which a predicate holds. -/
def selected (table : Table) (predicate : Predicate) : List Record → Except Failure (List Record)
  | [] => .ok []
  | record :: rest => do
      let accepted ← accepts table predicate record
      let others ← selected table predicate rest
      return if accepted then record :: others else others

/-- The number of records of which a predicate holds. -/
def countSelected (table : Table) (predicate : Predicate) : Nat → List Record → Except Failure Nat
  | counted, [] => .ok counted
  | counted, record :: rest => do
      if ← accepts table predicate record then
        countSelected table predicate (counted + 1) rest
      else
        countSelected table predicate counted rest

/-- The records of an optional predicate. -/
def matching
    (table : Table)
    (predicate : Option Predicate)
    (records : List Record) :
    Except Failure (List Record) :=
  match predicate with
  | none => .ok records
  | some predicate => selected table predicate records

/-- A sort key must name a column of the table. -/
def checkSort (table : Table) : Option SortKey → Except Failure Unit
  | none => .ok ()
  | some key =>
      if (table.column? key.column).isSome then
        .ok ()
      else
        .error (.unknownSortColumn key.column)

/-- Rows in the order of a key, if there is one and the sort does not give up. -/
def sorted (sorter : Sorter) (key : Option SortKey) (rows : List Record) : Option (List Record) :=
  match key with
  | some key => sorter.sort key rows
  | none => some rows

/-- The rows of a range, if there is one. -/
def paged (paging : Option Paging) (rows : List Record) : List Record :=
  match paging with
  | some paging => paging.apply rows
  | none => rows

/-- The records that a query reads, unless the sort gives up. -/
def execute
    (sorter : Sorter)
    (session : Session)
    (table : Table)
    (query : ReadQuery) :
    Except Failure (Option (List Record)) := do
  checkSort table query.sort
  let scanned ← session.scan table
  let rows ← matching table query.predicate scanned
  return (sorted sorter query.sort rows).map (paged query.paging)

/-- The number of records of an optional predicate. -/
def count
    (session : Session)
    (table : Table)
    (predicate : Option Predicate) :
    Except Failure Nat := do
  let scanned ← session.scan table
  match predicate with
  | none => return scanned.length
  | some predicate => countSelected table predicate 0 scanned

/-- The value that a text gives to a key column. -/
def keyValue (table : Table) (name key : String) : Except Failure (String × Value) :=
  match table.column? name with
  | none => .error (.unknownColumn table.qualifiedName name)
  | some column =>
      match Value.coerceText column key with
      | .ok value => .ok (name, value)
      | .error fault => .error (.invalidValue name key (.coercion fault))

/-- The values that texts give to the key columns of a table. -/
def wantedKey (table : Table) (keys : List String) : Except Failure (List (String × Value)) :=
  if table.keyNames.isEmpty || table.keyNames.length != keys.length then
    .error (.keyArity table.keyNames.length keys.length)
  else
    (table.keyNames.zip keys).mapM fun (name, key) => keyValue table name key

/-- The record has all of the wanted values. -/
def hasKey (wanted : List (String × Value)) (record : Record) : Bool :=
  wanted.all fun (name, value) => (record.get name).equal value

/-- The only record whose key has the given texts, in the order of the key columns. -/
def findByKey
    (session : Session)
    (table : Table)
    (keys : List String) :
    Except Failure Record := do
  let wanted ← wantedKey table keys
  match (← session.scan table).filter (hasKey wanted) with
  | [] => throw (.notFound table.qualifiedName ("/".intercalate keys))
  | [record] => return record
  | found => throw (.multipleResults table.qualifiedName found.length)

end Query

end GeoTables
