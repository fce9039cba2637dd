import GeoTables.Proofs.Store.Replay

/-!
# Calls that write

A call gives a record or a JSON row to a store of rows, for some table.  It is
accepted exactly if what it gives is read as a record, and then that record is
put under its key into the tree of its table and of no other one; a call that is
refused leaves the store as it is.

The number of a row without a key is generated by the surroundings, so each call
comes with the number that is next by then.
-/

namespace GeoTables.RowStore

/-- What is given to be written. -/
inductive Given where
  | record (given : Record)
  | row (given : Json)

/-- The record that is written for a table, unless what is given is refused. -/
def Given.recordFor (table : Table) : Given → Except Failure Record
  | .record given => .ok given
  | .row given => recordOf table given

/-- Write what is given for a table. -/
def write (store : RowStore) (table : Table) : Given → Except Failure RowStore
  | .record given => .ok (store.insert table given)
  | .row given => store.insertJson table given

/-- A call that writes for a table, with the number that is generated for it. -/
structure Call where
  table : Table
  given : Given
  serial : Nat

namespace Call

/-- The record that the call writes, unless it is refused. -/
def record (call : Call) : Except Failure Record :=
  call.given.recordFor call.table

/-- What the call makes of a store. -/
def outcome (store : RowStore) (call : Call) : Except Failure RowStore :=
  write { store with nextSerial := call.serial } call.table call.given

end Call

/-- The store after a call; one that is refused changes nothing. -/
def call (store : RowStore) (call : Call) : RowStore :=
  match call.outcome store with
  | .ok next => next
  | .error _ => store

/-- The store after a run of calls. -/
def run (store : RowStore) (calls : List Call) : RowStore :=
  calls.foldl RowStore.call store

/-! ## One call -/

theorem write_eq
    (store : RowStore)
    (table : Table)
    (given : Given) :
    store.write table given = (given.recordFor table).map (store.insert table) := by
  cases given with
  | record given => rfl
  | row given =>
      rw [write, insertJson, Given.recordFor]
      cases recordOf table given <;> rfl

/-- A row is refused if it is no object, or for its first field that cannot be read. -/
theorem recordOf_eq_error_iff
    {table : Table}
    {row : Json}
    {failure : Failure} :
    recordOf table row = .error failure ↔
      ((∀ fields, row ≠ .object fields) ∧
        failure = .invalidValue table.qualifiedName row.text .notRow) ∨
      ∃ before name json after,
        row = .object (before ++ (name, json) :: after) ∧
          (∃ values, (before.mapM fun field => fieldOf table field.1 field.2) = .ok values) ∧
            fieldOf table name json = .error failure := by
  cases row with
  | object fields =>
      have unread :
          recordOf table (.object fields) = .error failure ↔
            (fields.mapM fun field => fieldOf table field.1 field.2) = .error failure := by
        unfold recordOf
        simp only [Outcome.bind_eq_error, Outcome.pure_ne_error, and_false, exists_const, or_false]
      rw [unread, Outcome.mapM_eq_error]
      simp
  | _ => simp [recordOf, eq_comm]

variable {store : RowStore} {call : Call}

theorem Call.outcome_eq_error_iff
    {failure : Failure} :
    call.outcome store = .error failure ↔ call.record = .error failure := by
  rw [outcome, write_eq, Outcome.map_eq_error, record]

/-- A call that is refused leaves the store as it is. -/
theorem call_of_refused
    {failure : Failure}
    (refused : call.outcome store = .error failure) :
    store.call call = store := by
  rw [RowStore.call, refused]

/-- A call that is accepted inserts its record under the number that is generated for it. -/
theorem call_of_accepted
    {record : Record}
    (accepted : call.record = .ok record) :
    store.call call = insert { store with nextSerial := call.serial } call.table record := by
  have written :
      call.outcome store =
        .ok (insert { store with nextSerial := call.serial } call.table record) := by
    rw [Call.outcome, write_eq, ← Call.record, accepted]
    rfl
  rw [RowStore.call, written]

/-- A call that is accepted puts its record into the tree of its table. -/
theorem tree_call_of_accepted
    {record : Record}
    (accepted : call.record = .ok record) :
    (store.call call).tree call.table.qualifiedName =
      (store.tree call.table.qualifiedName).put (rowKey call.table call.serial record)
        (rowText call.table record) := by
  rw [call_of_accepted accepted]
  exact (tree_insert _ call.table record _).trans (if_pos rfl)

/-- A call changes no tree but that of its table. -/
theorem tree_call_of_ne
    {name : String}
    (other : call.table.qualifiedName ≠ name) :
    (store.call call).tree name = store.tree name := by
  cases accepted : call.record with
  | error failure => rw [call_of_refused (Call.outcome_eq_error_iff.mpr accepted)]
  | ok record =>
      rw [call_of_accepted accepted]
      exact (tree_insert _ call.table record name).trans (if_neg other.symm)

end GeoTables.RowStore
