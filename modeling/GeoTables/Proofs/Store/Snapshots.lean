import GeoTables.Proofs.Store.Calls
import GeoTables.Store.Memory

/-!
# Sessions on a store

Sessions are opened on a store and closed again while others write to it.  A
session is a snapshot if it finds in a table, whenever it scans, what the table
held when the session was opened.  The sessions on a store in memory are
snapshots, since they keep what they find.
-/

namespace GeoTables

/--
A kind of stores.  A session may leave a mark on the store when it is opened and
when it is closed.
-/
structure StoreKind where
  Store : Type
  Session : Type
  Write : Type
  start : Store
  write : Store → Write → Store
  opened : Store → Session × Store
  closed : Store → Session → Store
  held : Store → Table → Except Failure (List Record)
  scan : Session → Store → Table → Except Failure (List Record)

/-- What happens to a store; sessions have numbers, in the order in which they are opened. -/
inductive SessionEvent (Write : Type) where
  | write (written : Write)
  | opens
  | closes (number : Nat)

namespace StoreKind

variable {kind : StoreKind}

/-- A store and the sessions that were opened on it, of which some are closed. -/
structure State (kind : StoreKind) where
  store : kind.Store
  sessions : List (Option kind.Session)

namespace State

/-- The open session of a number. -/
def session? (state : State kind) (number : Nat) : Option kind.Session :=
  state.sessions[number]?.join

/-- The state after an event; a session that is not open cannot be closed. -/
def after (state : State kind) : SessionEvent kind.Write → State kind
  | .write written => { state with store := kind.write state.store written }
  | .opens =>
      ⟨(kind.opened state.store).2, state.sessions ++ [some (kind.opened state.store).1]⟩
  | .closes number =>
      match state.session? number with
      | some session => ⟨kind.closed state.store session, state.sessions.set number none⟩
      | none => state

end State

/-- The state after a run of events. -/
def run (kind : StoreKind) (events : List (SessionEvent kind.Write)) : State kind :=
  events.foldl State.after ⟨kind.start, []⟩

/-- The number of the session that is opened next. -/
def State.next (state : State kind) : Nat :=
  state.sessions.length

/--
Whatever happens before and after it is opened, a session that is not closed
finds in each table what the table held when it was opened.
-/
def IsSnapshot (kind : StoreKind) : Prop :=
  ∀ before after,
    .closes (kind.run before).next ∉ after →
      ∃ session,
        (kind.run (before ++ .opens :: after)).session? (kind.run before).next = some session ∧
        ∀ table,
          kind.scan session (kind.run (before ++ .opens :: after)).store table =
            kind.held (kind.run before).store table

/-! ## Sessions that are open -/

/-- A session is what it was, unless it is closed. -/
theorem State.session?_after
    {state : State kind}
    {event : SessionEvent kind.Write}
    {number : Nat}
    {session : kind.Session}
    (isOpen : state.session? number = some session)
    (kept : event ≠ .closes number) :
    (state.after event).session? number = some session := by
  have early : number < state.sessions.length := by
    by_contra late
    rw [session?, List.getElem?_eq_none (Nat.not_lt.mp late)] at isOpen
    cases isOpen
  cases event with
  | write written => exact isOpen
  | opens =>
      rw [after, session?, List.getElem?_append_left early]
      exact isOpen
  | closes other =>
      have different : other ≠ number := fun same => kept (congrArg SessionEvent.closes same)
      rw [after]
      cases state.session? other with
      | none => exact isOpen
      | some _ =>
          rw [session?, List.getElem?_set_ne different]
          exact isOpen

theorem run_append
    (before after : List (SessionEvent kind.Write)) :
    kind.run (before ++ after) = after.foldl State.after (kind.run before) :=
  List.foldl_append

/-- The session that is opened next is open until it is closed. -/
theorem session?_run
    {before after : List (SessionEvent kind.Write)}
    (kept : .closes (kind.run before).next ∉ after) :
    (kind.run (before ++ .opens :: after)).session? (kind.run before).next =
      some (kind.opened (kind.run before).store).1 := by
  have opened :
      ((kind.run before).after .opens).session? (kind.run before).next =
        some (kind.opened (kind.run before).store).1 := by
    rw [State.after, State.session?, State.next, List.getElem?_concat_length]
    rfl
  rw [run_append, List.foldl_cons]
  induction after using List.reverseRecOn with
  | nil => exact opened
  | append_singleton after event induction =>
      rw [List.mem_append, List.mem_singleton, not_or] at kept
      rw [List.foldl_append, List.foldl_cons, List.foldl_nil]
      exact State.session?_after (induction kept.1) (Ne.symm kept.2)

end StoreKind

/-! ## Stores in memory -/

namespace MemoryStore

/-- Stores in memory, to which records are added. -/
abbrev kind : StoreKind where
  Store := MemoryStore
  Session := Opened
  Write := TableName × List Record
  start := .empty
  write store added := store.extend added.1 added.2
  opened store := (store.opened, store)
  closed store _ := store
  held store table := .ok (store.records table.name)
  scan := Opened.scan

/-- The records that are added to a table, in their order. -/
def added (name : TableName) (events : List (SessionEvent (TableName × List Record))) :
    List Record :=
  events.flatMap fun
    | .write (other, records) => if other = name then records else []
    | _ => []

/-- Sessions leave no mark on a store in memory. -/
theorem store_after
    (state : kind.State)
    (event : SessionEvent (TableName × List Record)) :
    (state.after event).store =
      match event with
      | .write added => state.store.extend added.1 added.2
      | _ => state.store := by
  cases event with
  | write added => rfl
  | opens => rfl
  | closes number =>
      rw [StoreKind.State.after]
      cases state.session? number <;> rfl

/-- A table holds what was added to it. -/
theorem records_run
    (events : List (SessionEvent (TableName × List Record)))
    (name : TableName) :
    (kind.run events).store.records name = added name events := by
  induction events using List.reverseRecOn with
  | nil => rfl
  | append_singleton events event induction =>
      rw [StoreKind.run_append, List.foldl_cons, List.foldl_nil, store_after, added,
        List.flatMap_append, ← added, ← induction, List.flatMap_singleton]
      cases event with
      | write written =>
          dsimp only
          rw [records_extend]
          by_cases same : name = written.1
          · rw [if_pos same, if_pos same.symm, same]
          · rw [if_neg same, if_neg (Ne.symm same), List.append_nil]
      | _ => exact (List.append_nil _).symm

theorem isSnapshot : kind.IsSnapshot :=
  fun _ _ kept => ⟨_, StoreKind.session?_run kept, fun _ => rfl⟩

end MemoryStore

end GeoTables
