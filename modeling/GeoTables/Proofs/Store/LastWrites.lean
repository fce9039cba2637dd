import GeoTables.Proofs.Store.Calls
import GeoTables.Proofs.Store.KeyBytes
import GeoTables.Proofs.Store.Tree

/-!
# Last writes

Whatever calls are made for a table, with others for tables of other qualified
names between them, a tree that was empty keeps the last record that was written
under each key and nothing else; calls that are refused leave no trace.  The
rows are in the order of the bytes of their keys, and so they are scanned.  A
table without a key keeps all rows, since no number is generated twice.
-/

namespace GeoTables.RowStore

/-- A record that was written, with the number that was generated for it. -/
structure Written where
  serial : Nat
  record : Record

namespace Written

/-- The key under which the record is kept. -/
def key (table : Table) (written : Written) : RowKey :=
  rowKey table written.serial written.record

/-- The row as which the record is kept. -/
def row (table : Table) (written : Written) : List Char :=
  rowText table written.record

end Written

/-- What a call writes for the tables of a qualified name, if it is accepted. -/
def Call.written? (name : String) (call : Call) : Option Written :=
  match call.record with
  | .ok record => if call.table.qualifiedName = name then some ⟨call.serial, record⟩ else none
  | .error _ => none

/-- What is written for a table by the calls that are accepted. -/
def accepted (table : Table) (calls : List Call) : List Written :=
  calls.filterMap (Call.written? table.qualifiedName)

/-- Calls for tables of the qualified name of a table are calls for the table itself. -/
def AreOwn (table : Table) (calls : List Call) : Prop :=
  ∀ call ∈ calls, call.table.qualifiedName = table.qualifiedName → call.table = table

/-- A table without a key gets a number of eight bytes for each row, and none of them twice. -/
def HaveOwnNumbers (table : Table) (written : List Written) : Prop :=
  table.keyNames = [] →
    (written.map Written.serial).Nodup ∧ ∀ each ∈ written, each.serial < 256 ^ 8

/-! ## Runs of calls -/

section

variable {table : Table} {store : RowStore} {calls : List Call}

/-- A call places what it writes among the rows of the table. -/
theorem entries_call
    {call : Call}
    (own : call.table.qualifiedName = table.qualifiedName → call.table = table) :
    ((store.call call).tree table.qualifiedName).entries =
      RowKey.placeAll (store.tree table.qualifiedName).entries
        ((call.written? table.qualifiedName).toList.map fun each =>
          (each.key table, each.row table)) := by
  unfold Call.written?
  cases isAccepted : call.record with
  | error failure =>
      rw [call_of_refused (Call.outcome_eq_error_iff.mpr isAccepted)]
      rfl
  | ok record =>
      by_cases same : call.table.qualifiedName = table.qualifiedName
      · rw [← same, tree_call_of_accepted isAccepted, own same]
        simp only [if_pos]
        rfl
      · rw [tree_call_of_ne same]
        simp only [if_neg same]
        rfl

/-- A run of calls places what they write, one after the other. -/
theorem entries_run
    (own : AreOwn table calls) :
    ((run store calls).tree table.qualifiedName).entries =
      RowKey.placeAll (store.tree table.qualifiedName).entries
        ((accepted table calls).map fun each => (each.key table, each.row table)) := by
  induction calls generalizing store with
  | nil => rfl
  | cons call rest induction =>
      obtain ⟨first, others⟩ := List.forall_mem_cons.mp own
      change ((run (store.call call) rest).tree _).entries = _
      rw [induction others, entries_call first]
      unfold accepted RowKey.placeAll
      rw [List.filterMap_cons, ← List.foldl_append, ← List.map_append]
      cases call.written? table.qualifiedName <;> rfl

end

/-! ## What is kept -/

/-- The tree of a table keeps the last of the records that were written under each key. -/
structure Keeps (table : Table) (store : RowStore) (written kept : List Written) : Prop where
  entries :
    (store.tree table.qualifiedName).entries =
      kept.map fun each => (each.key table, each.row table)
  last :
    ∀ each,
      each ∈ kept ↔
        ∃ earlier later,
          written = earlier ++ each :: later ∧
            each.key table ∉ later.map (Written.key table)
  ordered : kept.Pairwise fun left right => (left.key table).bytes < (right.key table).bytes
  size : store.size table = (written.map (Written.key table)).toFinset.card
  all : table.keyNames = [] → kept.Perm written
  scan : store.scan table = kept.mapM fun each => storedRecord table (each.row table)

section

variable {table : Table} {written : List Written}

/-- The records that were written, placed under their keys one after the other. -/
def placed (table : Table) (written : List Written) : List (RowKey × Written) :=
  RowKey.placeAll [] (written.map fun each => (each.key table, each))

/-- The last of the records that were written under each key, in the order of the keys. -/
def lastWritten (table : Table) (written : List Written) : List Written :=
  (placed table written).map Prod.snd

/-- Every record is placed under its own key. -/
theorem map_lastWritten :
    ((lastWritten table written).map fun each => (each.key table, each)) =
      placed table written := by
  rw [lastWritten, List.map_map]
  refine (List.map_congr_left ?_).trans (List.map_id _)
  intro entry member
  obtain ⟨earlier, later, split, _⟩ := RowKey.mem_placeAll_nil_iff.mp member
  have given : entry ∈ written.map fun each => (each.key table, each) :=
    split ▸ List.mem_append_right earlier List.mem_cons_self
  obtain ⟨_, _, rfl⟩ := List.mem_map.mp given
  rfl

theorem mem_lastWritten_iff
    {each : Written} :
    each ∈ lastWritten table written ↔
      ∃ earlier later,
        written = earlier ++ each :: later ∧
          each.key table ∉ later.map (Written.key table) := by
  have isPlaced :
      each ∈ lastWritten table written ↔ (each.key table, each) ∈ placed table written := by
    rw [← map_lastWritten, List.mem_map_of_injective fun _ _ same => congrArg Prod.snd same]
  rw [isPlaced, placed, RowKey.mem_placeAll_nil_iff]
  constructor
  · rintro ⟨earlier, later, split, last⟩
    obtain ⟨before, rest, rfl, _, isRest⟩ := List.map_eq_append_iff.mp split
    obtain ⟨own, after, rfl, isOwn, rfl⟩ := List.map_eq_cons_iff.mp isRest
    obtain rfl : own = each := congrArg Prod.snd isOwn
    refine ⟨before, after, rfl, ?_⟩
    rwa [List.map_map] at last
  · rintro ⟨earlier, later, rfl, last⟩
    refine ⟨_, later.map fun each => (each.key table, each), List.map_append, ?_⟩
    rwa [List.map_map]

theorem mem_written_of_mem_lastWritten
    {each : Written}
    (member : each ∈ lastWritten table written) :
    each ∈ written := by
  obtain ⟨earlier, later, rfl, _⟩ := mem_lastWritten_iff.mp member
  exact List.mem_append_right earlier List.mem_cons_self

theorem pairwise_lastWritten :
    (lastWritten table written).Pairwise fun left right =>
      (left.key table).before (right.key table) = true := by
  have ordered : RowKey.IsOrdered (placed table written) := RowKey.IsOrdered.placeAll .nil _
  rw [← map_lastWritten] at ordered
  exact List.pairwise_map.mp ordered

theorem length_lastWritten :
    (lastWritten table written).length = (written.map (Written.key table)).toFinset.card := by
  rw [lastWritten, List.length_map, placed, RowKey.length_placeAll_nil, List.map_map]
  rfl

/-- Rows of records may be placed, or the rows of those that are placed last be taken. -/
theorem placeAll_rows :
    RowKey.placeAll [] (written.map fun each => (each.key table, each.row table)) =
      (lastWritten table written).map fun each => (each.key table, each.row table) := by
  have rows := congrArg (List.map (Prod.map id (Written.row table)))
    (@map_lastWritten table written)
  rw [placed, RowKey.map_placeAll, List.map_map, List.map_map] at rows
  exact rows.symm

/-- Keys of a table without key columns are distinct if the numbers are. -/
theorem nodup_keys_of_keyless
    (keyless : table.keyNames = [])
    (distinct : (written.map Written.serial).Nodup) :
    (written.map (Written.key table)).Nodup := by
  have keys : Written.key table = RowKey.serial ∘ Written.serial := by
    funext each
    exact if_pos (List.isEmpty_iff.mpr keyless)
  rw [keys, ← List.map_map]
  exact distinct.map fun _ _ => RowKey.serial.inj

/-- Records with distinct keys are all kept. -/
theorem lastWritten_perm
    (distinct : (written.map (Written.key table)).Nodup) :
    (lastWritten table written).Perm written := by
  have all : (placed table written).Perm (written.map fun each => (each.key table, each)) := by
    apply RowKey.placeAll_nil_perm
    rwa [List.map_map]
  have records := all.map Prod.snd
  rwa [List.map_map, Function.comp_def, List.map_id'] at records

/-- A tree in which what is written is placed keeps the last record under each key. -/
theorem keeps_lastWritten
    {store : RowStore}
    (entries :
      (store.tree table.qualifiedName).entries =
        RowKey.placeAll [] (written.map fun each => (each.key table, each.row table)))
    (numbers : HaveOwnNumbers table written) :
    Keeps table store written (lastWritten table written) where
  entries := entries.trans placeAll_rows
  last _ := mem_lastWritten_iff
  ordered :=
    pairwise_lastWritten.imp_of_mem fun _ member early =>
      bytes_rowKey_lt early fun keyless =>
        (numbers keyless).2 _ (mem_written_of_mem_lastWritten member)
  size := by
    rw [size, RowTree.size, entries, placeAll_rows, List.length_map, length_lastWritten]
  all keyless := lastWritten_perm (nodup_keys_of_keyless keyless (numbers keyless).1)
  scan := by
    rw [scan, entries, placeAll_rows, List.mapM_map]
    rfl

end

/-! ## Numbers that a store generates -/

/-- The calls that write what is given for tables, if the store itself generates the numbers. -/
def numbered (store : RowStore) : List (Table × Given) → List Call
  | [] => []
  | (table, given) :: rest =>
      ⟨table, given, store.nextSerial⟩ ::
        numbered (store.call ⟨table, given, store.nextSerial⟩) rest

/-- A call under the next number of a store is what the store makes of what is given. -/
theorem outcome_nextSerial
    (store : RowStore)
    (table : Table)
    (given : Given) :
    Call.outcome store ⟨table, given, store.nextSerial⟩ = store.write table given :=
  rfl

/-- A row that is written without a key uses up the number that was generated for it. -/
theorem nextSerial_call
    {store : RowStore}
    {call : Call}
    {record : Record}
    (accepted : call.record = .ok record) :
    (store.call call).nextSerial =
      call.serial + if call.table.keyNames.isEmpty then 1 else 0 := by
  rw [call_of_accepted accepted, nextSerial_insert]

/-- Numbers that a store generates itself ascend from the next one. -/
theorem serials_numbered
    {table : Table}
    {store : RowStore}
    {gives : List (Table × Given)}
    (keyless : table.keyNames = [])
    (own : AreOwn table (numbered store gives)) :
    ((accepted table (numbered store gives)).Pairwise fun left right =>
        left.serial < right.serial) ∧
    ∀ each ∈ accepted table (numbered store gives),
      store.nextSerial ≤ each.serial ∧ each.serial < store.nextSerial + gives.length := by
  induction gives generalizing store with
  | nil => exact ⟨.nil, nofun⟩
  | cons first rest induction =>
      obtain ⟨call, isCall⟩ : ∃ call : Call, call = ⟨first.1, first.2, store.nextSerial⟩ :=
        ⟨_, rfl⟩
      have serial : call.serial = store.nextSerial := by rw [isCall]
      rw [numbered, ← isCall] at own ⊢
      obtain ⟨isOwn, others⟩ := List.forall_mem_cons.mp own
      obtain ⟨ascending, bounded⟩ := induction others
      rw [accepted, List.filterMap_cons, ← accepted, Call.written?, List.length_cons]
      cases isAccepted : call.record with
      | error failure =>
          have unchanged : store.call call = store :=
            call_of_refused (Call.outcome_eq_error_iff.mpr isAccepted)
          rw [unchanged] at ascending bounded ⊢
          exact ⟨ascending, fun each member =>
            (bounded each member).imp_right fun bound => by omega⟩
      | ok record =>
          have next := @nextSerial_call store call record isAccepted
          dsimp only
          split_ifs with same
          · rw [isOwn same, if_pos (List.isEmpty_iff.mpr keyless)] at next
            refine ⟨List.pairwise_cons.mpr ⟨fun each member => ?_, ascending⟩,
              List.forall_mem_cons.mpr ⟨?_, fun each member => ?_⟩⟩
            · have bound := bounded each member
              dsimp only
              omega
            · dsimp only
              omega
            · have bound := bounded each member
              omega
          · refine ⟨ascending, fun each member => ?_⟩
            have bound := bounded each member
            split_ifs at next <;> omega

/-- A store that generates fewer numbers than there are in eight bytes generates none twice. -/
theorem haveOwnNumbers_numbered
    {table : Table}
    {store : RowStore}
    {gives : List (Table × Given)}
    (own : AreOwn table (numbered store gives))
    (fits : store.nextSerial + gives.length ≤ 256 ^ 8) :
    HaveOwnNumbers table (accepted table (numbered store gives)) := by
  intro keyless
  obtain ⟨ascending, bounded⟩ := serials_numbered keyless own
  refine ⟨(List.pairwise_map.mpr ascending).imp Nat.ne_of_lt, fun each member => ?_⟩
  exact (bounded each member).2.trans_le fits

/-! ## Runs from a vacant tree -/

/--
After every run of calls from a store in which a table has no rows, its tree
keeps the last of the records that the accepted calls wrote under each key.  A
call is refused for what it is given and not for what the store holds, and then
the store is what it was.
-/
theorem last_writes_kept
    {table : Table}
    {store : RowStore}
    {calls : List Call}
    (vacant : store.tree table.qualifiedName = .empty)
    (own : AreOwn table calls)
    (numbers : HaveOwnNumbers table (accepted table calls)) :
    (∃ kept, Keeps table (run store calls) (accepted table calls) kept) ∧
    ∀ before call after failure,
      calls = before ++ call :: after →
        (call.outcome (run store before) = .error failure ↔ call.record = .error failure) ∧
        (call.outcome (run store before) = .error failure →
          run store (before ++ [call]) = run store before) := by
  constructor
  · have entries := @entries_run table store calls own
    rw [vacant] at entries
    exact ⟨_, keeps_lastWritten entries numbers⟩
  · intro before call after failure _
    refine ⟨Call.outcome_eq_error_iff, fun refused => ?_⟩
    rw [run, List.foldl_append]
    exact call_of_refused refused

/-! ## Parcels and visits -/

/-- Visits of parcels, which have no key. -/
def visitsTable : Table where
  name := ⟨"public", "visits"⟩
  columns := [{ parcelsTable.columns[0] with name := "parcel", isKey := false }]
  relationships := []
  keyNames := []
  geometryNames := []

/-- Two writes of one parcel, a row that is refused, and two visits that are alike. -/
def parcelsAndVisits : List Call := [
  ⟨parcelsTable, .row (.object [("id", .ofInt 1)]), 0⟩,
  ⟨visitsTable, .row (.object [("parcel", .ofInt 1)]), 0⟩,
  ⟨parcelsTable, .record (.ofFields [("id", .int 1), ("area", .int 30)]), 1⟩,
  ⟨parcelsTable, .row (.object [("id", .ofInt 2), ("owner", .ofInt 7)]), 1⟩,
  ⟨visitsTable, .record (.ofFields [("parcel", .int 1)]), 1⟩]

/-- The calls come with the numbers that a store generates for them. -/
theorem numbered_parcelsAndVisits :
    numbered .empty (parcelsAndVisits.map fun call => (call.table, call.given)) =
      parcelsAndVisits :=
  rfl

/-- Of the parcel the later record is kept, and of the visits both. -/
theorem last_writes_kept_parcels :
    (RowStore.empty.tree parcelsTable.qualifiedName = .empty ∧
      AreOwn parcelsTable parcelsAndVisits ∧
      HaveOwnNumbers parcelsTable (accepted parcelsTable parcelsAndVisits) ∧
      (run .empty parcelsAndVisits).size parcelsTable = 1) ∧
    RowStore.empty.tree visitsTable.qualifiedName = .empty ∧
      AreOwn visitsTable parcelsAndVisits ∧
      HaveOwnNumbers visitsTable (accepted visitsTable parcelsAndVisits) ∧
      (run .empty parcelsAndVisits).size visitsTable = 2 := by
  have tables :
      ∀ call ∈ parcelsAndVisits, call.table = parcelsTable ∨ call.table = visitsTable := by
    simp [parcelsAndVisits]
  have ownParcels : AreOwn parcelsTable parcelsAndVisits := by
    intro call member same
    rcases tables call member with isOwn | other
    · exact isOwn
    · rw [other] at same
      exact absurd same (by decide)
  have ownVisits : AreOwn visitsTable parcelsAndVisits := by
    intro call member same
    rcases tables call member with other | isOwn
    · rw [other] at same
      exact absurd same (by decide)
    · exact isOwn
  have numbersParcels : HaveOwnNumbers parcelsTable (accepted parcelsTable parcelsAndVisits) :=
    nofun
  have numbersVisits : HaveOwnNumbers visitsTable (accepted visitsTable parcelsAndVisits) := by
    rw [← numbered_parcelsAndVisits] at ownVisits ⊢
    exact haveOwnNumbers_numbered ownVisits (by decide)
  obtain ⟨_, parcels⟩ := (last_writes_kept (tree_empty _) ownParcels numbersParcels).1
  obtain ⟨_, visits⟩ := (last_writes_kept (tree_empty _) ownVisits numbersVisits).1
  refine ⟨⟨rfl, ownParcels, numbersParcels, ?_⟩, rfl, ownVisits, numbersVisits, ?_⟩
  · rw [parcels.size]
    decide +kernel
  · rw [visits.size]
    decide +kernel

end GeoTables.RowStore
