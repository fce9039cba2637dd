import GeoTables.Proofs.Store.LastWrites
import GeoTables.Proofs.Store.Passes
import GeoTables.Proofs.Store.SharedRows

/-!
# What sessions find

Whatever is written, opened and closed, every session on a store in memory is a
snapshot: it finds what was added to a table before it was opened, whether tables
are copied for it or shared with it.  A session on a store of rows keeps nothing.
Whenever it was opened, it finds the rows that are there while it scans.  It finds
what the table held when it was opened exactly if the table holds the same
records under the same keys again, and a scan that is interrupted finds it if
this is so at every moment.  For each key more is certain: every row that a scan
finds was held at some moment, and no key that was there from the beginning is
missed.
-/

namespace GeoTables

/-- Every open session finds in each table what the table holds when it scans. -/
def StoreKind.IsLive (kind : StoreKind) : Prop :=
  ∀ events number session,
    (kind.run events).session? number = some session →
      ∀ table,
        kind.scan session (kind.run events).store table = kind.held (kind.run events).store table

namespace RowStore

/-- Stores of rows. -/
abbrev kind : StoreKind where
  Store := RowStore
  Session := Opened
  Write := Call
  start := .empty
  write := call
  opened store := (store.opened, store)
  closed store _ := store
  held := scan
  scan := Opened.scan

theorem isLive : kind.IsLive :=
  fun _ _ _ _ _ => rfl

/-- An event changes the store by a call or not at all. -/
theorem store_after
    (state : kind.State)
    (event : SessionEvent Call) :
    (state.after event).store = state.store ∨
      ∃ written : Call, (state.after event).store = state.store.call written := by
  cases event with
  | write written => exact .inr ⟨written, rfl⟩
  | opens => exact .inl rfl
  | closes number =>
      rw [StoreKind.State.after]
      cases state.session? number <;> exact .inl rfl

/-- After every run of events the trees are in the order of their keys. -/
theorem isOrdered_run_kind (events : List (SessionEvent Call)) :
    (kind.run events).store.IsOrdered := by
  induction events using List.reverseRecOn with
  | nil => exact isOrdered_empty
  | append_singleton events event induction =>
      rw [StoreKind.run_append, List.foldl_cons, List.foldl_nil]
      rcases store_after (kind.run events) event with same | ⟨written, same⟩
      · exact same ▸ induction
      · exact same ▸ induction.call written

/-- No event removes a key. -/
theorem keys_subset_run_kind
    (before after : List (SessionEvent Call))
    (name : String) :
    (kind.run before).store.keys name ⊆ (kind.run (before ++ after)).store.keys name := by
  induction after using List.reverseRecOn with
  | nil => exact fun key member => (List.append_nil before).symm ▸ member
  | append_singleton after event induction =>
      intro key member
      rw [← List.append_assoc, @StoreKind.run_append kind (before ++ after), List.foldl_cons,
        List.foldl_nil]
      rcases store_after (kind.run (before ++ after)) event with same | ⟨written, same⟩
      · exact same ▸ induction member
      · exact same ▸ keys_subset_call _ written name (induction member)

/-! ## Records under their keys -/

/-- What is read in a table under the key of an entry. -/
def readUnder (table : Table) (entry : RowKey × List Char) : RowKey × Except Failure Record :=
  (entry.1, storedRecord table entry.2)

/-- The keys that are held for a table, with what is read under them. -/
def contents (store : RowStore) (table : Table) : List (RowKey × Except Failure Record) :=
  (store.tree table.qualifiedName).entries.map (readUnder table)

section

variable {store early late : RowStore} {table : Table} {records : List Record}

theorem scan_eq_mapM_contents (store : RowStore) (table : Table) :
    store.scan table = (store.contents table).mapM Prod.snd := by
  rw [scan, contents, List.mapM_map]
  rfl

theorem map_fst_contents (store : RowStore) (table : Table) :
    (store.contents table).map Prod.fst = store.keys table.qualifiedName := by
  rw [contents, keys, List.map_map]
  rfl

theorem IsOrdered.contents (ordered : store.IsOrdered) (table : Table) :
    (store.contents table).Pairwise fun left right => left.1.before right.1 = true :=
  List.pairwise_map.mpr (ordered table.qualifiedName)

theorem IsOrdered.keys (ordered : store.IsOrdered) (name : String) :
    (store.keys name).Pairwise fun left right => left.before right = true :=
  List.pairwise_map.mpr (ordered name)

/-- A scan that succeeds gives what is read under each key. -/
theorem map_snd_contents
    (scanned : store.scan table = .ok records) :
    (store.contents table).map Prod.snd = records.map .ok := by
  rw [scan_eq_mapM_contents, Outcome.mapM_eq_ok] at scanned
  generalize store.contents table = contents at scanned
  induction scanned with
  | nil => rfl
  | cons own _ induction => rw [List.map_cons, List.map_cons, own, induction]

/-- Of a store in which no key is lost a scan gives the same exactly if the contents are. -/
theorem scan_eq_iff_contents_eq
    (earlyOrdered : early.IsOrdered)
    (lateOrdered : late.IsOrdered)
    (kept : early.keys table.qualifiedName ⊆ late.keys table.qualifiedName)
    (scanned : early.scan table = .ok records) :
    late.scan table = .ok records ↔ late.contents table = early.contents table := by
  constructor
  · intro again
    have number : (late.keys table.qualifiedName).length = records.length := by
      have lengths := congrArg List.length (map_snd_contents again)
      rwa [List.length_map, List.length_map, ← List.length_map Prod.fst, map_fst_contents]
        at lengths
    have earlyNumber : (early.keys table.qualifiedName).length = records.length := by
      have lengths := congrArg List.length (map_snd_contents scanned)
      rwa [List.length_map, List.length_map, ← List.length_map Prod.fst, map_fst_contents]
        at lengths
    have perm := (List.subperm_of_subset (earlyOrdered _).nodup kept).perm_of_length_le
      (number.trans earlyNumber.symm).le
    have sameKeys : early.keys table.qualifiedName = late.keys table.qualifiedName :=
      RowKey.eq_of_perm perm (earlyOrdered.keys _) (lateOrdered.keys _)
    rw [List.zip_of_prod rfl (map_snd_contents again),
      List.zip_of_prod rfl (map_snd_contents scanned), map_fst_contents, map_fst_contents,
      sameKeys]
  · intro same
    rw [scan_eq_mapM_contents, same, ← scan_eq_mapM_contents, scanned]

/-- A scan that is interrupted finds the contents of a table if they are the same at each moment. -/
theorem Finds.map_readUnder
    {calls : List Call}
    {found : List (RowKey × List Char)}
    {held : List (RowKey × Except Failure Record)}
    (finds : Finds table.qualifiedName store [] none calls found)
    (ordered : store.IsOrdered)
    (same : ∀ earlier later,
      calls = earlier ++ later → (run store earlier).contents table = held) :
    found.map (readUnder table) = held := by
  obtain rfl : store.contents table = held := same [] calls rfl
  have certain := finds.isConsistentPerKey ordered
  have foundOrdered :
      (found.map (readUnder table)).Pairwise fun left right => left.1.before right.1 = true :=
    List.pairwise_map.mpr certain.ascending
  have isHeld : found.map (readUnder table) ⊆ store.contents table := by
    intro content member
    obtain ⟨entry, isFound, rfl⟩ := List.mem_map.mp member
    obtain ⟨earlier, later, split, held⟩ := certain.wasHeld entry isFound
    rw [← same earlier later split]
    exact List.mem_map_of_mem (Entries.mem_of_lookup held)
  have isFound : store.contents table ⊆ found.map (readUnder table) := by
    intro content member
    obtain ⟨entry, held, rfl⟩ := List.mem_map.mp member
    obtain ⟨other, otherFound, sameKey⟩ := List.mem_map.mp (certain.complete entry held)
    have otherMember : readUnder table other ∈ found.map (readUnder table) :=
      List.mem_map_of_mem otherFound
    have nodup : ((store.contents table).map Prod.fst).Nodup := by
      rw [map_fst_contents]
      exact (ordered _).nodup
    rwa [List.inj_on_of_nodup_map nodup member (isHeld otherMember) sameKey.symm]
  have distinct {contents : List (RowKey × Except Failure Record)}
      (inOrder : contents.Pairwise fun left right => left.1.before right.1 = true) :
      contents.Nodup :=
    inOrder.imp fun early => mt (congrArg Prod.fst) (RowKey.ne_of_before early)
  have perm := (List.perm_ext_iff_of_nodup (distinct foundOrdered)
    (distinct (ordered.contents table))).mpr fun _ => ⟨fun member => isHeld member,
      fun member => isFound member⟩
  exact RowKey.eq_of_perm perm foundOrdered (ordered.contents table)

end

/-- What a session finds for a table in a store that is later than the one it was opened on. -/
structure FindsAgain
    (early late : RowStore)
    (session : Opened)
    (table : Table)
    (records : List Record) : Prop where
  atOnce :
    kind.scan session late table = .ok records ↔ late.contents table = early.contents table
  interrupted :
    ∀ calls,
      (∃ found, Finds table.qualifiedName late [] none calls found) ∧
        ∀ found, Finds table.qualifiedName late [] none calls found →
          IsConsistentPerKey late table calls found ∧
            ((∀ earlier later,
                calls = earlier ++ later →
                  (run late earlier).contents table = early.contents table) →
              (found.mapM fun entry => storedRecord table entry.2) = .ok records)

/--
Sessions on a store in memory are snapshots, with tables that are copied or
shared, of what was added by the time they were opened.  Sessions on a store of
rows are live.  One that is not closed, whatever was done before it was opened
and after, finds the records that a table held when the session was opened
exactly if by then the table holds the same keys with the same records; and so
does a scan that is interrupted by calls if this is so before and after each of
them.
-/
theorem sessions_snapshot_iff
    {before after : List (SessionEvent Call)}
    (unclosed : .closes (kind.run before).next ∉ after) :
    (MemoryStore.kind.IsSnapshot ∧ SharedStore.kind.IsSnapshot ∧
      ∀ events table,
        MemoryStore.kind.held (MemoryStore.kind.run events).store table =
          .ok (MemoryStore.added table.name events)) ∧
    kind.IsLive ∧
    ∃ session,
      (kind.run (before ++ .opens :: after)).session? (kind.run before).next = some session ∧
        ∀ table records,
          kind.held (kind.run before).store table = .ok records →
            FindsAgain (kind.run before).store (kind.run (before ++ .opens :: after)).store
              session table records := by
  refine ⟨⟨MemoryStore.isSnapshot, SharedStore.isSnapshot, ?_⟩, isLive, ?_⟩
  · exact fun events table => congrArg Except.ok (MemoryStore.records_run events table.name)
  · refine ⟨_, StoreKind.session?_run unclosed, fun table records held => ?_⟩
    have earlyOrdered := isOrdered_run_kind before
    have lateOrdered := isOrdered_run_kind (before ++ .opens :: after)
    refine ⟨?_, fun calls => ⟨exists_finds lateOrdered _ _ _ _, fun found finds => ?_⟩⟩
    · exact scan_eq_iff_contents_eq earlyOrdered lateOrdered (keys_subset_run_kind _ _ _) held
    · refine ⟨finds.isConsistentPerKey lateOrdered, fun same => ?_⟩
      have read : RowStore.scan (kind.run before).store table = .ok records := held
      rw [scan_eq_mapM_contents, ← finds.map_readUnder lateOrdered same, List.mapM_map] at read
      exact read

/-! ## Parcels -/

/-- A session is opened, and then something is written. -/
def openedBefore {Write : Type} (written : Write) : List (SessionEvent Write) :=
  [.opens, .write written]

/-- The record of a parcel with a number and nothing else. -/
def numberedParcel (number : Int) : Record :=
  .ofFields [("id", .int number)]

/-- A call that writes a parcel. -/
def parcelCall (number : Int) : Call :=
  ⟨parcelsTable, .record (numberedParcel number), 0⟩

/-- The row of the first parcel under its key. -/
def firstParcel : RowKey × List Char :=
  (rowKey parcelsTable 0 (numberedParcel 1), rowText parcelsTable (numberedParcel 1))

theorem entries_parcelCall :
    ((RowStore.empty.call (parcelCall 1)).tree parcelsTable.qualifiedName).entries =
      [firstParcel] :=
  congrArg RowTree.entries (@tree_call_of_accepted .empty (parcelCall 1) (numberedParcel 1) rfl)

/-- A call that writes a visit, which has no key. -/
def visitCall : Call :=
  ⟨visitsTable, .record (.ofFields [("parcel", .int 1)]), 0⟩

theorem contents_visitCall :
    (RowStore.empty.call visitCall).contents parcelsTable =
      RowStore.empty.contents parcelsTable := by
  have other : visitCall.table.qualifiedName ≠ parcelsTable.qualifiedName := by decide
  rw [contents, tree_call_of_ne other, contents]

/--
A session in memory that was opened before a parcel was added does not find it.
One on a store of rows finds it, and a scan that has begun by then finds it
although another parcel is written meanwhile; but a visit changes nothing for
parcels.
-/
theorem sessions_snapshot_iff_parcels :
    (∃ session,
      let state := MemoryStore.kind.run (openedBefore (parcelsTable.name, [numberedParcel 1]))
      state.session? 0 = some session ∧
        MemoryStore.kind.scan session state.store parcelsTable = .ok []) ∧
    (∃ session found,
      let state := kind.run (openedBefore (parcelCall 1))
      state.session? 0 = some session ∧
        kind.scan session state.store parcelsTable ≠ .ok [] ∧
        Finds parcelsTable.qualifiedName state.store [] none [parcelCall 2] found ∧
        firstParcel.1 ∈ found.map Prod.fst) ∧
    ∃ session,
      let state := kind.run (openedBefore visitCall)
      state.session? 0 = some session ∧
        kind.scan session state.store parcelsTable = .ok [] := by
  have unclosed (written : Call) :
      .closes (kind.run []).next ∉ [SessionEvent.write written] := by simp
  obtain ⟨⟨isSnapshot, _⟩, _, session, isOpen, finds⟩ :=
    sessions_snapshot_iff (unclosed (parcelCall 1))
  obtain ⟨_, _, other, isOpenToo, findsToo⟩ := sessions_snapshot_iff (unclosed visitCall)
  refine ⟨?_, ?_, ?_⟩
  · obtain ⟨session, isOpen, finds⟩ :=
      isSnapshot [] [.write (parcelsTable.name, [numberedParcel 1])] (by simp)
    exact ⟨session, isOpen, finds parcelsTable⟩
  · obtain ⟨atOnce, interrupted⟩ := finds parcelsTable [] rfl
    obtain ⟨⟨found, scans⟩, each⟩ := interrupted [parcelCall 2]
    refine ⟨session, found, isOpen, mt atOnce.mp ?_, scans, (each found scans).1.complete
      firstParcel (entries_parcelCall ▸ List.mem_singleton_self firstParcel)⟩
    have written :
        (RowStore.empty.call (parcelCall 1)).contents parcelsTable =
          [readUnder parcelsTable firstParcel] := by
      rw [contents, entries_parcelCall]
      rfl
    exact written.trans_ne (List.cons_ne_nil _ _)
  · exact ⟨other, isOpenToo, (findsToo parcelsTable [] rfl).atOnce.mpr contents_visitCall⟩

/-- A session on a store of rows is no snapshot: it finds a parcel that is written later. -/
theorem not_snapshots : ¬(MemoryStore.kind.IsSnapshot ∧ kind.IsSnapshot) := by
  rintro ⟨_, isSnapshot⟩
  obtain ⟨session, _, finds⟩ := isSnapshot [] [.write (parcelCall 1)] (by simp)
  have found : scan (RowStore.empty.call (parcelCall 1)) parcelsTable = .ok [] :=
    finds parcelsTable
  rw [scan, entries_parcelCall, Outcome.mapM_eq_ok, List.forall₂_nil_right_iff] at found
  cases found

end RowStore

end GeoTables
