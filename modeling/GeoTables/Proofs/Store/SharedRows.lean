import GeoTables.Proofs.Entries
import GeoTables.Proofs.Store.Snapshots

/-!
# Vectors that are shared

A store in memory need not copy its tables for each session.  It can keep the
records of a table in a vector that its sessions own as well, and count the
owners: records are added to a vector in its place as long as the store is its
only owner, and otherwise to a copy.  Whatever happens, such a store and its open
sessions hold the same records as a store that copies its tables, so that its
sessions are snapshots too.
-/

namespace GeoTables

/--
Vectors of records in places, with the numbers of their owners, and the place of
each table.  No place from `unused` on has been used.
-/
structure SharedStore where
  vectors : Nat → List Record
  owners : Nat → Nat
  unused : Nat
  places : List (TableName × Nat)

namespace SharedStore

/-- The store without records. -/
def empty : SharedStore := ⟨fun _ => [], fun _ => 0, 0, []⟩

/-- Keep the records of a table in an unused place. -/
def settle (store : SharedStore) (name : TableName) (records : List Record) : SharedStore where
  vectors := Function.update store.vectors store.unused records
  owners := Function.update store.owners store.unused 1
  unused := store.unused + 1
  places := Entries.alter name (fun _ => store.unused) store.places

/-- Add records to a table: in its place if it has no other owner, and otherwise to a copy. -/
def extend (store : SharedStore) (name : TableName) (added : List Record) : SharedStore :=
  match store.places.lookup name with
  | some place =>
      let records := store.vectors place ++ added
      if store.owners place = 1 then
        { store with vectors := Function.update store.vectors place records }
      else
        settle { store with owners := Function.update store.owners place (store.owners place - 1) }
          name records
  | none => store.settle name added

/-- A session; it owns the vectors of all tables. -/
structure Opened where
  places : List (TableName × Nat)

/-- Open a session, a further owner of each vector. -/
def opened (store : SharedStore) : Opened × SharedStore :=
  (⟨store.places⟩,
    { store with
      owners := fun place => store.owners place + (store.places.map Prod.snd).count place })

/-- Close a session, which is no owner any more. -/
def closed (store : SharedStore) (session : Opened) : SharedStore :=
  { store with
    owners := fun place => store.owners place - (session.places.map Prod.snd).count place }

/-- The records in the place of a table. -/
def records (store : SharedStore) (places : List (TableName × Nat)) (name : TableName) :
    List Record :=
  ((places.lookup name).map store.vectors).getD []

/-- Stores with vectors that are shared. -/
abbrev kind : StoreKind where
  Store := SharedStore
  Session := Opened
  Write := TableName × List Record
  start := .empty
  write store added := store.extend added.1 added.2
  opened := opened
  closed := closed
  held store table := .ok (store.records store.places table.name)
  scan session store table := .ok (store.records session.places table.name)

/-! ## Owners -/

/-- The places that a session owns. -/
def owned : Option Opened → List Nat
  | some session => session.places.map Prod.snd
  | none => []

/-- The places that the store and its open sessions own. -/
def references (state : kind.State) : List Nat :=
  state.store.places.map Prod.snd ++ state.sessions.flatMap owned

/-- The owners of each place are counted, and no unused place has one. -/
structure IsCounted (state : kind.State) : Prop where
  counted : ∀ place, state.store.owners place = (references state).count place
  used : ∀ place ∈ references state, place < state.store.unused

/-- A session that is closed gives up what it owned. -/
theorem count_owned_set
    {sessions : List (Option Opened)}
    {number : Nat}
    {session : Opened}
    (isOpen : sessions[number]? = some (some session))
    (place : Nat) :
    ((sessions.set number none).flatMap owned).count place +
        (session.places.map Prod.snd).count place =
      (sessions.flatMap owned).count place := by
  induction sessions generalizing number with
  | nil => cases isOpen
  | cons first rest induction =>
      cases number with
      | zero =>
          cases isOpen
          simp [owned, Nat.add_comm]
      | succ number =>
          have further := induction isOpen
          simp only [List.set_cons_succ, List.flatMap_cons, List.count_append]
          omega

/-! ## What is held -/

/-- The records that are held in places, by the names of their tables. -/
def view
    (vectors : Nat → List Record)
    (places : List (TableName × Nat)) :
    List (TableName × List Record) :=
  places.map (Prod.map id vectors)

/-- What is held does not depend on other places. -/
theorem view_congr
    {vectors others : Nat → List Record}
    {places : List (TableName × Nat)}
    (same : ∀ place ∈ places.map Prod.snd, vectors place = others place) :
    view vectors places = view others places :=
  List.map_congr_left fun entry member =>
    Prod.ext rfl (same entry.2 (List.mem_map_of_mem member))

/-- In places that a vector is not put into the same is held. -/
theorem view_update
    {places : List (TableName × Nat)}
    {place : Nat}
    (vectors : Nat → List Record)
    (records : List Record)
    (elsewhere : place ∉ places.map Prod.snd) :
    view (Function.update vectors place records) places = view vectors places :=
  view_congr fun _ member => Function.update_of_ne (ne_of_mem_of_not_mem member elsewhere) _ _

/-- A vector that is put into an unused place is held for the table that is moved there. -/
theorem view_alter
    {places : List (TableName × Nat)}
    {unused : Nat}
    (vectors : Nat → List Record)
    (name : TableName)
    (records : List Record)
    (fresh : unused ∉ places.map Prod.snd) :
    view (Function.update vectors unused records)
        (Entries.alter name (fun _ => unused) places) =
      Entries.alter name (fun _ => records) (view vectors places) := by
  rw [view, Entries.map_alter, ← view, view_update vectors records fresh, Function.update_self]

/-- A vector that is put into a place with one owner is held for the table of the place alone. -/
theorem view_update_of_count
    {places : List (TableName × Nat)}
    {place : Nat}
    {name : TableName}
    (vectors : Nat → List Record)
    (records : List Record)
    (found : places.lookup name = some place)
    (single : (places.map Prod.snd).count place = 1) :
    view (Function.update vectors place records) places =
      Entries.alter name (fun _ => records) (view vectors places) := by
  induction places with
  | nil => cases found
  | cons first rest induction =>
      obtain ⟨other, kept⟩ := first
      rw [List.map_cons, List.count_cons] at single
      rw [Entries.lookup_entry] at found
      by_cases same : name = other
      · rw [if_pos same] at found
        obtain rfl := Option.some.inj found
        have elsewhere : kept ∉ rest.map Prod.snd := by
          rw [← List.count_eq_zero]
          simpa using single
        have others := view_update vectors records elsewhere
        rw [view, view] at others
        simp [view, Entries.alter, same, others]
      · rw [if_neg same] at found
        have present : place ∈ rest.map Prod.snd :=
          List.mem_map_of_mem (Entries.mem_of_lookup found)
        have positive := List.count_pos_iff.mpr present
        have different : kept ≠ place := by
          rintro rfl
          simp at single
          omega
        have others := induction found (by simpa [different] using single)
        rw [view, view] at others
        simp [view, Entries.alter, Ne.symm same, different, others]

/-- The sessions hold the same, in places with the same vectors. -/
theorem sessions_congr
    {sessions : List (Option Opened)}
    {vectors others : Nat → List Record}
    (same : ∀ place ∈ sessions.flatMap owned, vectors place = others place) :
    (sessions.map (Option.map fun session => MemoryStore.Opened.mk (view vectors session.places))) =
      sessions.map (Option.map fun session => ⟨view others session.places⟩) := by
  refine List.map_congr_left fun session member => ?_
  cases session with
  | none => rfl
  | some session =>
      refine congrArg (fun tables => some (MemoryStore.Opened.mk tables)) (view_congr ?_)
      exact fun place isOwned => same place (List.mem_flatMap.mpr ⟨_, member, isOwned⟩)

/-- A shared store and its open sessions hold what a plain store and its sessions hold. -/
structure Mirrors (shared : kind.State) (plain : MemoryStore.kind.State) : Prop where
  isCounted : IsCounted shared
  tables : plain.store.tables = view shared.store.vectors shared.store.places
  sessions :
    plain.sessions =
      shared.sessions.map
        (Option.map fun session => ⟨view shared.store.vectors session.places⟩)

/-! ## Events -/

section

variable
  {store : SharedStore}
  {sessions : List (Option Opened)}
  {plain : MemoryStore.kind.State}
  {name : TableName}
  {added : List Record}

/-- A table is moved to an unused place, after it has given up the place that it had. -/
theorem IsCounted.settle
    {owners : Nat → Nat}
    (isCounted : IsCounted ⟨store, sessions⟩)
    (released : ∀ place,
      owners place + (if store.places.lookup name = some place then 1 else 0) =
        store.owners place)
    (records : List Record) :
    IsCounted ⟨settle { store with owners := owners } name records, sessions⟩ := by
  have unused (place : Nat) (member : place ∈ references ⟨store, sessions⟩) :
      place < store.unused :=
    isCounted.used place member
  constructor
  · intro place
    have changed := Entries.count_alter name store.unused place store.places
    have total := released place
    have counted := isCounted.counted place
    simp only [references, List.count_append] at counted
    simp only [SharedStore.settle, references, List.count_append, Function.update_apply]
    by_cases isNew : place = store.unused
    · have none : (references ⟨store, sessions⟩).count place = 0 :=
        List.count_eq_zero.mpr fun member => (unused place member).ne isNew
      simp only [references, List.count_append] at none
      rw [if_pos isNew]
      rw [if_pos isNew.symm] at changed
      omega
    · rw [if_neg isNew]
      rw [if_neg (Ne.symm isNew)] at changed
      omega
  · intro place member
    change place < store.unused + 1
    rcases List.mem_append.mp member with isHeld | isOwned
    · obtain ⟨entry, isEntry, rfl⟩ := List.mem_map.mp isHeld
      rcases Entries.mem_of_mem_alter isEntry with rfl | earlier
      · exact Nat.lt_succ_self _
      · exact (unused _ (List.mem_append_left _ (List.mem_map_of_mem earlier))).trans
          (Nat.lt_succ_self _)
    · exact (unused _ (List.mem_append_right _ isOwned)).trans (Nat.lt_succ_self _)

/-- A table that is moved to an unused place holds what it is moved with, and nothing else is
changed. -/
theorem Mirrors.settle
    {owners : Nat → Nat}
    {records : List Record}
    (mirrors : Mirrors ⟨store, sessions⟩ plain)
    (released : ∀ place,
      owners place + (if store.places.lookup name = some place then 1 else 0) =
        store.owners place)
    (extended : records = plain.store.records name ++ added) :
    Mirrors ⟨SharedStore.settle { store with owners := owners } name records, sessions⟩
      { plain with store := plain.store.extend name added } where
  isCounted := mirrors.isCounted.settle released records
  tables := by
    have fresh : store.unused ∉ store.places.map Prod.snd := fun member =>
      (mirrors.isCounted.used _ (List.mem_append_left _ member)).ne rfl
    refine Eq.trans ?_ (view_alter store.vectors name records fresh).symm
    rw [MemoryStore.extend, Entries.alter_eq_alter_lookup, mirrors.tables, extended,
      MemoryStore.records, mirrors.tables]
  sessions := by
    refine mirrors.sessions.trans (sessions_congr fun place isOwned => ?_)
    refine (Function.update_of_ne ?_ _ _).symm
    exact (mirrors.isCounted.used _ (List.mem_append_right _ isOwned)).ne

/-- Records that are added are seen in the store alone. -/
theorem Mirrors.extend
    (mirrors : Mirrors ⟨store, sessions⟩ plain)
    (name : TableName)
    (added : List Record) :
    Mirrors ⟨store.extend name added, sessions⟩
      { plain with store := plain.store.extend name added } := by
  have held :
      plain.store.records name = ((store.places.lookup name).map store.vectors).getD [] := by
    rw [MemoryStore.records, mirrors.tables, view, Entries.lookup_map]
  unfold SharedStore.extend
  cases found : store.places.lookup name with
  | none =>
      rw [found] at held
      refine mirrors.settle (fun place => by simp [found]) ?_
      rw [held]
      rfl
  | some place =>
      rw [found] at held
      have counted := mirrors.isCounted.counted place
      have isHeld : place ∈ store.places.map Prod.snd :=
        List.mem_map_of_mem (Entries.mem_of_lookup found)
      have positive := List.count_pos_iff.mpr isHeld
      simp only [references, List.count_append] at counted
      dsimp only
      split_ifs with single
      · have ownsNone : (sessions.flatMap owned).count place = 0 := by omega
        have ownsOne : (store.places.map Prod.snd).count place = 1 := by omega
        constructor
        · exact ⟨mirrors.isCounted.counted, mirrors.isCounted.used⟩
        · refine Eq.trans ?_ (view_update_of_count store.vectors _ found ownsOne).symm
          rw [MemoryStore.extend, Entries.alter_eq_alter_lookup, mirrors.tables, view,
            Entries.lookup_map, found]
          rfl
        · refine mirrors.sessions.trans (sessions_congr fun other isOwned => ?_)
          refine (Function.update_of_ne ?_ _ _).symm
          exact ne_of_mem_of_not_mem isOwned (List.count_eq_zero.mp ownsNone)
      · refine mirrors.settle (fun other => ?_) (by rw [held]; rfl)
        rw [Function.update_apply, found]
        by_cases same : other = place
        · subst same
          simp only [if_true]
          omega
        · simp [same, Ne.symm same]

/-- A session that is opened owns what the store owns, and holds the same. -/
theorem Mirrors.open
    (mirrors : Mirrors ⟨store, sessions⟩ plain) :
    Mirrors (StoreKind.State.after ⟨store, sessions⟩ .opens) (plain.after .opens) where
  isCounted := by
    constructor
    · intro place
      have counted := mirrors.isCounted.counted place
      simp only [references, List.count_append] at counted
      simp only [StoreKind.State.after, opened, references, List.flatMap_append,
        List.flatMap_singleton, owned, List.count_append]
      omega
    · intro place member
      simp only [StoreKind.State.after, opened, references, List.flatMap_append,
        List.flatMap_singleton, owned, List.mem_append] at member
      apply mirrors.isCounted.used
      simp only [references, List.mem_append]
      tauto
  tables := mirrors.tables
  sessions := by
    simp only [StoreKind.State.after, opened, MemoryStore.opened, mirrors.sessions,
      mirrors.tables, List.map_append, List.map_singleton, Option.map_some]

/-- A session that is closed gives up what it owned, and nothing else is changed. -/
theorem Mirrors.close
    (mirrors : Mirrors ⟨store, sessions⟩ plain)
    (number : Nat) :
    Mirrors (StoreKind.State.after ⟨store, sessions⟩ (.closes number))
      (plain.after (.closes number)) := by
  have found :
      plain.session? number =
        (@StoreKind.State.session? kind ⟨store, sessions⟩ number).map fun session =>
          ⟨view store.vectors session.places⟩ := by
    rw [StoreKind.State.session?, StoreKind.State.session?, mirrors.sessions, List.getElem?_map]
    rcases sessions[number]? with _ | _ | session <;> rfl
  simp only [StoreKind.State.after]
  rw [found]
  cases isOpen : @StoreKind.State.session? kind ⟨store, sessions⟩ number with
  | none => exact mirrors
  | some session =>
      have present : sessions[number]? = some (some session) := Option.join_eq_some_iff.mp isOpen
      have released := count_owned_set present
      constructor
      · constructor
        · intro place
          have counted := mirrors.isCounted.counted place
          have total := released place
          simp only [references, List.count_append] at counted ⊢
          simp only [closed]
          omega
        · intro place member
          apply mirrors.isCounted.used
          have total := released place
          simp only [references, closed, ← List.count_pos_iff, List.count_append] at member ⊢
          omega
      · exact mirrors.tables
      · simp only [mirrors.sessions, List.map_set, Option.map_none]
        rfl

end

/-- After every event the same is held. -/
theorem Mirrors.after
    {shared : kind.State}
    {plain : MemoryStore.kind.State}
    (mirrors : Mirrors shared plain)
    (event : SessionEvent (TableName × List Record)) :
    Mirrors (shared.after event) (plain.after event) := by
  cases event with
  | write added => exact mirrors.extend added.1 added.2
  | opens => exact mirrors.open
  | closes number => exact mirrors.close number

/-- After every run of events a shared store and its sessions hold what plain ones do. -/
theorem mirrors_run
    (events : List (SessionEvent (TableName × List Record))) :
    Mirrors (kind.run events) (MemoryStore.kind.run events) := by
  induction events using List.reverseRecOn with
  | nil => exact ⟨⟨fun _ => rfl, nofun⟩, rfl, rfl⟩
  | append_singleton events event induction =>
      rw [StoreKind.run_append, StoreKind.run_append]
      exact induction.after event

/-- What is held in places is what a plain store holds in tables. -/
theorem records_eq
    (store : SharedStore)
    (places : List (TableName × Nat))
    (name : TableName) :
    store.records places name = MemoryStore.records ⟨view store.vectors places⟩ name := by
  rw [records, MemoryStore.records, view, Entries.lookup_map]

/-- The sessions on a store with vectors that are shared are snapshots. -/
theorem isSnapshot : kind.IsSnapshot := by
  intro before after kept
  have early := mirrors_run before
  have late := mirrors_run (before ++ .opens :: after)
  have number : (MemoryStore.kind.run before).next = (kind.run before).next := by
    rw [StoreKind.State.next, early.sessions, List.length_map]
    rfl
  have isOpen := StoreKind.session?_run kept
  refine ⟨_, isOpen, fun table => ?_⟩
  obtain ⟨session, isPlain, finds⟩ := MemoryStore.isSnapshot before after (number ▸ kept)
  have same : session = ⟨view (kind.run (before ++ .opens :: after)).store.vectors
      (kind.opened (kind.run before).store).1.places⟩ := by
    rw [number, StoreKind.State.session?, late.sessions, List.getElem?_map] at isPlain
    rw [StoreKind.State.session?, Option.join_eq_some_iff] at isOpen
    rw [isOpen] at isPlain
    exact (Option.some.inj isPlain).symm
  have found := finds table
  simp only [same, MemoryStore.Opened.scan] at found
  change Except.ok _ = Except.ok _
  rw [records_eq, records_eq, ← early.tables]
  exact found

end SharedStore

end GeoTables
