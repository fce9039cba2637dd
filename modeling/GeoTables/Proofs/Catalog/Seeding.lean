import GeoTables.Proofs.Catalog.Cache
import GeoTables.Proofs.Store.Replay

/-!
# Seeding that fails

Seeding goes through a list of definitions and stops at the first one that
cannot be described, whose table cannot be counted or which has a row that is
refused or cannot be written.  What it has written by then stays: the tables are
those of a seeding with the definitions before that one and with its rows before
the one at which it stopped.  A table that held rows is never touched, so a
later seeding fills the tables that are still empty and leaves a table that was
filled in part as it is.
-/

namespace GeoTables.Registry

open TableCache (Serves)

/-! ## Rows that are written -/

section

variable {store next : RowStore} {table : Table}

/-- A record is written to the tree of its table, which is not empty then, and to no other one. -/
theorem tree_insertJson
    {row : Json}
    (accepted : store.insertJson table row = .ok next) :
    (next.tree table.qualifiedName).size ≠ 0 ∧
      ∀ name, name ≠ table.qualifiedName → next.tree name = store.tree name := by
  rw [RowStore.insertJson, Outcome.bind_eq_ok] at accepted
  obtain ⟨record, _, written⟩ := accepted
  cases written
  refine ⟨?_, fun name other => ?_⟩
  · rw [RowStore.tree_insert, if_pos rfl, RowTree.size, RowTree.put]
    exact mt List.length_eq_zero_iff.mp (Entries.place_ne_nil _)
  · rw [RowStore.tree_insert, if_neg other]

/-- Rows are accepted and written one after the other. -/
inductive Writes (table : Table) : List Json → RowStore → RowStore → Prop where
  | nothing {store : RowStore} : Writes table [] store store
  | row
      {store reached next : RowStore}
      {row : Json}
      {rest : List Json}
      (accepted : store.insertJson table row = .ok reached)
      (further : Writes table rest reached next) :
      Writes table (row :: rest) store next

/-- Rows are written to the tree of their table, which is not empty after the first. -/
theorem Writes.tree
    {rows : List Json}
    (writes : Writes table rows store next) :
    (rows ≠ [] ∨ (store.tree table.qualifiedName).size ≠ 0 →
        (next.tree table.qualifiedName).size ≠ 0) ∧
      ∀ name, name ≠ table.qualifiedName → next.tree name = store.tree name := by
  induction writes with
  | nothing => simp
  | row accepted _ induction =>
      obtain ⟨filled, others⟩ := tree_insertJson accepted
      obtain ⟨kept, further⟩ := induction
      exact ⟨fun _ => kept (.inr filled),
        fun name other => (further name other).trans (others name other)⟩

/-- Why a row is not written, and what is left of the store then. -/
inductive FailsAt (table : Table) (row : Json) (fault : Option WriteFault) (store : RowStore) :
    Failure → RowStore → Prop where
  | refused
      {failure : Failure}
      (refused : store.insertJson table row = .error failure) :
      FailsAt table row fault store failure store
  | unwritten
      {record : Record}
      {own : WriteFault}
      (read : RowStore.recordOf table row = .ok record)
      (fails : fault = some own) :
      FailsAt table row fault store (.storage own.reason) (store.unwritten table own)

/-- A row that is not written is in no tree. -/
theorem FailsAt.tree
    {row : Json}
    {fault : Option WriteFault}
    {failure : Failure}
    (fails : FailsAt table row fault store failure next)
    (name : String) :
    next.tree name = store.tree name := by
  cases fails with
  | refused => rfl
  | unwritten => exact RowStore.tree_unwritten ..

/-- A row is written before the others, or it fails and they are not looked at. -/
theorem insertRows_cons
    (store : RowStore)
    (table : Table)
    (faults : Nat → Option WriteFault)
    (row : Json) :
    (∃ reached,
      store.insertJson table row = .ok reached ∧
        ∀ rest, insertRows store table faults (row :: rest) =
          insertRows reached table (fun number => faults (number + 1)) rest) ∨
    ∃ failure kept,
      FailsAt table row (faults 0) store failure kept ∧
        ∀ rest, insertRows store table faults (row :: rest) = (.error failure, kept) := by
  simp only [insertRows, RowStore.insertJson]
  cases read : RowStore.recordOf table row with
  | error failure =>
      refine .inr ⟨failure, store, .refused ?_, fun _ => rfl⟩
      rw [RowStore.insertJson, read]
      rfl
  | ok record =>
      cases fails : faults 0 with
      | some fault => exact .inr ⟨_, _, .unwritten read rfl, fun _ => rfl⟩
      | none => exact .inl ⟨_, rfl, fun _ => rfl⟩

/-- Rows are all written if none fails. -/
theorem writes_of_insertRows
    {rows : List Json}
    {faults : Nat → Option WriteFault}
    (written : insertRows store table faults rows = (.ok (), next)) :
    Writes table rows store next := by
  induction rows generalizing store faults with
  | nil =>
      cases written
      exact .nothing
  | cons row rest induction =>
      rcases insertRows_cons store table faults row with
        ⟨reached, accepted, same⟩ | ⟨failure, kept, _, same⟩
      · exact .row accepted (induction ((same rest).symm.trans written))
      · cases (same rest).symm.trans written

/-- Otherwise they are written up to the first that fails. -/
theorem insertRows_eq_error
    {rows : List Json}
    {faults : Nat → Option WriteFault}
    {failure : Failure}
    (failed : insertRows store table faults rows = (.error failure, next)) :
    ∃ written row rest reached,
      rows = written ++ row :: rest ∧
        Writes table written store reached ∧
          FailsAt table row (faults written.length) reached failure next := by
  induction rows generalizing store faults with
  | nil => cases failed
  | cons row rest induction =>
      rcases insertRows_cons store table faults row with
        ⟨reached, accepted, same⟩ | ⟨_, _, fails, same⟩
      · obtain ⟨written, last, others, later, rfl, before, fails⟩ :=
          induction ((same rest).symm.trans failed)
        exact ⟨row :: written, last, others, later, rfl, .row accepted before, fails⟩
      · cases (same rest).symm.trans failed
        exact ⟨[], row, rest, store, rfl, .nothing, fails⟩

end

/-! ## One definition -/

/-- What it does to a registry and a store to seed a definition without a failure. -/
inductive Seeds (definition : TableDefinition) :
    Registry → RowStore → Registry → RowStore → Prop where
  | bare
      {registry : Registry}
      {store : RowStore}
      (rows : definition.rows = []) :
      Seeds definition registry store registry store
  | occupied
      {registry : Registry}
      {store : RowStore}
      {table : Table}
      {cache : TableCache}
      (rows : definition.rows ≠ [])
      (serves : registry.cache.Serves definition.declaration (.ok table) cache)
      (occupied : store.size table ≠ 0) :
      Seeds definition registry store { registry with cache := cache } store
  | vacant
      {registry : Registry}
      {store next : RowStore}
      {table : Table}
      {cache : TableCache}
      (rows : definition.rows ≠ [])
      (serves : registry.cache.Serves definition.declaration (.ok table) cache)
      (vacant : store.size table = 0)
      (writes : Writes table definition.rows store next) :
      Seeds definition registry store { registry with cache := cache } next

/-- Where the seeding of a definition stops, and what was written by then. -/
inductive Stops (faults : SeedFaults) (definition : TableDefinition) :
    Registry → RowStore → Failure → Registry → RowStore → Prop where
  | undescribed
      {registry : Registry}
      {store : RowStore}
      {fault : SchemaFault}
      {cache : TableCache}
      (rows : definition.rows ≠ [])
      (serves : registry.cache.Serves definition.declaration (.error fault) cache) :
      Stops faults definition registry store (.schema fault) { registry with cache := cache }
        store
  | uncounted
      {registry : Registry}
      {store : RowStore}
      {table : Table}
      {cache : TableCache}
      {reason : String}
      (rows : definition.rows ≠ [])
      (serves : registry.cache.Serves definition.declaration (.ok table) cache)
      (fails : faults.counting = some reason) :
      Stops faults definition registry store (.storage reason) { registry with cache := cache }
        store
  | row
      {registry : Registry}
      {store reached kept : RowStore}
      {failure : Failure}
      {table : Table}
      {cache : TableCache}
      {written rest : List Json}
      {row : Json}
      (serves : registry.cache.Serves definition.declaration (.ok table) cache)
      (vacant : store.size table = 0)
      (split : definition.rows = written ++ row :: rest)
      (writes : Writes table written store reached)
      (fails : FailsAt table row (faults.writing written.length) reached failure kept) :
      Stops faults definition registry store failure { registry with cache := cache } kept

/-- A definition is seeded before the others, or the seeding stops at it. -/
theorem seedEach_cons
    (registry : Registry)
    (store : RowStore)
    (faults : Nat → SeedFaults)
    (count : Nat)
    (definition : TableDefinition) :
    (∃ middle reached total,
      Seeds definition registry store middle reached ∧
        ∀ rest, seedEach registry store faults count (definition :: rest) =
          seedEach middle reached (fun number => faults (number + 1)) total rest) ∨
    ∃ failure later kept,
      Stops (faults 0) definition registry store failure later kept ∧
        ∀ rest, seedEach registry store faults count (definition :: rest) =
          (.error failure, later, kept) := by
  simp only [seedEach]
  by_cases bare : definition.rows = []
  · simp only [if_pos (List.isEmpty_iff.mpr bare)]
    exact .inl ⟨registry, store, count, .bare bare, fun _ => rfl⟩
  simp only [if_neg (mt List.isEmpty_iff.mp bare)]
  have serves := TableCache.serves_getOrDescribe registry.cache definition.declaration
  generalize registry.cache.getOrDescribe definition.declaration = used at serves
  obtain ⟨outcome, cache⟩ := used
  dsimp only at serves ⊢
  cases outcome with
  | error fault => exact .inr ⟨_, _, _, .undescribed bare serves, fun _ => rfl⟩
  | ok table =>
      cases counted : (faults 0).counting with
      | some reason => exact .inr ⟨_, _, _, .uncounted bare serves counted, fun _ => rfl⟩
      | none =>
          dsimp only
          split_ifs with occupied
          · exact .inl
              ⟨_, _, count, .occupied bare serves (Nat.ne_of_gt occupied), fun _ => rfl⟩
          have vacant : store.size table = 0 := Nat.eq_zero_of_not_pos occupied
          cases rows : insertRows store table (faults 0).writing definition.rows with
          | mk outcome next =>
              cases outcome with
              | ok _ =>
                  have writes := writes_of_insertRows rows
                  exact .inl ⟨_, next, _, .vacant bare serves vacant writes, fun _ => rfl⟩
              | error failure =>
                  obtain ⟨written, row, others, reached, split, writes, fails⟩ :=
                    insertRows_eq_error rows
                  exact .inr
                    ⟨_, _, _, .row serves vacant split writes fails, fun _ => rfl⟩

theorem Seeds.isPartOf
    {definition : TableDefinition}
    {registry middle : Registry}
    {store reached : RowStore}
    (seeds : Seeds definition registry store middle reached) :
    registry.cache.IsPartOf middle.cache := by
  cases seeds with
  | bare => exact .refl _
  | occupied _ serves => exact serves.isPartOf
  | vacant _ serves => exact serves.isPartOf

theorem Seeds.isOwn
    {definition : TableDefinition}
    {registry middle : Registry}
    {store reached : RowStore}
    (seeds : Seeds definition registry store middle reached)
    (own : registry.cache.IsOwn) :
    middle.cache.IsOwn := by
  cases seeds with
  | bare => exact own
  | occupied _ serves => exact serves.isOwn own
  | vacant _ serves => exact serves.isOwn own

theorem Stops.isOwn
    {faults : SeedFaults}
    {definition : TableDefinition}
    {registry later : Registry}
    {store kept : RowStore}
    {failure : Failure}
    (stops : Stops faults definition registry store failure later kept)
    (own : registry.cache.IsOwn) :
    later.cache.IsOwn := by
  cases stops with
  | undescribed _ serves => exact serves.isOwn own
  | uncounted _ serves => exact serves.isOwn own
  | row serves => exact serves.isOwn own

/-! ## Registries -/

/-- The registries that there can be. -/
inductive Reached : Registry → Prop where
  | empty : Reached .empty
  | register
      {registry : Registry}
      (reached : Reached registry)
      (declaration : TableDeclaration) :
      Reached (registry.register declaration)
  | describeAll
      {registry : Registry}
      (reached : Reached registry)
      (order : DeclarationOrder) :
      Reached (registry.describeAll order).2
  | table
      {registry : Registry}
      (reached : Reached registry)
      (name : TableName) :
      Reached (registry.table name).2
  | seed
      {registry : Registry}
      (reached : Reached registry)
      (store : RowStore)
      (faults : Nat → SeedFaults)
      (definitions : List TableDefinition) :
      Reached (registry.seed store faults definitions).2.1

theorem isOwn_describeEach
    {cache : TableCache}
    (own : cache.IsOwn)
    (declarations : List TableDeclaration) :
    (describeEach cache declarations).2.IsOwn := by
  induction declarations generalizing cache with
  | nil => exact own
  | cons declaration rest induction =>
      have served := (TableCache.serves_getOrDescribe cache declaration).isOwn own
      rw [describeEach]
      generalize cache.getOrDescribe declaration = used at served
      obtain ⟨outcome, next⟩ := used
      cases outcome with
      | ok _ => exact induction served
      | error _ => exact served

theorem isOwn_seedEach
    {registry : Registry}
    (own : registry.cache.IsOwn)
    (store : RowStore)
    (faults : Nat → SeedFaults)
    (count : Nat)
    (definitions : List TableDefinition) :
    (seedEach registry store faults count definitions).2.1.cache.IsOwn := by
  induction definitions generalizing registry store faults count with
  | nil => exact own
  | cons definition rest induction =>
      rcases seedEach_cons registry store faults count definition with
        ⟨middle, reached, total, seeds, same⟩ | ⟨failure, later, kept, stops, same⟩
      · rw [same rest]
        exact induction (seeds.isOwn own) reached _ total
      · rw [same rest]
        exact stops.isOwn own

/-- In the cache of a registry every entry stands under the name of its table. -/
theorem Reached.isOwn
    {registry : Registry}
    (reached : Reached registry) :
    registry.cache.IsOwn := by
  induction reached with
  | empty => exact nofun
  | register _ declaration induction =>
      exact TableCache.isOwn_invalidate induction declaration.tableName
  | describeAll _ _ induction => exact isOwn_describeEach induction _
  | @table registry _ name induction =>
      unfold Registry.table
      cases registry.declaration? name with
      | none => exact induction
      | some declaration =>
          exact (TableCache.serves_getOrDescribe registry.cache declaration).isOwn induction
  | seed _ store faults definitions induction =>
      exact isOwn_seedEach induction store faults 0 definitions

/-! ## Tables that are seeded -/

/-- The definition that an empty tree of a name is seeded from, the first one with rows. -/
def seedOf? (name : String) (definitions : List TableDefinition) : Option TableDefinition :=
  definitions.find? fun definition =>
    !definition.rows.isEmpty && definition.declaration.tableName.text == name

theorem seedOf?_cons
    (name : String)
    (definition : TableDefinition)
    (rest : List TableDefinition) :
    seedOf? name (definition :: rest) =
      if definition.rows ≠ [] ∧ definition.declaration.tableName.text = name then
        some definition
      else
        seedOf? name rest := by
  unfold seedOf?
  rw [List.find?_cons]
  split <;> split_ifs <;> simp_all

/-- The tree of a name holds the rows of a definition, all of them written to an empty table. -/
def Carries
    (cache : TableCache)
    (store : RowStore)
    (name : String)
    (definition : TableDefinition) :
    Prop :=
  ∃ table start filled,
    cache.get? definition.declaration.tableName = some table ∧
      table.qualifiedName = name ∧
        (start.tree name).size = 0 ∧
          Writes table definition.rows start filled ∧
            store.tree name = filled.tree name

/--
What seeding makes of a store: trees with rows stay as they are, an empty tree
gets the rows of the first definition that has rows for it, and stays empty if
there is none.
-/
structure IsSeeded
    (store : RowStore)
    (definitions : List TableDefinition)
    (cache : TableCache)
    (next : RowStore) : Prop where
  occupied : ∀ name, (store.tree name).size ≠ 0 → next.tree name = store.tree name
  untouched : ∀ name, seedOf? name definitions = none → next.tree name = store.tree name
  filled : ∀ name definition,
    (store.tree name).size = 0 →
      seedOf? name definitions = some definition → Carries cache next name definition

theorem isSeeded_nil (store : RowStore) (cache : TableCache) : IsSeeded store [] cache store := by
  refine ⟨fun _ _ => rfl, fun _ _ => rfl, fun _ _ _ isSeed => ?_⟩
  cases isSeed

section

variable
    {definition : TableDefinition}
    {rest : List TableDefinition}
    {store filled next : RowStore}
    {cache : TableCache}
    {table : Table}

/-- A definition that no empty tree can be seeded from does nothing to what the others do. -/
theorem IsSeeded.cons_idle
    (further : IsSeeded store rest cache next)
    (idle : ∀ name, (store.tree name).size = 0 →
      ¬(definition.rows ≠ [] ∧ definition.declaration.tableName.text = name)) :
    IsSeeded store (definition :: rest) cache next := by
  refine ⟨further.occupied, fun name none => ?_, fun name found empty isSeed => ?_⟩
  · rw [seedOf?_cons] at none
    split_ifs at none
    exact further.untouched name none
  · rw [seedOf?_cons, if_neg (idle name empty)] at isSeed
    exact further.filled name found empty isSeed

/-- What was written to the empty tree of a definition stays there, whatever the others do. -/
theorem IsSeeded.cons_filled
    (further : IsSeeded filled rest cache next)
    (present : cache.get? definition.declaration.tableName = some table)
    (ownTree : table.qualifiedName = definition.declaration.tableName.text)
    (rows : definition.rows ≠ [])
    (empty : (store.tree table.qualifiedName).size = 0)
    (writes : Writes table definition.rows store filled) :
    IsSeeded store (definition :: rest) cache next := by
  obtain ⟨full, others⟩ := writes.tree
  have kept := further.occupied table.qualifiedName (full (.inl rows))
  refine ⟨fun name occupied => ?_, fun name none => ?_, fun name found vacant isSeed => ?_⟩
  · have other : name ≠ table.qualifiedName := by
      rintro rfl
      exact occupied empty
    rw [← others name other] at occupied ⊢
    exact further.occupied name occupied
  · rw [seedOf?_cons] at none
    split_ifs at none with isOwn
    have other : name ≠ table.qualifiedName := by
      rintro rfl
      exact isOwn ⟨rows, ownTree.symm⟩
    rw [← others name other]
    exact further.untouched name none
  · by_cases isOwn : name = table.qualifiedName
    · subst isOwn
      rw [seedOf?_cons, if_pos ⟨rows, ownTree.symm⟩] at isSeed
      cases isSeed
      exact ⟨table, _, _, present, rfl, empty, writes, kept⟩
    · rw [seedOf?_cons, if_neg fun own => isOwn (own.2.symm.trans ownTree.symm)] at isSeed
      rw [← others name isOwn] at vacant
      exact further.filled name found vacant isSeed

/-- Only the trees matter. -/
theorem IsSeeded.congr
    {definitions : List TableDefinition}
    (seeded : IsSeeded store definitions cache filled)
    (same : ∀ name, next.tree name = filled.tree name) :
    IsSeeded store definitions cache next := by
  refine ⟨fun name occupied => ?_, fun name none => ?_, fun name found vacant isSeed => ?_⟩
  · rw [same, seeded.occupied name occupied]
  · rw [same, seeded.untouched name none]
  · obtain ⟨own, start, written, present, isOwn, empty, writes, kept⟩ :=
      seeded.filled name found vacant isSeed
    exact ⟨own, start, written, present, isOwn, empty, writes, (same name).trans kept⟩

/-- A definition without rows leaves every tree as it is. -/
theorem isSeeded_bare
    (store : RowStore)
    (cache : TableCache)
    (bare : definition.rows = []) :
    IsSeeded store [definition] cache store :=
  (isSeeded_nil store cache).cons_idle fun _ _ own => own.1 bare

end

/-- A definition that is seeded before the others does to its own tree what they cannot undo. -/
theorem Seeds.isSeeded_cons
    {definition : TableDefinition}
    {rest : List TableDefinition}
    {registry middle : Registry}
    {store reached next : RowStore}
    {cache : TableCache}
    (seeds : Seeds definition registry store middle reached)
    (own : registry.cache.IsOwn)
    (further : IsSeeded reached rest cache next)
    (later : middle.cache.IsPartOf cache) :
    IsSeeded store (definition :: rest) cache next := by
  cases seeds with
  | bare rows => exact further.cons_idle fun _ _ own => own.1 rows
  | occupied _ serves full =>
      rw [RowStore.size, serves.qualifiedName_eq own] at full
      refine further.cons_idle ?_
      rintro _ empty ⟨_, rfl⟩
      exact full empty
  | vacant rows serves empty writes =>
      exact further.cons_filled (later _ _ serves.get?_eq) (serves.qualifiedName_eq own) rows
        empty writes

/-! ## Whole runs -/

/-- A seeding that succeeds fills the empty tables and touches no other one. -/
theorem isSeeded_of_seedEach
    {definitions : List TableDefinition}
    {registry last : Registry}
    {store next : RowStore}
    {faults : Nat → SeedFaults}
    {count total : Nat}
    (own : registry.cache.IsOwn)
    (seeded : seedEach registry store faults count definitions = (.ok total, last, next)) :
    registry.cache.IsPartOf last.cache ∧ IsSeeded store definitions last.cache next := by
  induction definitions generalizing registry store faults count with
  | nil =>
      cases seeded
      exact ⟨.refl _, isSeeded_nil _ _⟩
  | cons definition rest induction =>
      rcases seedEach_cons registry store faults count definition with
        ⟨middle, reached, _, seeds, same⟩ | ⟨failure, later, kept, _, same⟩
      · rw [same rest] at seeded
        obtain ⟨later, further⟩ := induction (seeds.isOwn own) seeded
        exact ⟨seeds.isPartOf.trans later, seeds.isSeeded_cons own further later⟩
      · cases (same rest).symm.trans seeded

/-- Why seeding stops at the rows that are left of a definition, the others being written. -/
inductive IsRefused
    (faults : SeedFaults)
    (cache : TableCache)
    (kept : RowStore)
    (definition : TableDefinition) :
    List Json → List Json → Failure → Prop where
  | undescribed
      {fault : SchemaFault}
      (rows : definition.rows ≠ [])
      (fails : definition.declaration.describe = .error fault) :
      IsRefused faults cache kept definition [] definition.rows (.schema fault)
  | uncounted
      {table : Table}
      {reason : String}
      (rows : definition.rows ≠ [])
      (present : cache.get? definition.declaration.tableName = some table)
      (fails : faults.counting = some reason) :
      IsRefused faults cache kept definition [] definition.rows (.storage reason)
  | row
      {table : Table}
      {written rest : List Json}
      {row : Json}
      {failure : Failure}
      (present : cache.get? definition.declaration.tableName = some table)
      (refused : kept.insertJson table row = .error failure) :
      IsRefused faults cache kept definition written (row :: rest) failure
  | unwritten
      {table : Table}
      {written rest : List Json}
      {row : Json}
      {record : Record}
      {fault : WriteFault}
      (present : cache.get? definition.declaration.tableName = some table)
      (read : RowStore.recordOf table row = .ok record)
      (fails : faults.writing written.length = some fault) :
      IsRefused faults cache kept definition written (row :: rest) (.storage fault.reason)

/-- A definition at which the seeding stops is seeded with the rows before the one that fails. -/
theorem Stops.isSeeded
    {faults : SeedFaults}
    {definition : TableDefinition}
    {registry later : Registry}
    {store kept : RowStore}
    {failure : Failure}
    (stops : Stops faults definition registry store failure later kept)
    (own : registry.cache.IsOwn) :
    registry.cache.IsPartOf later.cache ∧
      ∃ written rest,
        definition.rows = written ++ rest ∧
          IsRefused faults later.cache kept definition written rest failure ∧
            IsSeeded store [{ definition with rows := written }] later.cache kept := by
  cases stops with
  | undescribed rows serves =>
      refine ⟨serves.isPartOf, [], definition.rows, rfl, ?_, isSeeded_bare _ _ rfl⟩
      cases serves with
      | failed _ fails => exact .undescribed rows fails
  | uncounted rows serves fails =>
      refine ⟨serves.isPartOf, [], definition.rows, rfl, ?_, isSeeded_bare _ _ rfl⟩
      exact .uncounted rows serves.get?_eq fails
  | row serves vacant split writes fails =>
      rename_i reached table cache written rest row
      refine ⟨serves.isPartOf, written, row :: rest, split, ?_, ?_⟩
      · cases fails with
        | refused refused => exact .row serves.get?_eq refused
        | unwritten read fails => exact .unwritten serves.get?_eq read fails
      · refine IsSeeded.congr ?_ fails.tree
        by_cases none : written = []
        · subst none
          cases writes
          exact isSeeded_bare _ _ rfl
        · have fills : Seeds { definition with rows := written } registry store
              { registry with cache := cache } reached :=
            .vacant none serves vacant writes
          exact fills.isSeeded_cons own (isSeeded_nil _ _) (.refl _)

/-- A seeding that fails has seeded the definitions before one, and of this one some rows. -/
theorem isSeeded_of_failure
    {definitions : List TableDefinition}
    {registry later : Registry}
    {store kept : RowStore}
    {faults : Nat → SeedFaults}
    {count : Nat}
    {failure : Failure}
    (own : registry.cache.IsOwn)
    (failed : seedEach registry store faults count definitions = (.error failure, later, kept)) :
    registry.cache.IsPartOf later.cache ∧
      ∃ before definition after written rest,
        definitions = before ++ definition :: after ∧
          definition.rows = written ++ rest ∧
            IsRefused (faults before.length) later.cache kept definition written rest failure ∧
              IsSeeded store (before ++ [{ definition with rows := written }]) later.cache
                kept := by
  induction definitions generalizing registry store faults count with
  | nil => cases failed
  | cons definition others induction =>
      rcases seedEach_cons registry store faults count definition with
        ⟨middle, reached, _, seeds, same⟩ | ⟨_, _, _, stops, same⟩
      · rw [same others] at failed
        obtain ⟨growth, before, last, after, written, rest, rfl, split, refused, seeded⟩ :=
          induction (seeds.isOwn own) failed
        exact ⟨seeds.isPartOf.trans growth, definition :: before, last, after, written, rest, rfl,
          split, refused, seeds.isSeeded_cons own seeded growth⟩
      · rw [same others] at failed
        cases failed
        obtain ⟨growth, written, rest, split, refused, seeded⟩ := stops.isSeeded own
        exact ⟨growth, [], definition, others, written, rest, rfl, split, refused, seeded⟩

/-- Every definition with rows is served, in its turn, a table that can read each of them. -/
def AreReadable (cache : TableCache) : List TableDefinition → Prop
  | [] => True
  | definition :: rest =>
      (definition.rows = [] → AreReadable cache rest) ∧
        (definition.rows ≠ [] →
          ∀ outcome next,
            cache.Serves definition.declaration outcome next →
            (∃ table,
              outcome = .ok table ∧
                ∀ row ∈ definition.rows, ∃ record, RowStore.recordOf table row = .ok record) ∧
              AreReadable next rest)

/-- If storage does not fail, a definition whose rows can be read never stops the seeding. -/
theorem Stops.not_areReadable
    {definition : TableDefinition}
    {rest : List TableDefinition}
    {registry later : Registry}
    {store kept : RowStore}
    {failure : Failure}
    (stops : Stops .absent definition registry store failure later kept) :
    ¬AreReadable registry.cache (definition :: rest) := by
  rintro ⟨_, readable⟩
  cases stops with
  | undescribed rows serves =>
      obtain ⟨⟨_, served, _⟩, _⟩ := readable rows _ _ serves
      cases served
  | uncounted _ _ fails => cases fails
  | row serves vacant split writes fails =>
      rename_i row
      obtain ⟨⟨_, served, read⟩, _⟩ := readable (by simp [split]) _ _ serves
      cases served
      obtain ⟨record, isRecord⟩ := read row (by simp [split])
      cases fails with
      | refused refused =>
          rw [RowStore.insertJson, isRecord] at refused
          cases refused
      | unwritten _ fails => cases fails

/-- If storage does not fail, definitions whose rows can be read are seeded without a failure. -/
theorem exists_seedEach_eq_ok
    {definitions : List TableDefinition}
    {registry : Registry}
    {faults : Nat → SeedFaults}
    (readable : AreReadable registry.cache definitions)
    (store : RowStore)
    (sound : ∀ number, faults number = .absent)
    (count : Nat) :
    ∃ total last next,
      seedEach registry store faults count definitions = (.ok total, last, next) := by
  induction definitions generalizing registry store faults count with
  | nil => exact ⟨count, registry, store, rfl⟩
  | cons definition rest induction =>
      rcases seedEach_cons registry store faults count definition with
        ⟨middle, reached, total, seeds, same⟩ | ⟨_, _, _, stops, _⟩
      · rw [same rest]
        refine induction ?_ _ (fun number => sound (number + 1)) _
        cases seeds with
        | bare rows => exact readable.1 rows
        | occupied rows serves => exact (readable.2 rows _ _ serves).2
        | vacant rows serves => exact (readable.2 rows _ _ serves).2
      · rw [sound 0] at stops
        exact absurd readable stops.not_areReadable

/--
Seeding that fails stops at one definition: it cannot be described, its table
cannot be counted, or one of its rows is refused or cannot be written.  What is
left is what seeding the definitions before that one, and its own rows before
the one that fails, makes of the store: trees with rows are as they were, and so
are those that are not seeded from one of these.  A later seeding fills the
trees that are still empty and leaves all others as they are; it does not fail
if its rows can be read and storage does not fail.
-/
theorem failed_seed_keeps_rows
    {registry later : Registry}
    {store kept : RowStore}
    {faults : Nat → SeedFaults}
    {definitions : List TableDefinition}
    {failure : Failure}
    (reached : Reached registry)
    (failed : registry.seed store faults definitions = (.error failure, later, kept)) :
    (∃ before definition after written rest,
      definitions = before ++ definition :: after ∧
        definition.rows = written ++ rest ∧
          IsRefused (faults before.length) later.cache kept definition written rest failure ∧
            IsSeeded store (before ++ [{ definition with rows := written }]) later.cache kept) ∧
    ∀ corrected further,
      ((∀ number, further number = .absent) → AreReadable later.cache corrected →
        ∃ total last next, later.seed kept further corrected = (.ok total, last, next)) ∧
      ∀ total last next,
        later.seed kept further corrected = (.ok total, last, next) →
        IsSeeded kept corrected last.cache next := by
  have own := reached.isOwn
  obtain ⟨_, prefixes⟩ := isSeeded_of_failure own failed
  have laterOwn : later.cache.IsOwn := by
    have owned := isOwn_seedEach own store faults 0 definitions
    rw [seed] at failed
    rwa [failed] at owned
  refine ⟨prefixes, fun corrected further => ⟨fun sound readable => ?_, ?_⟩⟩
  · exact exists_seedEach_eq_ok readable kept sound 0
  · exact fun total last next seeded => (isSeeded_of_seedEach laterOwn seeded).2

/-! ## Misnumbered parcels -/

/-- Two parcels, the second of them without a proper number. -/
def misnumbered : TableDefinition where
  declaration := parcels
  rows := [.object [("id", .ofInt 1)], .object [("id", .string "x")]]

/-- The store with the first of the two parcels. -/
def halfSeeded : RowStore :=
  RowStore.empty.insert parcelsTable (.ofFields [("id", .int 1)])

theorem seed_misnumbered :
    ∃ later,
      empty.seed .empty (fun _ => .absent) [misnumbered] =
        (.error (.invalidValue "id" (Json.string "x").text (.coercion .notInteger)),
          later, halfSeeded) := by
  obtain ⟨cache, served⟩ :
      ∃ cache, empty.cache.getOrDescribe misnumbered.declaration = (.ok parcelsTable, cache) := by
    change ∃ cache, TableCache.empty.getOrDescribe parcels = (.ok parcelsTable, cache)
    rw [TableCache.getOrDescribe]
    simp only [TableCache.look, TableCache.get?_empty, describe_parcels]
    exact ⟨_, rfl⟩
  have first :
      RowStore.recordOf parcelsTable (.object [("id", .ofInt 1)]) =
        .ok (.ofFields [("id", .int 1)]) := rfl
  have second :
      RowStore.recordOf parcelsTable (.object [("id", .string "x")]) =
        .error (.invalidValue "id" (Json.string "x").text (.coercion .notInteger)) := rfl
  have refused :
      insertRows .empty parcelsTable (fun _ => none) misnumbered.rows =
        (.error (.invalidValue "id" (Json.string "x").text (.coercion .notInteger)),
          halfSeeded) := by
    rw [misnumbered, insertRows, first]
    dsimp only
    rw [insertRows, second]
    rfl
  refine ⟨{ empty with cache := cache }, ?_⟩
  have vacant : ¬RowStore.empty.size parcelsTable > 0 := by decide
  rw [seed, seedEach, if_neg (by decide), served]
  dsimp only [SeedFaults.absent]
  rw [if_neg vacant, refused]

theorem size_halfSeeded : (halfSeeded.tree "public.parcels").size = 1 := rfl

/-- No later seeding brings the other parcel, whether storage fails meanwhile or not. -/
theorem failed_seed_keeps_rows_misnumbered :
    ∃ later,
      empty.seed .empty (fun _ => .absent) [misnumbered] =
          (.error (.invalidValue "id" (Json.string "x").text (.coercion .notInteger)),
            later, halfSeeded) ∧
        ∀ corrected faults total last next,
          later.seed halfSeeded faults corrected = (.ok total, last, next) →
          next.tree "public.parcels" = halfSeeded.tree "public.parcels" := by
  obtain ⟨later, failed⟩ := seed_misnumbered
  obtain ⟨_, again⟩ := failed_seed_keeps_rows .empty failed
  refine ⟨later, failed, fun corrected faults total last next seeded => ?_⟩
  have full : (halfSeeded.tree "public.parcels").size ≠ 0 := by
    rw [size_halfSeeded]
    decide
  exact ((again corrected faults).2 total last next seeded).occupied "public.parcels" full

/-- Of two parcels the first is kept though the seeding fails at the second. -/
theorem seed_not_atomic :
    ¬∀ (registry later : Registry) (store kept : RowStore) (definitions : List TableDefinition)
        (failure : Failure),
      Reached registry →
      registry.seed store (fun _ => .absent) definitions = (.error failure, later, kept) →
      ∀ name, kept.tree name = store.tree name := by
  intro atomic
  obtain ⟨later, failed⟩ := seed_misnumbered
  have same := atomic _ _ _ _ _ _ .empty failed "public.parcels"
  have size := size_halfSeeded
  rw [same] at size
  cases size

end GeoTables.Registry
