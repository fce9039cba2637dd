import GeoTables.Proofs.Catalog.Seeding
import GeoTables.Proofs.Table.Describable

/-!
# Registries that are up to date

A registry serves a table from its cache if there is an entry, and else describes
the declaration that was registered last under its name.  Entries are made of
registered declarations, except that seeding describes the declarations that
come with the rows.  Whatever is done with a registry, it therefore serves the
tables that were registered last exactly if no seeding adds an entry that is made
of another declaration.
-/

namespace GeoTables

/-- An entry that a use of the cache leaves was there before, or is the table that the declaration
describes. -/
theorem TableCache.Serves.get?_eq_some_iff
    {cache next : TableCache}
    {declaration : TableDeclaration}
    {outcome : Except SchemaFault Table}
    (serves : cache.Serves declaration outcome next)
    {name : TableName}
    {table : Table} :
    next.get? name = some table ↔
      cache.get? name = some table ∨
        cache.get? declaration.tableName = none ∧ declaration.tableName = name ∧
          declaration.describe = .ok table := by
  cases serves with
  | found present same => simp [same, present]
  | failed missing fails same => simp [same, fails]
  | @described own _ missing describes added =>
      rw [added, describes]
      by_cases isName : name = declaration.tableName
      · subst isName
        simp [missing]
      · simp [isName, Ne.symm isName]

/-- A use of the cache results in the table that stands there afterwards. -/
theorem TableCache.Serves.eq_ok_iff
    {cache next : TableCache}
    {declaration : TableDeclaration}
    {outcome : Except SchemaFault Table}
    (serves : cache.Serves declaration outcome next)
    {table : Table} :
    outcome = .ok table ↔ next.get? declaration.tableName = some table := by
  constructor
  · rintro rfl
    exact serves.get?_eq
  · intro entry
    cases serves with
    | found present same =>
        rw [same, present] at entry
        cases entry
        rfl
    | described missing describes added =>
        rw [added, if_pos rfl] at entry
        cases entry
        rfl
    | failed missing fails same =>
        rw [same, missing] at entry
        cases entry

namespace Registry

/-! ## Operations -/

/-- What can be done with a registry. -/
inductive Operation where
  | ofDefinitions (definitions : List TableDefinition)
  | register (declaration : TableDeclaration)
  | describeAll (order : DeclarationOrder)
  | table (name : TableName)
  | seed (store : RowStore) (faults : Nat → SeedFaults) (definitions : List TableDefinition)

namespace Operation

/-- The registry after an operation.  One of them begins a new registry. -/
def after (registry : Registry) : Operation → Registry
  | .ofDefinitions definitions => Registry.ofDefinitions definitions
  | .register declaration => registry.register declaration
  | .describeAll order => (registry.describeAll order).2
  | .table name => (registry.table name).2
  | .seed store faults definitions => (registry.seed store faults definitions).2.1

/-- The declarations that are registered after an operation, from the first to the last. -/
def registered (known : List TableDeclaration) : Operation → List TableDeclaration
  | .ofDefinitions definitions => definitions.map TableDefinition.declaration
  | .register declaration => known ++ [declaration]
  | .describeAll _ | .table _ | .seed _ _ _ => known

end Operation

/-- The registry after a run of operations. -/
def run (operations : List Operation) : Registry :=
  operations.foldl Operation.after empty

/-- The last of the declarations of a name. -/
def last? (known : List TableDeclaration) (name : TableName) : Option TableDeclaration :=
  known.reverse.find? fun declaration => declaration.tableName == name

/-- The declaration that a run registers last under a name. -/
def latest? (operations : List Operation) (name : TableName) : Option TableDeclaration :=
  last? (operations.foldl Operation.registered []) name

theorem last?_append_singleton
    (known : List TableDeclaration)
    (declaration : TableDeclaration)
    (name : TableName) :
    last? (known ++ [declaration]) name =
      if name = declaration.tableName then some declaration else last? known name := by
  rw [last?, List.reverse_append, List.reverse_singleton, List.singleton_append, List.find?_cons]
  by_cases isName : name = declaration.tableName
  · simp [isName]
  · have other : (declaration.tableName == name) = false := by simpa using Ne.symm isName
    rw [if_neg isName, other]
    rfl

/-! ## Declarations -/

/-- Every table is registered once, under its own name. -/
structure IsIndexed (registry : Registry) : Prop where
  distinct : (registry.tables.map Prod.fst).Nodup
  named : ∀ entry ∈ registry.tables, entry.2.tableName = entry.1

section

variable {registry : Registry}

theorem isIndexed_empty : empty.IsIndexed := ⟨.nil, nofun⟩

theorem IsIndexed.register
    (indexed : registry.IsIndexed)
    (declaration : TableDeclaration) :
    (registry.register declaration).IsIndexed where
  distinct := Entries.nodup_alter indexed.distinct
  named := by
    intro entry member
    rcases Entries.mem_of_mem_alter member with rfl | earlier
    · rfl
    · exact indexed.named entry earlier

/-- A registered declaration is found under its name. -/
theorem IsIndexed.declaration?_of_mem
    (indexed : registry.IsIndexed)
    {declaration : TableDeclaration}
    (member : declaration ∈ registry.tables.map Prod.snd) :
    registry.declaration? declaration.tableName = some declaration := by
  obtain ⟨entry, isEntry, rfl⟩ := List.mem_map.mp member
  rw [indexed.named entry isEntry]
  exact Entries.lookup_of_mem indexed.distinct isEntry

theorem IsIndexed.tableName_eq
    (indexed : registry.IsIndexed)
    {name : TableName}
    {declaration : TableDeclaration}
    (registered : registry.declaration? name = some declaration) :
    declaration.tableName = name :=
  indexed.named (name, declaration) (Entries.mem_of_lookup registered)

theorem isIndexed_ofDefinitions (definitions : List TableDefinition) :
    (ofDefinitions definitions).IsIndexed :=
  List.foldlRecOn definitions _ isIndexed_empty fun _ indexed definition _ =>
    indexed.register definition.declaration

end

/-- Neither uses nor seeding change what is registered. -/
theorem tables_seedEach
    (registry : Registry)
    (store : RowStore)
    (faults : Nat → SeedFaults)
    (count : Nat)
    (definitions : List TableDefinition) :
    (seedEach registry store faults count definitions).2.1.tables = registry.tables := by
  induction definitions generalizing registry store faults count with
  | nil => rfl
  | cons definition rest induction =>
      rcases seedEach_cons registry store faults count definition with
        ⟨middle, reached, total, seeds, same⟩ | ⟨failure, later, kept, stops, same⟩
      · rw [same, induction]
        cases seeds <;> rfl
      · rw [same]
        cases stops <;> rfl

theorem tables_table (registry : Registry) (name : TableName) :
    (registry.table name).2.tables = registry.tables := by
  rw [table]
  cases registry.declaration? name <;> rfl

/-- After every operation the tables are registered once, under their own names. -/
theorem IsIndexed.after
    {registry : Registry}
    (indexed : registry.IsIndexed)
    (operation : Operation) :
    (operation.after registry).IsIndexed := by
  cases operation with
  | ofDefinitions definitions => exact isIndexed_ofDefinitions definitions
  | register declaration => exact indexed.register declaration
  | describeAll order => exact ⟨indexed.distinct, indexed.named⟩
  | table name =>
      have same := tables_table registry name
      exact ⟨same ▸ indexed.distinct, same ▸ indexed.named⟩
  | seed store faults definitions =>
      have same := tables_seedEach registry store faults 0 definitions
      exact ⟨same ▸ indexed.distinct, same ▸ indexed.named⟩

/-- A registry holds the last of each of the declarations that are registered. -/
def Holds (registry : Registry) (known : List TableDeclaration) : Prop :=
  ∀ name, registry.declaration? name = last? known name

theorem holds_ofDefinitions (definitions : List TableDefinition) :
    (ofDefinitions definitions).Holds (definitions.map TableDefinition.declaration) := by
  induction definitions using List.reverseRecOn with
  | nil => exact fun _ => rfl
  | append_singleton before definition induction =>
      intro name
      rw [List.map_append, List.map_singleton, last?_append_singleton, ← induction name]
      rw [ofDefinitions, List.foldl_append]
      exact declaration?_register _ _ _

/-- An operation registers what it says. -/
theorem Holds.after
    {registry : Registry}
    {known : List TableDeclaration}
    (holds : registry.Holds known)
    (operation : Operation) :
    (operation.after registry).Holds (operation.registered known) := by
  cases operation with
  | ofDefinitions definitions => exact holds_ofDefinitions definitions
  | register declaration =>
      intro name
      rw [Operation.registered, last?_append_singleton, ← holds name]
      exact declaration?_register registry declaration name
  | describeAll order => exact holds
  | table name =>
      intro other
      rw [Operation.after, declaration?, tables_table]
      exact holds other
  | seed store faults definitions =>
      intro other
      rw [Operation.after, seed, declaration?, tables_seedEach]
      exact holds other

/-- After a run the declaration of a name is the one that was registered last under it. -/
theorem declaration?_run
    (operations : List Operation)
    (name : TableName) :
    (run operations).declaration? name = latest? operations name := by
  have carried :
      ∀ (operations : List Operation) {registry known}, Holds registry known →
        (operations.foldl Operation.after registry).Holds
          (operations.foldl Operation.registered known) := by
    intro operations
    induction operations with
    | nil => exact id
    | cons operation rest induction => exact fun holds => induction (holds.after operation)
  exact carried operations (fun _ => rfl) name

/-! ## Entries that seeding adds -/

/-- Seeding comes to a definition with rows, and by then there is no entry for its table. -/
def Adds
    (registry : Registry)
    (store : RowStore)
    (faults : Nat → SeedFaults)
    (count : Nat)
    (definitions : List TableDefinition)
    (definition : TableDefinition) :
    Prop :=
  ∃ before after total middle reached,
    definitions = before ++ definition :: after ∧ definition.rows ≠ [] ∧
      seedEach registry store faults count before = (.ok total, middle, reached) ∧
        middle.cache.get? definition.declaration.tableName = none

section

variable
  {registry : Registry}
  {store : RowStore}
  {faults : Nat → SeedFaults}
  {count : Nat}
  {definition added : TableDefinition}
  {rest : List TableDefinition}

theorem adds_cons_self
    (rows : definition.rows ≠ [])
    (missing : registry.cache.get? definition.declaration.tableName = none) :
    Adds registry store faults count (definition :: rest) definition :=
  ⟨[], rest, count, registry, store, rfl, rows, rfl, missing⟩

/-- Behind a definition that is seeded, those are added that are added without it. -/
theorem adds_cons_iff_of_seeds
    {middle : Registry}
    {reached : RowStore}
    {total : Nat}
    (same : ∀ rest, seedEach registry store faults count (definition :: rest) =
      seedEach middle reached (fun number => faults (number + 1)) total rest) :
    Adds registry store faults count (definition :: rest) added ↔
      (added = definition ∧ definition.rows ≠ [] ∧
          registry.cache.get? definition.declaration.tableName = none) ∨
        Adds middle reached (fun number => faults (number + 1)) total rest added := by
  constructor
  · rintro ⟨_ | ⟨_, before⟩, after, found, last, kept, split, rows, seeded, missing⟩
    · cases split
      cases seeded
      exact .inl ⟨rfl, rows, missing⟩
    · cases split
      rw [same before] at seeded
      exact .inr ⟨before, after, found, last, kept, rfl, rows, seeded, missing⟩
  · rintro (⟨rfl, rows, missing⟩ | ⟨before, after, found, last, kept, rfl, rows, seeded, missing⟩)
    · exact adds_cons_self rows missing
    · exact ⟨definition :: before, after, found, last, kept, rfl, rows,
        (same before).trans seeded, missing⟩

/-- Behind a definition at which the seeding stops, none is added. -/
theorem adds_cons_iff_of_stops
    {later : Registry}
    {kept : RowStore}
    {failure : Failure}
    (same : ∀ rest, seedEach registry store faults count (definition :: rest) =
      (.error failure, later, kept)) :
    Adds registry store faults count (definition :: rest) added ↔
      added = definition ∧ definition.rows ≠ [] ∧
        registry.cache.get? definition.declaration.tableName = none := by
  constructor
  · rintro ⟨_ | ⟨_, before⟩, after, found, last, kept, split, rows, seeded, missing⟩
    · cases split
      cases seeded
      exact ⟨rfl, rows, missing⟩
    · cases split
      rw [same before] at seeded
      cases seeded
  · rintro ⟨rfl, rows, missing⟩
    exact adds_cons_self rows missing

/-- A definition adds its table where it has rows and there is no entry. -/
def Describes
    (registry : Registry)
    (definition : TableDefinition)
    (name : TableName)
    (table : Table) :
    Prop :=
  definition.rows ≠ [] ∧ registry.cache.get? definition.declaration.tableName = none ∧
    definition.declaration.tableName = name ∧ definition.declaration.describe = .ok table

theorem Seeds.get?_eq_some_iff
    {middle : Registry}
    {reached : RowStore}
    (seeds : Seeds definition registry store middle reached)
    {name : TableName}
    {table : Table} :
    middle.cache.get? name = some table ↔
      registry.cache.get? name = some table ∨ Describes registry definition name table := by
  cases seeds with
  | bare bare => simp [Describes, bare]
  | occupied rows serves => simp [Describes, rows, serves.get?_eq_some_iff]
  | vacant rows serves => simp [Describes, rows, serves.get?_eq_some_iff]

theorem Stops.get?_eq_some_iff
    {later : Registry}
    {kept : RowStore}
    {failure : Failure}
    {own : SeedFaults}
    (stops : Stops own definition registry store failure later kept)
    {name : TableName}
    {table : Table} :
    later.cache.get? name = some table ↔
      registry.cache.get? name = some table ∨ Describes registry definition name table := by
  cases stops with
  | undescribed rows serves => simp [Describes, rows, serves.get?_eq_some_iff]
  | uncounted rows serves => simp [Describes, rows, serves.get?_eq_some_iff]
  | row serves _ split => simp [Describes, split, serves.get?_eq_some_iff]

end

/-- After seeding there are the entries from before, and those of the definitions that it came to
without finding one. -/
theorem get?_seedEach_eq_some_iff
    {registry : Registry}
    {store : RowStore}
    {faults : Nat → SeedFaults}
    {count : Nat}
    {definitions : List TableDefinition}
    {name : TableName}
    {table : Table} :
    (seedEach registry store faults count definitions).2.1.cache.get? name = some table ↔
      registry.cache.get? name = some table ∨
        ∃ definition, Adds registry store faults count definitions definition ∧
          definition.declaration.tableName = name ∧
            definition.declaration.describe = .ok table := by
  -- The rest is seeded behind the entry that the first definition adds, hence for every registry.
  induction definitions generalizing registry store faults count with
  | nil => simp [seedEach, Adds]
  | cons definition rest induction =>
      rcases seedEach_cons registry store faults count definition with
        ⟨middle, reached, total, seeds, same⟩ | ⟨failure, later, kept, stops, same⟩
      · simp only [same rest, induction, seeds.get?_eq_some_iff, adds_cons_iff_of_seeds same,
          Describes]
        constructor
        · rintro ((earlier | ⟨rows, missing, named⟩) | ⟨added, adds, named⟩)
          · exact .inl earlier
          · exact .inr ⟨definition, .inl ⟨rfl, rows, missing⟩, named⟩
          · exact .inr ⟨added, .inr adds, named⟩
        · rintro (earlier | ⟨_, ⟨rfl, rows, missing⟩ | adds, named⟩)
          · exact .inl (.inl earlier)
          · exact .inl (.inr ⟨rows, missing, named⟩)
          · exact .inr ⟨_, adds, named⟩
      · simp only [same rest, stops.get?_eq_some_iff, adds_cons_iff_of_stops same, Describes]
        constructor
        · rintro (earlier | ⟨rows, missing, named⟩)
          · exact .inl earlier
          · exact .inr ⟨definition, ⟨rfl, rows, missing⟩, named⟩
        · rintro (earlier | ⟨_, ⟨rfl, rows, missing⟩, named⟩)
          · exact .inl earlier
          · exact .inr ⟨rows, missing, named⟩

/-! ## Registries that are up to date -/

/-- Every entry for a registered table is what its declaration describes. -/
def IsCurrent (registry : Registry) : Prop :=
  ∀ name declaration table,
    registry.declaration? name = some declaration →
      registry.cache.get? name = some table → declaration.describe = .ok table

/-- Seeding adds for no registered table an entry that is made of another declaration and differs
from what the registered one describes. -/
def IsFaithful
    (registry : Registry)
    (store : RowStore)
    (faults : Nat → SeedFaults)
    (definitions : List TableDefinition) :
    Prop :=
  ∀ definition declaration table,
    Adds registry store faults 0 definitions definition →
      registry.declaration? definition.declaration.tableName = some declaration →
        definition.declaration.describe = .ok table → declaration.describe = .ok table

section

variable {registry : Registry}

theorem IsCurrent.register
    (current : registry.IsCurrent)
    (declaration : TableDeclaration) :
    (registry.register declaration).IsCurrent := by
  intro name own table registered entry
  change (registry.cache.invalidate declaration.tableName).2.get? name = some table at entry
  rw [TableCache.get?_invalidate] at entry
  rw [declaration?_register] at registered
  split_ifs at entry registered
  exact current name own table registered entry

theorem isCurrent_ofDefinitions (definitions : List TableDefinition) :
    (ofDefinitions definitions).IsCurrent :=
  List.foldlRecOn definitions _ (fun _ _ _ => nofun) fun _ current definition _ =>
    current.register definition.declaration

/-- A use of the cache for a registered table leaves the registry up to date. -/
theorem IsCurrent.use
    (current : registry.IsCurrent)
    {declaration : TableDeclaration}
    (registered : registry.declaration? declaration.tableName = some declaration) :
    IsCurrent { registry with cache := (registry.cache.getOrDescribe declaration).2 } := by
  intro name own table isOwn entry
  have serves := TableCache.serves_getOrDescribe registry.cache declaration
  rcases serves.get?_eq_some_iff.mp entry with earlier | ⟨_, rfl, describes⟩
  · exact current name own table isOwn earlier
  · cases registered.symm.trans isOwn
    exact describes

theorem IsCurrent.describeEach
    (current : registry.IsCurrent)
    {declarations : List TableDeclaration}
    (registered : ∀ declaration ∈ declarations,
      registry.declaration? declaration.tableName = some declaration) :
    IsCurrent { registry with cache := (describeEach registry.cache declarations).2 } := by
  induction declarations generalizing registry with
  | nil => exact current
  | cons declaration rest induction =>
      rw [List.forall_mem_cons] at registered
      have used := current.use registered.1
      rw [Registry.describeEach]
      generalize registry.cache.getOrDescribe declaration = outcome at used
      obtain ⟨outcome, cache⟩ := outcome
      cases outcome with
      | ok _ => exact induction used registered.2
      | error _ => exact used

/-- A registry that is up to date stays so exactly if an operation is no unfaithful seeding. -/
theorem IsCurrent.after_iff
    (current : registry.IsCurrent)
    (indexed : registry.IsIndexed)
    (operation : Operation) :
    (operation.after registry).IsCurrent ↔
      ∀ store faults definitions,
        operation = .seed store faults definitions →
          registry.IsFaithful store faults definitions := by
  cases operation with
  | ofDefinitions definitions => exact iff_of_true (isCurrent_ofDefinitions definitions) nofun
  | register declaration => exact iff_of_true (current.register declaration) nofun
  | describeAll order =>
      refine iff_of_true (current.describeEach fun declaration member => ?_) nofun
      exact indexed.declaration?_of_mem ((order.perm _).mem_iff.mp member)
  | table name =>
      refine iff_of_true ?_ nofun
      rw [Operation.after, table]
      cases registered : registry.declaration? name with
      | none => exact current
      | some declaration =>
          have named := indexed.tableName_eq registered
          exact current.use (named ▸ registered)
  | seed store faults definitions =>
      have tables : (registry.seed store faults definitions).2.1.tables = registry.tables :=
        tables_seedEach registry store faults 0 definitions
      constructor
      · rintro stays _ _ _ ⟨⟩ definition declaration table adds registered describes
        refine stays definition.declaration.tableName declaration table ?_ ?_
        · rwa [declaration?, Operation.after, tables]
        · exact get?_seedEach_eq_some_iff.mpr (.inr ⟨definition, adds, rfl, describes⟩)
      · intro faithful name declaration table registered entry
        rw [declaration?, Operation.after, tables] at registered
        rcases get?_seedEach_eq_some_iff.mp entry with earlier | ⟨definition, adds, rfl, describes⟩
        · exact current name declaration table registered earlier
        · exact faithful store faults definitions rfl definition declaration table adds registered
            describes

/-- The table that is served is the entry under its name, or else what its declaration
describes. -/
theorem IsIndexed.table_eq_ok_iff
    (indexed : registry.IsIndexed)
    {name : TableName}
    {declaration : TableDeclaration}
    {table : Table}
    (registered : registry.declaration? name = some declaration) :
    (registry.table name).1 = .ok table ↔
      registry.cache.get? name = some table ∨
        registry.cache.get? name = none ∧ declaration.describe = .ok table := by
  obtain rfl := indexed.tableName_eq registered
  have serves := TableCache.serves_getOrDescribe registry.cache declaration
  rw [Registry.table, registered]
  change (registry.cache.getOrDescribe declaration).1.mapError Failure.schema = .ok table ↔ _
  rw [Outcome.mapError_eq_ok, serves.eq_ok_iff, serves.get?_eq_some_iff]
  simp only [true_and]

end

/-! ## Whole runs -/

/-- A registered table that is served after a run is what the declaration describes that was
registered last under its name. -/
def ServesLatest (operations : List Operation) : Prop :=
  ∀ name declaration table,
    latest? operations name = some declaration →
      ((run operations).table name).1 = .ok table → declaration.describe = .ok table

theorem isIndexed_foldl
    (operations : List Operation)
    {registry : Registry}
    (indexed : registry.IsIndexed) :
    (operations.foldl Operation.after registry).IsIndexed := by
  induction operations generalizing registry with
  | nil => exact indexed
  | cons operation rest induction => exact induction (indexed.after operation)

/-- The latest tables are served exactly by a registry that is up to date. -/
theorem servesLatest_iff_isCurrent
    (operations : List Operation) :
    ServesLatest operations ↔ (run operations).IsCurrent := by
  have indexed : (run operations).IsIndexed := isIndexed_foldl operations isIndexed_empty
  simp only [ServesLatest, IsCurrent, ← declaration?_run]
  constructor
  · intro serves name declaration table registered entry
    exact serves name declaration table registered
      ((indexed.table_eq_ok_iff registered).mpr (.inl entry))
  · intro current name declaration table registered served
    rcases (indexed.table_eq_ok_iff registered).mp served with entry | ⟨_, describes⟩
    · exact current name declaration table registered entry
    · exact describes

/-- A registered table is then served exactly if its latest declaration describes it. -/
theorem ServesLatest.table_eq_ok_iff
    {operations : List Operation}
    (serves : ServesLatest operations)
    {name : TableName}
    {declaration : TableDeclaration}
    {table : Table}
    (latest : latest? operations name = some declaration) :
    ((run operations).table name).1 = .ok table ↔ declaration.describe = .ok table := by
  have indexed : (run operations).IsIndexed := isIndexed_foldl operations isIndexed_empty
  refine ⟨serves name declaration table latest, fun describes => ?_⟩
  rw [← declaration?_run] at latest
  rw [indexed.table_eq_ok_iff latest]
  cases entry : (run operations).cache.get? name with
  | none => exact .inr ⟨rfl, describes⟩
  | some present =>
      have current := (servesLatest_iff_isCurrent operations).mp serves
      cases (current name declaration present latest entry).symm.trans describes
      exact .inl rfl

/-- From a registry that is up to date, all others of a run are so exactly if each seeding is
faithful. -/
theorem forall_isCurrent_iff
    (operations : List Operation)
    {registry : Registry}
    (indexed : registry.IsIndexed)
    (current : registry.IsCurrent) :
    (∀ before after, operations = before ++ after →
        (before.foldl Operation.after registry).IsCurrent) ↔
      ∀ before store faults definitions after,
        operations = before ++ .seed store faults definitions :: after →
          (before.foldl Operation.after registry).IsFaithful store faults definitions := by
  induction operations generalizing registry with
  | nil =>
      refine iff_of_true ?_ ?_
      · intro before after split
        obtain ⟨rfl, _⟩ := List.append_eq_nil_iff.mp split.symm
        exact current
      · intro before store faults definitions after split
        cases (List.append_eq_nil_iff.mp split.symm).2
  | cons operation rest induction =>
      -- Either side says of the first operation alone that the registry is up to date after it.
      have step := current.after_iff indexed operation
      constructor
      · intro all before store faults definitions after split
        have further := all [operation] rest rfl
        rcases before with _ | ⟨first, before⟩
        · cases split
          exact step.mp further store faults definitions rfl
        · cases split
          refine (induction (indexed.after operation) further).mp ?_ before store faults definitions
            after rfl
          exact fun earlier later split =>
            all (operation :: earlier) later (congrArg (List.cons operation) split)
      · intro faithful before after split
        have further : (operation.after registry).IsCurrent :=
          step.mpr fun store faults definitions isSeed =>
            faithful [] store faults definitions rest (congrArg (List.cons · rest) isSeed)
        rcases before with _ | ⟨first, before⟩
        · exact current
        · cases split
          refine (induction (indexed.after operation) further).mpr ?_ before after rfl
          exact fun earlier store faults definitions later split =>
            faithful (operation :: earlier) store faults definitions later
              (congrArg (List.cons operation) split)

/--
Throughout a run a registry serves the tables that were registered last exactly
if each seeding of the run is faithful: where it comes to a definition with rows
for a registered table without an entry, the declaration that comes with the
rows describes no other table than the registered one.  This holds for any order
in which declarations are described, and wherever storage fails.
-/
theorem serves_latest_iff
    (operations : List Operation) :
    (∀ before after, operations = before ++ after → ServesLatest before) ↔
      ∀ before store faults definitions after,
        operations = before ++ .seed store faults definitions :: after →
          (run before).IsFaithful store faults definitions := by
  simp only [servesLatest_iff_isCurrent]
  exact forall_isCurrent_iff operations isIndexed_empty fun _ _ _ => nofun

/-! ## Seeding that is faithful -/

/-- Definitions that come with the registered declarations are seeded faithfully. -/
theorem isFaithful_of_registered
    {registry : Registry}
    {store : RowStore}
    {faults : Nat → SeedFaults}
    {definitions : List TableDefinition}
    (registered : ∀ definition ∈ definitions,
      registry.declaration? definition.declaration.tableName = some definition.declaration) :
    registry.IsFaithful store faults definitions := by
  rintro definition declaration table ⟨before, after, _, _, _, rfl, _⟩ isRegistered describes
  have own := registered definition (by simp)
  cases own.symm.trans isRegistered
  exact describes

/-- A start with the definition of parcels. -/
def start : List Operation :=
  [.ofDefinitions [misnumbered], .describeAll .asRegistered,
    .seed .empty (fun _ => .absent) [misnumbered]]

/-- Parcels are served as they are defined. -/
theorem serves_latest_iff_start :
    ((run start).table ⟨"public", "parcels"⟩).1 = .ok parcelsTable := by
  have serves : ServesLatest start := by
    refine (serves_latest_iff start).mpr ?_ start [] (List.append_nil _).symm
    intro before store faults definitions after split
    rw [start] at split
    rcases before with _ | ⟨_, _ | ⟨_, _ | ⟨_, before⟩⟩⟩
    · cases split
    · cases split
    · cases split
      refine isFaithful_of_registered fun definition member => ?_
      rw [List.mem_singleton.mp member, declaration?_run]
      rfl
    · have none := congrArg (List.drop 3) split
      simp at none
  have latest : latest? start ⟨"public", "parcels"⟩ = some parcels := rfl
  exact (serves.table_eq_ok_iff latest).mpr describe_parcels

/-- Parcels of which nothing is known but the number. -/
def bareParcels : TableDeclaration :=
  { parcels with columns := parcels.columns.take 1 }

/-- Bare parcels are described by another table than the parcels. -/
theorem exists_describe_bareParcels :
    ∃ table, bareParcels.describe = .ok table ∧ table ≠ parcelsTable := by
  have sound := (TableDeclaration.exists_describe_iff.mp ⟨_, describe_parcels⟩).sound
  have describable : bareParcels.IsDescribable :=
    ⟨by decide, fun column member => sound column (List.mem_of_mem_take member)⟩
  obtain ⟨table, described⟩ := TableDeclaration.exists_describe_iff.mpr describable
  refine ⟨table, described, ?_⟩
  rintro rfl
  obtain ⟨_, own, makes, isTable⟩ := TableDeclaration.describe_eq_ok_iff.mp described
  have single : 1 = own.length := makes.length_eq
  have columns : (own ++ []).length = 3 := congrArg (fun table => table.columns.length) isTable
  rw [List.append_nil, ← single] at columns
  exact absurd columns (by decide)

/-- After parcels are registered and bare parcels seeded, the bare ones are served. -/
theorem not_serves_latest : ¬∀ operations, ServesLatest operations := by
  intro all
  obtain ⟨table, described, other⟩ := exists_describe_bareParcels
  have current := (servesLatest_iff_isCurrent _).mp
    (all [.register parcels, .seed .empty (fun _ => .absent) [⟨bareParcels, [.null]⟩]])
  have entry :
      (run [.register parcels, .seed .empty (fun _ => .absent) [⟨bareParcels, [.null]⟩]]).cache.get?
        parcels.tableName = some table :=
    get?_seedEach_eq_some_iff.mpr
      (.inr ⟨_, adds_cons_self (List.cons_ne_nil _ _) rfl, rfl, described⟩)
  have registered := declaration?_run
    [.register parcels, .seed .empty (fun _ => .absent) [⟨bareParcels, [.null]⟩]]
      parcels.tableName
  have same := current _ _ _ registered entry
  rw [describe_parcels] at same
  cases same
  exact other rfl

end Registry

end GeoTables
