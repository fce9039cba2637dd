import GeoTables.Catalog.Cache
import GeoTables.Catalog.Definition
import GeoTables.Store.Rows

/-!
# The registry of served tables

The registry holds the declaration of every table that is served, and a cache
of the tables they describe.  Registering a table again replaces its
declaration and drops its entry from the cache.

The declarations are not kept in any order, so describing all of them goes
through them in an order that is given from outside.

Seeding writes the rows of definitions into tables that are still empty, table
by table and row by row, and stops at the first row that is refused or where
storage fails.  Any call of storage can fail, so that the calls that do are
given from outside as well.
-/

namespace GeoTables

/-- An order in which declarations are gone through. -/
structure DeclarationOrder where
  arrange : List TableDeclaration → List TableDeclaration
  perm : ∀ declarations, (arrange declarations).Perm declarations

/-- The order in which tables were first registered. -/
def DeclarationOrder.asRegistered : DeclarationOrder := ⟨id, List.Perm.refl⟩

/-- The calls of storage that fail while a definition is seeded, the writes by their numbers. -/
structure SeedFaults where
  counting : Option String
  writing : Nat → Option WriteFault

/-- No call fails. -/
def SeedFaults.absent : SeedFaults := ⟨none, fun _ => none⟩

/-- The declarations of the served tables, with the tables described so far. -/
structure Registry where
  tables : List (TableName × TableDeclaration)
  cache : TableCache

namespace Registry

/-- The registry without tables. -/
def empty : Registry := ⟨[], .empty⟩

instance : Inhabited Registry := ⟨empty⟩

/-- The number of served tables. -/
def size (registry : Registry) : Nat :=
  registry.tables.length

/-- The declaration of a table. -/
def declaration? (registry : Registry) (name : TableName) : Option TableDeclaration :=
  registry.tables.lookup name

/-- Serve a table. -/
def register (registry : Registry) (declaration : TableDeclaration) : Registry where
  tables := Entries.alter declaration.tableName (fun _ => declaration) registry.tables
  cache := (registry.cache.invalidate declaration.tableName).2

@[simp]
theorem declaration?_empty (name : TableName) : empty.declaration? name = none := rfl

@[simp]
theorem declaration?_register
    (registry : Registry)
    (declaration : TableDeclaration)
    (name : TableName) :
    (registry.register declaration).declaration? name =
      if name = declaration.tableName then
        some declaration
      else
        registry.declaration? name := by
  simp [declaration?, register]

/-- Serve the tables of a list of definitions. -/
def ofDefinitions (definitions : List TableDefinition) : Registry :=
  definitions.foldl (fun registry definition => registry.register definition.declaration) empty

/-- Describe declarations until one of them cannot be described. -/
def describeEach (cache : TableCache) : List TableDeclaration → Except SchemaFault Unit × TableCache
  | [] => (.ok (), cache)
  | declaration :: rest =>
      match cache.getOrDescribe declaration with
      | (.ok _, cache) => describeEach cache rest
      | (.error fault, cache) => (.error fault, cache)

/-- Describe every served table; the result is their number. -/
def describeAll
    (registry : Registry)
    (order : DeclarationOrder) :
    Except SchemaFault Nat × Registry :=
  let declarations := order.arrange (registry.tables.map Prod.snd)
  let (outcome, cache) := describeEach registry.cache declarations
  (outcome.map fun _ => registry.size, { registry with cache := cache })

/-- The served table of a name. -/
def table (registry : Registry) (name : TableName) : Except Failure Table × Registry :=
  match registry.declaration? name with
  | none => (.error (.unknownTable name), registry)
  | some declaration =>
      let (outcome, cache) := registry.cache.getOrDescribe declaration
      (outcome.mapError .schema, { registry with cache := cache })

/-- Write rows until one of them is refused or storage fails. -/
def insertRows
    (store : RowStore)
    (table : Table)
    (faults : Nat → Option WriteFault) :
    List Json → Except Failure Unit × RowStore
  | [] => (.ok (), store)
  | row :: rest =>
      match RowStore.recordOf table row, faults 0 with
      | .error failure, _ => (.error failure, store)
      | .ok _, some fault => (.error (.storage fault.reason), store.unwritten table fault)
      | .ok record, none =>
          insertRows (store.insert table record) table (fun number => faults (number + 1)) rest

/-- Write the rows of definitions after `written` other rows. -/
def seedEach
    (registry : Registry)
    (store : RowStore)
    (faults : Nat → SeedFaults)
    (written : Nat) :
    List TableDefinition → Except Failure Nat × Registry × RowStore
  | [] => (.ok written, registry, store)
  | definition :: rest =>
      let later := fun number => faults (number + 1)
      if definition.rows.isEmpty then
        seedEach registry store later written rest
      else
        let (outcome, cache) := registry.cache.getOrDescribe definition.declaration
        let registry := { registry with cache := cache }
        match outcome, (faults 0).counting with
        | .error fault, _ => (.error (.schema fault), registry, store)
        | .ok _, some reason => (.error (.storage reason), registry, store)
        | .ok table, none =>
            if store.size table > 0 then
              seedEach registry store later written rest
            else
              match insertRows store table (faults 0).writing definition.rows with
              | (.ok (), store) =>
                  seedEach registry store later (written + definition.rows.length) rest
              | (.error failure, store) => (.error failure, registry, store)

/--
Write the rows of definitions into empty tables; the result is the number of
rows.  The faults of storage are those of one definition after the other.
-/
def seed
    (registry : Registry)
    (store : RowStore)
    (faults : Nat → SeedFaults)
    (definitions : List TableDefinition) :
    Except Failure Nat × Registry × RowStore :=
  seedEach registry store faults 0 definitions

end Registry

end GeoTables
