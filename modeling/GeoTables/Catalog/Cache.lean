import GeoTables.Entries
import GeoTables.Table.Description

/-!
# The cache of described tables

A table is described once and then served from the cache until its entry is
dropped.  A use looks the table up, describes it if there is no entry, and
offers the result; the first table offered under a name stays, and whoever
offers another one later adopts the entry.  The three steps are separate
operations, so uses may interleave.
-/

namespace GeoTables

/-- Described tables by name, with the number of uses that found an entry. -/
structure TableCache where
  entries : List (TableName × Table)
  hits : Nat
  misses : Nat

namespace TableCache

/-- The cache without entries. -/
def empty : TableCache := ⟨[], 0, 0⟩

instance : Inhabited TableCache := ⟨empty⟩

/-- The table under a name. -/
def get? (cache : TableCache) (name : TableName) : Option Table :=
  cache.entries.lookup name

/-- The number of entries. -/
def size (cache : TableCache) : Nat :=
  cache.entries.length

/-- Look a table up and count the outcome. -/
def look (cache : TableCache) (name : TableName) : Option Table × TableCache :=
  match cache.get? name with
  | some table => (some table, { cache with hits := cache.hits + 1 })
  | none => (none, { cache with misses := cache.misses + 1 })

/-- Offer a table under a name; the result is the table that stands there now. -/
def offer (cache : TableCache) (name : TableName) (table : Table) : Table × TableCache :=
  match cache.get? name with
  | some present => (present, cache)
  | none => (table, { cache with entries := cache.entries ++ [(name, table)] })

/-- The table of a declaration, described on first use. -/
def getOrDescribe
    (cache : TableCache)
    (declaration : TableDeclaration) :
    Except SchemaFault Table × TableCache :=
  match cache.look declaration.tableName with
  | (some table, cache) => (.ok table, cache)
  | (none, cache) =>
      match declaration.describe with
      | .error fault => (.error fault, cache)
      | .ok table =>
          let (present, cache) := cache.offer declaration.tableName table
          (.ok present, cache)

/-- Drop the entry of a name, if there is one. -/
def invalidate (cache : TableCache) (name : TableName) : Bool × TableCache :=
  ((cache.get? name).isSome,
    { cache with entries := cache.entries.filter fun entry => entry.1 != name })

@[simp]
theorem get?_empty (name : TableName) : empty.get? name = none := rfl

/-- A look changes no entry. -/
@[simp]
theorem get?_look
    (cache : TableCache)
    (name other : TableName) :
    (cache.look name).2.get? other = cache.get? other := by
  unfold look
  split <;> rfl

/-- The table that an offer results in is the one that stands there afterwards. -/
@[simp]
theorem get?_offer
    (cache : TableCache)
    (name other : TableName)
    (table : Table) :
    (cache.offer name table).2.get? other =
      if other = name then some (cache.offer name table).1 else cache.get? other := by
  unfold offer
  split
  case h_1 present found =>
    by_cases same : other = name <;> simp [same, found]
  case h_2 missing =>
    rw [get?] at missing
    by_cases same : other = name <;>
      simp [get?, List.lookup_append, Entries.lookup_entry, same, missing]

/-- An entry that is dropped is gone, and no other entry is. -/
@[simp]
theorem get?_invalidate
    (cache : TableCache)
    (name other : TableName) :
    (cache.invalidate name).2.get? other =
      if other = name then none else cache.get? other := by
  simp [get?, invalidate]

end TableCache

end GeoTables
