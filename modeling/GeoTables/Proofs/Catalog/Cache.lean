import GeoTables.Catalog.Registry
import GeoTables.Proofs.Outcome

/-!
# Tables from the cache

A use of the cache serves the table that stands under the name of a declaration
or describes it and leaves it there.  Entries are only added, except where a
registration drops one, and every entry stands under the name of its own table.
-/

namespace GeoTables

/-- A described table has the name of its declaration. -/
theorem TableDeclaration.name_eq_of_describe
    {declaration : TableDeclaration}
    {table : Table}
    (described : declaration.describe = .ok table) :
    table.name = declaration.tableName := by
  simp only [describe, Outcome.bind_eq_ok, Outcome.pure_eq_ok] at described
  obtain ⟨_, _, _, _, rfl⟩ := described
  rfl

namespace TableCache

/-- What a use of the cache for a declaration results in. -/
inductive Serves
    (cache : TableCache)
    (declaration : TableDeclaration) :
    Except SchemaFault Table → TableCache → Prop where
  | found
      {table : Table}
      {next : TableCache}
      (present : cache.get? declaration.tableName = some table)
      (same : ∀ other, next.get? other = cache.get? other) :
      Serves cache declaration (.ok table) next
  | described
      {table : Table}
      {next : TableCache}
      (missing : cache.get? declaration.tableName = none)
      (describes : declaration.describe = .ok table)
      (added : ∀ other,
        next.get? other = if other = declaration.tableName then some table else cache.get? other) :
      Serves cache declaration (.ok table) next
  | failed
      {fault : SchemaFault}
      {next : TableCache}
      (missing : cache.get? declaration.tableName = none)
      (fails : declaration.describe = .error fault)
      (same : ∀ other, next.get? other = cache.get? other) :
      Serves cache declaration (.error fault) next

theorem serves_getOrDescribe
    (cache : TableCache)
    (declaration : TableDeclaration) :
    Serves cache declaration
      (cache.getOrDescribe declaration).1 (cache.getOrDescribe declaration).2 := by
  unfold getOrDescribe
  cases present : cache.get? declaration.tableName with
  | some table =>
      simp only [look, present]
      exact .found present fun _ => rfl
  | none =>
      simp only [look, present]
      cases describes : declaration.describe with
      | error fault => exact .failed present describes fun _ => rfl
      | ok table =>
          have offered :
              (offer { cache with misses := cache.misses + 1 } declaration.tableName table).1 =
                table := by
            have missing :
                get? { cache with misses := cache.misses + 1 } declaration.tableName = none :=
              present
            rw [offer, missing]
          have added := fun other =>
            get?_offer { cache with misses := cache.misses + 1 } declaration.tableName other table
          simp only [offered] at added ⊢
          exact .described present describes added

/-- Every entry of one cache stands in a later one. -/
def IsPartOf (cache later : TableCache) : Prop :=
  ∀ name table, cache.get? name = some table → later.get? name = some table

theorem IsPartOf.refl (cache : TableCache) : cache.IsPartOf cache :=
  fun _ _ => id

theorem IsPartOf.trans
    {first second third : TableCache}
    (early : first.IsPartOf second)
    (late : second.IsPartOf third) :
    first.IsPartOf third :=
  fun name table entry => late name table (early name table entry)

/-- Every entry stands under the name of its table. -/
def IsOwn (cache : TableCache) : Prop :=
  ∀ name table, cache.get? name = some table → table.name = name

section

variable
  {cache next : TableCache}
  {declaration : TableDeclaration}
  {outcome : Except SchemaFault Table}

/-- A use of the cache drops no entry. -/
theorem Serves.isPartOf
    (serves : cache.Serves declaration outcome next) :
    cache.IsPartOf next := by
  intro name table entry
  cases serves with
  | found _ same => rwa [same]
  | failed _ _ same => rwa [same]
  | described missing _ added =>
      rw [added, if_neg, entry]
      rintro rfl
      simp [missing] at entry

/-- The table that is served stands in the cache afterwards. -/
theorem Serves.get?_eq
    {table : Table}
    (serves : cache.Serves declaration (.ok table) next) :
    next.get? declaration.tableName = some table := by
  cases serves with
  | found present same => rwa [same]
  | described _ _ added => rw [added, if_pos rfl]

theorem Serves.isOwn
    (serves : cache.Serves declaration outcome next)
    (own : cache.IsOwn) :
    next.IsOwn := by
  intro name table entry
  cases serves with
  | found _ same => exact own name table (same name ▸ entry)
  | failed _ _ same => exact own name table (same name ▸ entry)
  | described _ describes added =>
      rw [added] at entry
      split_ifs at entry with isName
      · cases entry
        rw [isName]
        exact TableDeclaration.name_eq_of_describe describes
      · exact own name table entry

/-- The rows of a table that is served are kept under the name of its declaration. -/
theorem Serves.qualifiedName_eq
    {table : Table}
    (serves : cache.Serves declaration (.ok table) next)
    (own : cache.IsOwn) :
    table.qualifiedName = declaration.tableName.text :=
  congrArg TableName.text (serves.isOwn own _ _ serves.get?_eq)

theorem isOwn_invalidate
    (own : cache.IsOwn)
    (name : TableName) :
    (cache.invalidate name).2.IsOwn := by
  intro other table entry
  rw [get?_invalidate] at entry
  split_ifs at entry
  exact own other table entry

end

end TableCache

end GeoTables
