import GeoTables.Proofs.Query.Lookup
import GeoTables.Proofs.Store.Replay
import GeoTables.Proofs.Table.Describable
import GeoTables.Proofs.Table.Single
import GeoTables.Proofs.Value.OwnText

/-!
# Lookups by the texts of stored keys

If the values of all key columns are read back from their texts, the texts of
the key of a record lead back to the record, unless other records have an equal
key: these are then counted.  A table without a key refuses all lookups.
-/

namespace GeoTables

namespace Query

open RowStore

variable {declaration : TableDeclaration} {table : Table} {record : Record}

/-! ## The texts of a key -/

/-- The values of all key columns are read back from their texts. -/
def HasReadableKey (table : Table) : Prop :=
  ∀ column ∈ table.columns, column.isKey = true → column.HasReadableTexts

/-- No value of the key is null. -/
def HasWholeKey (table : Table) (record : Record) : Prop :=
  ∀ name ∈ table.keyNames, record.get name ≠ .null

/-- The texts of the values of the key, in the order of the key columns. -/
def ownKey (table : Table) (record : Record) : List String :=
  (record.key table).map fun value => value.text?.getD ""

/-- The value of a key column is read back from its own text. -/
theorem exists_keyValue
    {name : String}
    (described : declaration.describe = .ok table)
    (readable : HasReadableKey table)
    (fits : FitsTable table record)
    (whole : HasWholeKey table record)
    (isKeyName : name ∈ table.keyNames) :
    ∃ text,
      (record.get name).text? = some text ∧
        keyValue table name text = .ok (name, record.get name) := by
  obtain ⟨column, member, rfl, isKey, own⟩ := exists_keyColumn described isKeyName
  obtain ⟨text, isText, read⟩ :=
    (fits column member).exists_text own (readable column member isKey)
      (whole column.name isKeyName)
  have found := Table.column?_of_mem
    (TableDeclaration.nodup_columns_of_describe described) member
  exact ⟨text, isText, keyValue_eq_ok.mpr ⟨column, _, found, read, rfl⟩⟩

theorem agreeOnKey_self
    (described : declaration.describe = .ok table)
    (readable : HasReadableKey table)
    (fits : FitsTable table record)
    (whole : HasWholeKey table record) :
    AgreeOnKey table record record := by
  intro name isKeyName
  obtain ⟨column, member, rfl, isKey, own⟩ := exists_keyColumn described isKeyName
  exact (fits column member).equal_self own (readable column member isKey)
    (whole column.name isKeyName)

/-- Every value of the key has a text. -/
theorem map_text?_key
    (described : declaration.describe = .ok table)
    (readable : HasReadableKey table)
    (fits : FitsTable table record)
    (whole : HasWholeKey table record) :
    (record.key table).map Value.text? = (ownKey table record).map some := by
  rw [ownKey, Record.key, List.map_map, List.map_map, List.map_map, List.map_inj_left]
  intro name isKeyName
  obtain ⟨text, isText, _⟩ := exists_keyValue described readable fits whole isKeyName
  simp [isText]

/-- The texts of the key are read as its values. -/
theorem wantedKey_ownKey
    (described : declaration.describe = .ok table)
    (keyed : table.keyNames ≠ [])
    (readable : HasReadableKey table)
    (fits : FitsTable table record)
    (whole : HasWholeKey table record) :
    wantedKey table (ownKey table record) =
      .ok (table.keyNames.map fun name => (name, record.get name)) := by
  have arity : (table.keyNames.isEmpty || table.keyNames.length != (ownKey table record).length) =
      false := by
    simp [ownKey, Record.key, keyed]
  have pairs :
      table.keyNames.zip (ownKey table record) =
        table.keyNames.map fun name => (name, (record.get name).text?.getD "") := by
    rw [ownKey, Record.key, List.map_map, ← List.map_prod_left_eq_zip]
    rfl
  rw [wantedKey, arity, if_neg (by decide), pairs, Outcome.mapM_eq_ok, List.forall₂_map_left_iff,
    List.forall₂_map_right_iff, List.forall₂_same]
  intro name isKeyName
  obtain ⟨text, isText, read⟩ := exists_keyValue described readable fits whole isKeyName
  rw [isText]
  exact read

/-! ## Records with one key -/

instance (left right : Record) : Decidable (AgreeOnKey table left right) :=
  inferInstanceAs
    (Decidable (∀ name ∈ table.keyNames, (left.get name).equal (right.get name) = true))

/-- The records have the values of a key exactly if they agree with it. -/
theorem hasKey_own (other : Record) :
    hasKey (table.keyNames.map fun name => (name, record.get name)) other =
      decide (AgreeOnKey table other record) := by
  rw [Bool.eq_iff_iff, decide_eq_true_iff, hasKey, List.all_map, List.all_eq_true]
  rfl

/-- What a lookup finds if a record and those of the others that agree with its key are there. -/
def foundAmong (table : Table) (record : Record) (others : List Record) : Except Failure Record :=
  match others.filter fun other => AgreeOnKey table other record with
  | [] => .ok record
  | rivals => .error (.multipleResults table.qualifiedName (rivals.length + 1))

/-- Among the scanned records a lookup finds those that have the wanted values. -/
theorem findByKey_eq_foundAmong
    {store : RowStore}
    {keys : List String}
    {before after : List Record}
    (scanned : store.scan table = .ok (before ++ record :: after))
    (wanted :
      wantedKey table keys = .ok (table.keyNames.map fun name => (name, record.get name)))
    (own : AgreeOnKey table record record) :
    findByKey ⟨store.scan⟩ table keys = foundAmong table record (before ++ after) := by
  have matched :
      hasKey (table.keyNames.map fun name => (name, record.get name)) =
        fun other => decide (AgreeOnKey table other record) :=
    funext hasKey_own
  rw [findByKey, wanted, foundAmong, List.filter_append]
  dsimp only [bind, Except.bind]
  rw [scanned, matched]
  dsimp only
  have isFound : decide (AgreeOnKey table record record) = true := decide_eq_true own
  rw [List.filter_append, List.filter_cons, if_pos isFound]
  cases before.filter fun other => AgreeOnKey table other record with
  | nil => cases after.filter fun other => AgreeOnKey table other record <;> rfl
  | cons first earlier =>
      cases earlier with
      | nil => rfl
      | cons second earlier => simp [throw, throwThe, MonadExceptOf.throw, Nat.add_assoc]

/-! ## Stored records are found -/

/-- A scanned record without nulls in its key is found by the texts of its key, in the order of
    the names, or it is refused with the number of records that have an equal key; a table without
    a key refuses all lookups. -/
theorem found_by_own_key
    {store : RowStore}
    {before after : List Record}
    (described : declaration.describe = .ok table)
    (readable : HasReadableKey table)
    (scanned : store.scan table = .ok (before ++ record :: after))
    (whole : HasWholeKey table record) :
    (table.keyNames = [] →
      ∀ keys, findByKey ⟨store.scan⟩ table keys = .error (.keyArity 0 keys.length)) ∧
    (table.keyNames ≠ [] →
      table.keyNames.Pairwise (· < ·) ∧
        (record.key table).map Value.text? = (ownKey table record).map some ∧
          findByKey ⟨store.scan⟩ table (ownKey table record) =
            foundAmong table record (before ++ after)) := by
  have fits : FitsTable table record := by
    obtain ⟨_, _, read⟩ := Outcome.exists_partner (Outcome.mapM_eq_ok.mp scanned).flip
      (List.mem_append_right before List.mem_cons_self)
    exact fitsTable_of_storedRecord (TableDeclaration.nodup_columns_of_describe described) read
  constructor
  · intro keyless keys
    rw [findByKey, wantedKey, keyless]
    rfl
  · intro keyed
    exact ⟨TableDeclaration.keyNames_ascend described,
      map_text?_key described readable fits whole,
      findByKey_eq_foundAmong scanned (wantedKey_ownKey described keyed readable fits whole)
        (agreeOnKey_self described readable fits whole)⟩

/-- A second parcel and the first one, which is kept before it. -/
def twoParcels : List Submission :=
  [{ bareParcel with
      row := .object [("id", .ofInt 2)]
      ordered := by
        rintro fields ⟨⟩
        exact List.pairwise_singleton _ _ },
    bareParcel]

/-- A parcel of a number and nothing else as a scan finds it. -/
def parcelOf (number : Int) : Record :=
  .ofFields [("id", .int number), ("area", .null), ("site", .null)]

/-- The first of two parcels is found by its number. -/
theorem found_by_own_key_parcels :
    (replay twoParcels).scan parcelsTable = .ok [parcelOf 1, parcelOf 2] ∧
      findByKey ⟨(replay twoParcels).scan⟩ parcelsTable ["1"] = .ok (parcelOf 1) := by
  have scanned :
      (replay twoParcels).scan parcelsTable = .ok ([] ++ parcelOf 1 :: [parcelOf 2]) := rfl
  have readable : HasReadableKey parcelsTable := by
    intro column member isKey
    simp only [parcelsTable, List.mem_cons, List.not_mem_nil, or_false] at member
    rcases member with rfl | rfl | rfl
    · exact .inl rfl
    · cases isKey
    · cases isKey
  have whole : HasWholeKey parcelsTable (parcelOf 1) := by
    intro name isKeyName isNull
    rw [List.mem_singleton.mp isKeyName] at isNull
    cases isNull
  obtain ⟨_, keyed⟩ := found_by_own_key describe_parcels readable scanned whole
  obtain ⟨_, _, found⟩ := keyed (by decide)
  exact ⟨scanned, found⟩

/-- A reading, an integer, of a table without a key. -/
def integerReading : Submission where
  declaration := readings "v" "INTEGER"
  table := readingsTable "v" ⟨"INTEGER", []⟩
  described := describe_readings "v" (by decide +kernel) rfl
  row := .object [("v", .ofInt 1)]
  ordered := by
    rintro fields ⟨⟩
    exact List.pairwise_singleton _ _

/-- Not every scanned record is found by the texts of its key: without a key there is no text, and
    the lookup is refused for that. -/
theorem not_found_by_own_key :
    ¬∀ (declaration : TableDeclaration) (table : Table) (submissions : List Submission)
        (before after : List Record) (record : Record),
      declaration.describe = .ok table →
      HasReadableKey table →
      (replay submissions).scan table = .ok (before ++ record :: after) →
      HasWholeKey table record →
      findByKey ⟨(replay submissions).scan⟩ table (ownKey table record) =
        foundAmong table record (before ++ after) := by
  intro total
  have readable : HasReadableKey (readingsTable "v" ⟨"INTEGER", []⟩) := by
    intro column member isKey
    rw [List.mem_singleton.mp member] at isKey
    cases isKey
  have scanned :
      (replay [integerReading]).scan (readingsTable "v" ⟨"INTEGER", []⟩) =
        .ok ([] ++ .ofFields [("v", .int 1)] :: []) :=
    rfl
  have found := total _ _ [integerReading] [] [] _ integerReading.described readable scanned nofun
  cases found

end Query

end GeoTables
