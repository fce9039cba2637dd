import GeoTables.Proofs.Store.Keys
import GeoTables.Query.Execution

/-!
# Lookups by key

The texts of a key give a value to every key column.  If all values of the key
columns have one spelling, a lookup in a filled store never finds several
records; and this is the only case in which the records of every filled store
have distinct keys.
-/

namespace GeoTables

namespace Query

open RowStore

variable {declaration : TableDeclaration} {table : Table} {keys : List String}

theorem keyValue_eq_ok
    {name key : String}
    {entry : String × Value} :
    keyValue table name key = .ok entry ↔
      ∃ column value,
        table.column? name = some column ∧
          Value.coerceText column key = .ok value ∧ entry = (name, value) := by
  unfold keyValue
  cases table.column? name with
  | none => simp
  | some column =>
      cases outcome : Value.coerceText column key <;> simp [outcome, eq_comm]

/-- Texts of a key give a value to every key column, and it fits the column. -/
theorem exists_mem_wantedKey
    {wanted : List (String × Value)}
    {column : Column}
    (described : declaration.describe = .ok table)
    (read : wantedKey table keys = .ok wanted)
    (member : column ∈ table.columns)
    (isKey : column.isKey = true) :
    ∃ value, (column.name, value) ∈ wanted ∧ value.Fits column := by
  unfold wantedKey at read
  split_ifs at read with mismatch
  simp only [Bool.or_eq_true, bne_iff_ne, not_or, not_not] at mismatch
  have isKeyName : column.name ∈ (table.keyNames.zip keys).map Prod.fst := by
    rw [List.map_fst_zip (Nat.le_of_eq mismatch.2)]
    exact (TableDeclaration.mem_keyNames_iff described).mpr ⟨column, member, isKey, rfl⟩
  obtain ⟨⟨name, key⟩, isPair, named⟩ := List.mem_map.mp isKeyName
  obtain ⟨_, isWanted, own⟩ := Outcome.exists_partner (Outcome.mapM_eq_ok.mp read) isPair
  obtain ⟨other, value, found, coerced, rfl⟩ := keyValue_eq_ok.mp own
  dsimp only at named
  rw [named, Table.column?_of_mem
    (TableDeclaration.nodup_columns_of_describe described) member] at found
  cases found
  rw [named] at isWanted
  exact ⟨value, isWanted, Value.fits_of_coerceText
    (TableDeclaration.isRelationship_of_isKey described member isKey) coerced⟩

/-- Texts that are no key are not refused for finding several records. -/
theorem wantedKey_ne_multipleResults
    {name : String}
    {count : Nat} :
    wantedKey table keys ≠ .error (.multipleResults name count) := by
  intro fails
  unfold wantedKey at fails
  split_ifs at fails
  · cases fails
  · obtain ⟨⟨name, key⟩, _, own⟩ := Outcome.exists_fault_of_mapM fails
    dsimp only at own
    unfold keyValue at own
    split at own
    · cases own
    · split at own <;> cases own

/-- Rows that cannot be read are not refused for being several. -/
theorem scan_ne_multipleResults
    {store : RowStore}
    {name : String}
    {count : Nat} :
    store.scan table ≠ .error (.multipleResults name count) := by
  intro fails
  obtain ⟨entry, _, unread⟩ := Outcome.exists_fault_of_mapM fails
  unfold storedRecord at unread
  split at unread
  · simp only [Outcome.bind_eq_error, Outcome.pure_ne_error, and_false, exists_const,
      or_false] at unread
    obtain ⟨_, _, own⟩ := Outcome.exists_fault_of_mapM unread
    unfold storedField at own
    split at own <;> cases own
  · cases unread

/-- Records that have the wanted values of a plain key agree on it. -/
theorem agreeOnKey_of_hasKey
    {wanted : List (String × Value)}
    {left right : Record}
    (described : declaration.describe = .ok table)
    (plain : HasPlainKey table)
    (read : wantedKey table keys = .ok wanted)
    (leftFits : FitsTable table left)
    (rightFits : FitsTable table right)
    (isLeft : hasKey wanted left = true)
    (isRight : hasKey wanted right = true) :
    AgreeOnKey table left right := by
  rw [hasKey, List.all_eq_true] at isLeft isRight
  rw [agreeOnKey_iff described plain leftFits rightFits]
  intro name isKeyName
  obtain ⟨column, member, rfl, isKey, own⟩ := exists_keyColumn described isKeyName
  obtain ⟨value, isWanted, fits⟩ := exists_mem_wantedKey described read member isKey
  have single := plain column member isKey
  have leftValue : left.get column.name = value :=
    ((leftFits column member).equal_iff_eq fits own single).mp (isLeft _ isWanted)
  have rightValue : right.get column.name = value :=
    ((rightFits column member).equal_iff_eq fits own single).mp (isRight _ isWanted)
  rw [leftValue, rightValue]

/-- Records with distinct plain keys are never found together. -/
theorem findByKey_ne_multipleResults
    {store : RowStore}
    {name : String}
    {count : Nat}
    (described : declaration.describe = .ok table)
    (plain : HasPlainKey table)
    (distinct : ∀ records, store.scan table = .ok records → HaveDistinctKeys table records) :
    findByKey ⟨store.scan⟩ table keys ≠ .error (.multipleResults name count) := by
  intro several
  unfold findByKey at several
  rw [Outcome.bind_eq_error] at several
  rcases several with fails | ⟨wanted, isWanted, several⟩
  · exact wantedKey_ne_multipleResults fails
  rw [Outcome.bind_eq_error] at several
  rcases several with fails | ⟨records, scanned, several⟩
  · exact scan_ne_multipleResults fails
  have fits : ∀ record ∈ records.filter (hasKey wanted),
      FitsTable table record ∧ hasKey wanted record = true := by
    intro record found
    obtain ⟨member, isWanted⟩ := List.mem_filter.mp found
    obtain ⟨_, _, read⟩ := Outcome.exists_partner (Outcome.mapM_eq_ok.mp scanned).flip member
    exact ⟨fitsTable_of_storedRecord
      (TableDeclaration.nodup_columns_of_describe described) read, isWanted⟩
  have apart : (records.filter (hasKey wanted)).Pairwise fun left right =>
      ¬AgreeOnKey table left right :=
    (distinct records scanned).filter _
  match found : records.filter (hasKey wanted) with
  | [] =>
      rw [found] at several
      cases several
  | [record] =>
      rw [found] at several
      cases several
  | first :: second :: others =>
      rw [found] at fits apart
      obtain ⟨firstFits, isFirst⟩ := fits first (by simp)
      obtain ⟨secondFits, isSecond⟩ := fits second (by simp)
      exact List.rel_of_pairwise_cons apart List.mem_cons_self
        (agreeOnKey_of_hasKey described plain isWanted firstFits secondFits isFirst isSecond)

end Query

/-! ## Distinct keys -/

namespace RowStore

/--
Whatever a keyed table is filled with, its records have distinct keys if and
only if every key column has a type whose values have one spelling.  In this
case no lookup by key finds several records.
-/
theorem keys_distinct_iff
    {declaration : TableDeclaration}
    {table : Table}
    (described : declaration.describe = .ok table)
    (keyed : table.keyNames ≠ []) :
    ((∀ store records,
        Filled table store → store.scan table = .ok records → HaveDistinctKeys table records) ↔
      HasPlainKey table) ∧
    (HasPlainKey table →
      ∀ store keys count,
        Filled table store →
        Query.findByKey ⟨store.scan⟩ table keys ≠
          .error (.multipleResults table.qualifiedName count)) := by
  refine ⟨⟨?_, ?_⟩, ?_⟩
  · intro distinct column member isKey
    by_contra several
    have own := TableDeclaration.isRelationship_of_isKey described member isKey
    obtain ⟨left, right, spellings⟩ :=
      Value.exists_spellings own (Bool.eq_false_iff.mpr several)
    obtain ⟨first, second, scanned, agree⟩ :=
      exists_scan_respelled described member isKey spellings
    have apart := distinct _ _ (filled_respelled described member spellings) scanned
    rw [HaveDistinctKeys, List.pairwise_pair] at apart
    exact apart agree
  · exact fun plain store records filled scanned =>
      filled.haveDistinctKeys described keyed plain scanned
  · intro plain store keys count filled
    exact Query.findByKey_ne_multipleResults described plain fun records scanned =>
      filled.haveDistinctKeys described keyed plain scanned

/-- Parcels are told apart by their numbers. -/
theorem keys_distinct_iff_parcels :
    parcels.describe = .ok parcelsTable ∧
      parcelsTable.keyNames ≠ [] ∧
        HasPlainKey parcelsTable ∧
          ∀ store records,
            Filled parcelsTable store →
            store.scan parcelsTable = .ok records →
            HaveDistinctKeys parcelsTable records := by
  have keyed : parcelsTable.keyNames ≠ [] := by decide
  have plain : HasPlainKey parcelsTable := by
    intro column member isKey
    simp only [parcelsTable, List.mem_cons, List.not_mem_nil, or_false] at member
    rcases member with rfl | rfl | rfl
    · rfl
    · cases isKey
    · cases isKey
  exact ⟨describe_parcels, keyed, plain, (keys_distinct_iff describe_parcels keyed).1.mpr plain⟩

/-! ## Tariffs -/

/-- Tariffs that are known by their rates, exact numbers. -/
def tariffs : TableDeclaration where
  schema := "public"
  name := "tariffs"
  columns := [
    { name := "rate", typeText := "NUMERIC", nullable := false, isKey := true,
      foreignKeys := [], initial := none, srid := none, header := none }]
  relationships := []

/-- The table of the tariffs. -/
def tariffsTable : Table where
  name := ⟨"public", "tariffs"⟩
  columns := [
    { name := "rate", header := none, type := .float, storeType := "NUMERIC",
      length := none, precision := none, scale := none, isExact := true,
      nullable := false, isKey := true, references := [], initial := none,
      srid := none, isRelationship := false }]
  relationships := []
  keyNames := ["rate"]
  geometryNames := []

/-- The tariffs are described by their table. -/
theorem describe_tariffs : tariffs.describe = .ok tariffsTable := by
  have parsed : StoreType.ofText tariffs.columns[0].typeText = ⟨"NUMERIC", []⟩ := by
    decide +kernel
  have rate : tariffs.columns[0].describe "tariffs" = .ok tariffsTable.columns[0] := by
    rw [ColumnDeclaration.describe_eq_ok parsed rfl rfl]
    rfl
  have columns :
      TableDeclaration.describeColumns "tariffs" [] tariffs.columns = .ok tariffsTable.columns :=
    TableDeclaration.describeColumns_cons rfl rate rfl
  exact TableDeclaration.describe_keyed columns rfl rfl

/-- The rates one half with one digit and with three are equal, and both of them are kept. -/
theorem keys_not_distinct :
    ¬∀ (declaration : TableDeclaration) (table : Table) (store : RowStore)
        (records : List Record),
      declaration.describe = .ok table →
      table.keyNames ≠ [] →
      Filled table store →
      store.scan table = .ok records →
      HaveDistinctKeys table records := by
  intro distinct
  have member : tariffsTable.columns[0] ∈ tariffsTable.columns := List.getElem_mem _
  have spellings :
      Value.AreSpellings tariffsTable.columns[0] (.decimal Value.half)
        (.decimal Value.halfInMills) :=
    Value.areSpellings_half rfl rfl rfl
  obtain ⟨first, second, scanned, agree⟩ :=
    exists_scan_respelled describe_tariffs member rfl spellings
  have apart := distinct tariffs tariffsTable _ _ describe_tariffs (by decide)
    (filled_respelled describe_tariffs member spellings) scanned
  rw [HaveDistinctKeys, List.pairwise_pair] at apart
  exact apart agree

end RowStore

end GeoTables
