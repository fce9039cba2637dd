import GeoTables.Proofs.Store.Scanned
import GeoTables.Proofs.Value.OneSpelling
import Mathlib.Data.Char
import Mathlib.Data.List.Lex

/-!
# Records with one key

A record replaces another one if both keys are stored as the same text.  Records
of a table are told apart by the values of their keys exactly if every key
column has a type whose values have one spelling.  Then a lookup by key never
finds several records.  Otherwise the table can hold records with equal keys:
one half with one digit or with three in a column of exact numbers, zero and
negative zero in one of other numbers, of scalars or, as ordinates, of points.
-/

namespace GeoTables

/-! ## The order of keys -/

namespace RowKey

theorem before_trans
    {first second third : RowKey}
    (early : first.before second = true)
    (late : second.before third = true) :
    first.before third = true := by
  cases first <;> cases second <;> cases third <;> simp_all only [before, decide_eq_true_eq]
  · exact Nat.lt_trans early late
  · cases late
  · cases early
  · exact lt_trans early late

theorem before_total (left right : RowKey) :
    left.before right = true ∨ left = right ∨ right.before left = true := by
  cases left <;> cases right <;> simp only [before, decide_eq_true_eq, serial.injEq, text.injEq]
  · exact Nat.lt_trichotomy _ _
  · exact .inl trivial
  · exact .inr (.inr trivial)
  · exact lt_trichotomy _ _

theorem ne_of_before
    {left right : RowKey}
    (early : left.before right = true) :
    left ≠ right := by
  rintro rfl
  cases left with
  | serial number => exact Nat.lt_irrefl number (of_decide_eq_true early)
  | text key => exact lt_irrefl key (of_decide_eq_true early)

end RowKey

namespace RowStore

variable {table : Table}

/-- The two records have equal values in every key column. -/
def AgreeOnKey (table : Table) (left right : Record) : Prop :=
  ∀ name ∈ table.keyNames, (left.get name).equal (right.get name) = true

/-- No two of the records have equal keys. -/
def HaveDistinctKeys (table : Table) (records : List Record) : Prop :=
  records.Pairwise fun left right => ¬AgreeOnKey table left right

/-- Every key column has a type whose values have one spelling. -/
def HasPlainKey (table : Table) : Prop :=
  ∀ column ∈ table.columns, column.isKey = true → column.type.HasOneSpelling = true

/-- All values of a record fit the columns of a table. -/
def FitsTable (table : Table) (record : Record) : Prop :=
  ∀ column ∈ table.columns, (record.get column.name).Fits column

/--
Stores that are filled for a table with records whose values fit, with rows
given as JSON, and with whatever is written for tables of other names.
-/
inductive Filled (table : Table) : RowStore → Prop where
  | empty : Filled table .empty
  | insert
      {store : RowStore}
      {record : Record}
      (filled : Filled table store)
      (fits : FitsTable table record) :
      Filled table (store.insert table record)
  | insertJson
      {store next : RowStore}
      {row : Json}
      (filled : Filled table store)
      (ordered : ∀ fields, row = .object fields → Json.Ascending fields)
      (accepted : store.insertJson table row = .ok next) :
      Filled table next
  | elsewhere
      {store : RowStore}
      {other : Table}
      (filled : Filled table store)
      (apart : other.qualifiedName ≠ table.qualifiedName)
      (record : Record) :
      Filled table (store.insert other record)

/-- The tree of a table holds rows of records that fit, under the texts of their keys. -/
structure Holds (table : Table) (store : RowStore) (rows : List (RowKey × Record)) : Prop where
  entries : (store.tree table.qualifiedName).entries = rows.map (Prod.map id (rowText table))
  ordered : rows.Pairwise fun left right => left.1.before right.1 = true
  keyed : ∀ row ∈ rows, row.1 = .text (keyText table row.2)
  fits : ∀ row ∈ rows, FitsTable table row.2

/-- A record that fits is placed among the others, or in place of one with its key. -/
theorem Holds.insert
    {store : RowStore}
    {rows : List (RowKey × Record)}
    {record : Record}
    (keyed : table.keyNames ≠ [])
    (holds : Holds table store rows)
    (fits : FitsTable table record) :
    Holds table (store.insert table record)
      (Entries.place RowKey.before (.text (keyText table record)) record rows) where
  entries := by
    have underKey : rowKey table store.nextSerial record = .text (keyText table record) := by
      rw [rowKey, if_neg (mt List.isEmpty_iff.mp keyed)]
    rw [tree_insert, if_pos rfl, RowTree.put, underKey, holds.entries, Entries.map_place]
  ordered := by
    apply Entries.pairwise_place
    · exact fun _ _ _ => RowKey.before_trans
    · exact RowKey.before_total
    · exact holds.ordered
  keyed := by
    intro row member
    rcases Entries.mem_of_mem_place member with rfl | earlier
    · rfl
    · exact holds.keyed row earlier
  fits := by
    intro row member
    rcases Entries.mem_of_mem_place member with rfl | earlier
    · exact fits
    · exact holds.fits row earlier

/-- A record that is read from a row fits its table. -/
theorem fitsTable_of_recordOf
    {row : Json}
    {record : Record}
    (nodup : (table.columns.map Column.name).Nodup)
    (ordered : ∀ fields, row = .object fields → Json.Ascending fields)
    (read : recordOf table row = .ok record) :
    FitsTable table record := by
  intro column member
  cases row with
  | object fields =>
      rw [get_eq_readAs (ordered fields rfl) read]
      exact fits_readAs nodup fields member
  | _ => cases read

/-- A filled store holds rows under the texts of their keys. -/
theorem Filled.exists_rows
    {store : RowStore}
    (nodup : (table.columns.map Column.name).Nodup)
    (keyed : table.keyNames ≠ [])
    (filled : Filled table store) :
    ∃ rows, Holds table store rows := by
  induction filled with
  | empty => exact ⟨[], rfl, .nil, nofun, nofun⟩
  | insert _ fits induction =>
      obtain ⟨rows, holds⟩ := induction
      exact ⟨_, holds.insert keyed fits⟩
  | insertJson _ ordered accepted induction =>
      obtain ⟨rows, holds⟩ := induction
      rw [RowStore.insertJson, Outcome.bind_eq_ok] at accepted
      obtain ⟨record, read, written⟩ := accepted
      cases written
      exact ⟨_, holds.insert keyed (fitsTable_of_recordOf nodup ordered read)⟩
  | elsewhere _ apart record induction =>
      obtain ⟨rows, holds⟩ := induction
      refine ⟨rows, ?_, holds.ordered, holds.keyed, holds.fits⟩
      rw [tree_insert, if_neg apart.symm]
      exact holds.entries

/-! ## Keys that are stored as one text -/

section

variable {declaration : TableDeclaration}

/-- The name of a key column is that of a column of the table itself. -/
theorem exists_keyColumn
    {name : String}
    (described : declaration.describe = .ok table)
    (isKeyName : name ∈ table.keyNames) :
    ∃ column ∈ table.columns,
      column.name = name ∧ column.isKey = true ∧ column.isRelationship = false := by
  obtain ⟨column, member, isKey, rfl⟩ :=
    (TableDeclaration.mem_keyNames_iff described).mp isKeyName
  exact ⟨column, member, rfl, isKey,
    TableDeclaration.isRelationship_of_isKey described member isKey⟩

/-- Every value of the key is durable. -/
def HasDurableKey (table : Table) (record : Record) : Prop :=
  ∀ name ∈ table.keyNames, (record.get name).IsDurable

/-- The text of a key is read as the stored forms of its values. -/
theorem ofText?_keyText
    {record : Record}
    (described : declaration.describe = .ok table)
    (fits : FitsTable table record) :
    Json.ofText? (keyText table record) =
      (Json.rereadItems? ((record.key table).map Value.toStored)).map .array := by
  have plain :
      ∀ item ∈ (record.key table).map Value.toStored, item.IsPlain (124 + 2) := by
    rw [Record.key, List.map_map, List.forall_mem_map]
    intro name isKeyName
    obtain ⟨column, member, rfl, _⟩ := exists_keyColumn described isKeyName
    exact (fits column member).isPlain 124
  exact Json.ofText?_array rfl plain

/-- Records whose keys are stored as one text have the same values there. -/
theorem get_eq_of_keyText_eq
    {left right : Record}
    (described : declaration.describe = .ok table)
    (leftFits : FitsTable table left)
    (rightFits : FitsTable table right)
    (leftDurable : HasDurableKey table left)
    (rightDurable : HasDurableKey table right)
    (same : keyText table left = keyText table right) :
    ∀ name ∈ table.keyNames, left.get name = right.get name := by
  have readable :
      (Json.rereadItems? ((left.key table).map Value.toStored)).isSome := by
    rw [Json.isSome_rereadItems?_iff, Record.key, List.map_map, List.forall_mem_map]
    intro name isKeyName
    obtain ⟨column, member, rfl, _⟩ := exists_keyColumn described isKeyName
    obtain ⟨json, isJson, _⟩ :=
      (leftFits column member).readsBack_iff.mpr (leftDurable column.name isKeyName)
    exact Option.isSome_of_eq_some isJson
  obtain ⟨values, leftRead⟩ := Option.isSome_iff_exists.mp readable
  have rightRead : Json.rereadItems? ((right.key table).map Value.toStored) = some values := by
    have read := ofText?_keyText described rightFits
    rw [← same, ofText?_keyText described leftFits, leftRead] at read
    obtain ⟨others, areOthers, isArray⟩ := Option.map_eq_some_iff.mp read.symm
    cases isArray
    exact areOthers
  have alike := (Json.map_reread?_of_rereadItems? leftRead).trans
    (Json.map_reread?_of_rereadItems? rightRead).symm
  simp only [Record.key, List.map_map, List.map_inj_left, Function.comp_apply] at alike
  intro name isKeyName
  obtain ⟨column, member, rfl, _⟩ := exists_keyColumn described isKeyName
  obtain ⟨json, isJson, isLeft⟩ :=
    (leftFits column member).readsBack_iff.mpr (leftDurable column.name isKeyName)
  have rightBack :=
    (rightFits column member).readsBack_iff.mpr (rightDurable column.name isKeyName)
  exact rightBack.eq_of_ofStored ((alike column.name isKeyName).symm.trans isJson) isLeft

/-! ## Keys that tell records apart -/

/-- With a plain key, equal values of records that fit are the same values. -/
theorem agreeOnKey_iff
    {left right : Record}
    (described : declaration.describe = .ok table)
    (plain : HasPlainKey table)
    (leftFits : FitsTable table left)
    (rightFits : FitsTable table right) :
    AgreeOnKey table left right ↔ ∀ name ∈ table.keyNames, left.get name = right.get name := by
  refine forall₂_congr fun name isKeyName => ?_
  obtain ⟨column, member, rfl, isKey, own⟩ := exists_keyColumn described isKeyName
  exact (leftFits column member).equal_iff_eq (rightFits column member) own
    (plain column member isKey)

/-- No column of a table is missing from its own rows. -/
theorem null_of_absent (record : Record) :
    ∀ column ∈ table.columns,
      column.name ∉ table.columns.map Column.name → record.get column.name = .null :=
  fun _ member absent => absurd (List.mem_map_of_mem member) absent

/-- A durable value is found in the record that is read from its row. -/
theorem get_of_storedRecord
    {record found : Record}
    {column : Column}
    (nodup : (table.columns.map Column.name).Nodup)
    (fits : FitsTable table record)
    (read : storedRecord table (rowText table record) = .ok found)
    (member : column ∈ table.columns)
    (durable : (record.get column.name).IsDurable) :
    found.get column.name = record.get column.name := by
  obtain ⟨_, each⟩ := exists_reread_of_storedRecord nodup nodup fits (null_of_absent record) read
  obtain ⟨json, isJson, isFound⟩ := each column member
  exact ((fits column member).readsBack_iff.mpr durable).eq_of_ofStored isJson isFound

/-- A scan reads the rows that are held, one after the other. -/
theorem Holds.scan_eq
    {store : RowStore}
    {rows : List (RowKey × Record)}
    (holds : Holds table store rows) :
    store.scan table = rows.mapM fun row => storedRecord table (rowText table row.2) := by
  rw [scan, holds.entries, List.mapM_map]
  rfl

/-- A record that is read from a row fits its table. -/
theorem fitsTable_of_storedRecord
    {row : List Char}
    {record : Record}
    (nodup : (table.columns.map Column.name).Nodup)
    (read : storedRecord table row = .ok record) :
    FitsTable table record :=
  fun _ => fits_of_storedRecord nodup read

/-- With a plain key, records that are read with equal keys are kept under one text. -/
theorem keyText_eq_of_agreeOnKey
    {left right first second : Record}
    (described : declaration.describe = .ok table)
    (plain : HasPlainKey table)
    (leftFits : FitsTable table left)
    (rightFits : FitsTable table right)
    (isFirst : storedRecord table (rowText table left) = .ok first)
    (isSecond : storedRecord table (rowText table right) = .ok second)
    (agree : AgreeOnKey table first second) :
    keyText table left = keyText table right := by
  have nodup := TableDeclaration.nodup_columns_of_describe described
  have found := (agreeOnKey_iff described plain (fitsTable_of_storedRecord nodup isFirst)
    (fitsTable_of_storedRecord nodup isSecond)).mp agree
  have kept : left.key table = right.key table := by
    rw [Record.key, Record.key, List.map_inj_left]
    intro name isKeyName
    obtain ⟨column, member, rfl, isKey, own⟩ := exists_keyColumn described isKeyName
    have single := plain column member isKey
    rw [← get_of_storedRecord nodup leftFits isFirst member
        ((leftFits column member).isDurable_of_hasOneSpelling own single),
      ← get_of_storedRecord nodup rightFits isSecond member
        ((rightFits column member).isDurable_of_hasOneSpelling own single)]
    exact found column.name isKeyName
  rw [keyText, keyText, kept]

/-- Records of a filled store with a plain key have distinct keys. -/
theorem Filled.haveDistinctKeys
    {store : RowStore}
    {records : List Record}
    (described : declaration.describe = .ok table)
    (keyed : table.keyNames ≠ [])
    (plain : HasPlainKey table)
    (filled : Filled table store)
    (scanned : store.scan table = .ok records) :
    HaveDistinctKeys table records := by
  have nodup := TableDeclaration.nodup_columns_of_describe described
  obtain ⟨rows, holds⟩ := filled.exists_rows nodup keyed
  have apart :
      rows.Pairwise fun left right => left ∈ rows ∧ right ∈ rows ∧ left.1 ≠ right.1 :=
    holds.ordered.imp_of_mem fun isLeft isRight early =>
      ⟨isLeft, isRight, RowKey.ne_of_before early⟩
  rw [holds.scan_eq, Outcome.mapM_eq_ok] at scanned
  refine Outcome.pairwise_of_forall₂ scanned apart ?_
  intro left right first second ⟨isLeft, isRight, different⟩ isFirst isSecond agree
  apply different
  rw [holds.keyed left isLeft, holds.keyed right isRight,
    keyText_eq_of_agreeOnKey described plain (holds.fits left isLeft)
      (holds.fits right isRight) isFirst isSecond agree]

/-! ## Two spellings of one key -/

/-- A record with a value in one column and null in all others. -/
def only (column : Column) (value : Value) : Record :=
  .ofFields [(column.name, value)]

theorem get_only (column : Column) (value : Value) (name : String) :
    (only column value).get name = if name = column.name then value else .null :=
  Record.get_ofFields_singleton column.name value name

/-- A table with two records whose values in one column are spellings of one value. -/
def respelled (table : Table) (column : Column) (left right : Value) : RowStore :=
  (empty.insert table (only column left)).insert table (only column right)

section

variable {column : Column} {value left right : Value}

/-- What holds of null and of one value of a column holds of all values of the record. -/
theorem forall_get_only
    {fact : Column → Value → Prop}
    (nodup : (table.columns.map Column.name).Nodup)
    (member : column ∈ table.columns)
    (own : fact column value)
    (null : ∀ other ∈ table.columns, fact other .null) :
    ∀ other ∈ table.columns, fact other ((only column value).get other.name) := by
  intro other isColumn
  rw [get_only]
  split_ifs with same
  · rw [List.inj_on_of_nodup_map nodup isColumn member same]
    exact own
  · exact null other isColumn

theorem fitsTable_only
    (nodup : (table.columns.map Column.name).Nodup)
    (member : column ∈ table.columns)
    (fits : value.Fits column) :
    FitsTable table (only column value) :=
  forall_get_only nodup member fits fun _ _ => .null

/-- A durable value is read back from the row of its record. -/
theorem exists_storedRecord_only
    (nodup : (table.columns.map Column.name).Nodup)
    (member : column ∈ table.columns)
    (fits : value.Fits column)
    (durable : value.IsDurable) :
    ∃ found,
      storedRecord table (rowText table (only column value)) = .ok found ∧
        ∀ other ∈ table.columns, found.get other.name = (only column value).get other.name := by
  have fitsTable := fitsTable_only nodup member fits
  have readsBack :
      ∀ other ∈ table.columns, ((only column value).get other.name).ReadsBack other :=
    forall_get_only nodup member (fits.readsBack_iff.mpr durable)
      fun other _ => Value.Fits.null.readsBack_iff.mpr trivial
  have readable :
      ∀ other ∈ table.columns, ((only column value).get other.name).toStored.reread?.isSome := by
    intro other isColumn
    obtain ⟨json, isJson, _⟩ := readsBack other isColumn
    exact Option.isSome_of_eq_some isJson
  exact (storedRecord_rowText_iff nodup nodup fitsTable (null_of_absent _)).mpr
    ⟨readable, readsBack⟩

/-- Records whose only values are equal agree on every key. -/
theorem agreeOnKey_of_only
    {first second : Record}
    (described : declaration.describe = .ok table)
    (equal : left.equal right = true)
    (isFirst : ∀ other ∈ table.columns, first.get other.name = (only column left).get other.name)
    (isSecond :
      ∀ other ∈ table.columns, second.get other.name = (only column right).get other.name) :
    AgreeOnKey table first second := by
  intro name isKeyName
  obtain ⟨other, isColumn, rfl, _⟩ := exists_keyColumn described isKeyName
  rw [isFirst other isColumn, isSecond other isColumn, get_only, get_only]
  split_ifs
  · exact equal
  · rfl

theorem hasDurableKey_only (durable : value.IsDurable) :
    HasDurableKey table (only column value) := by
  intro name _
  rw [get_only]
  split_ifs
  · exact durable
  · trivial

/-- Two spellings of one value of a key column are kept under two texts. -/
theorem keyText_only_ne
    (described : declaration.describe = .ok table)
    (member : column ∈ table.columns)
    (isKey : column.isKey = true)
    (spellings : Value.AreSpellings column left right) :
    keyText table (only column left) ≠ keyText table (only column right) := by
  intro same
  have nodup := TableDeclaration.nodup_columns_of_describe described
  have isKeyName : column.name ∈ table.keyNames :=
    (TableDeclaration.mem_keyNames_iff described).mpr ⟨column, member, isKey, rfl⟩
  have sameValue := get_eq_of_keyText_eq described
    (fitsTable_only nodup member spellings.leftFits)
    (fitsTable_only nodup member spellings.rightFits)
    (hasDurableKey_only spellings.leftDurable) (hasDurableKey_only spellings.rightDurable)
    same column.name isKeyName
  rw [get_only, get_only, if_pos rfl, if_pos rfl] at sameValue
  exact spellings.different sameValue

theorem filled_respelled
    (described : declaration.describe = .ok table)
    (member : column ∈ table.columns)
    (spellings : Value.AreSpellings column left right) :
    Filled table (respelled table column left right) := by
  have nodup := TableDeclaration.nodup_columns_of_describe described
  exact .insert (.insert .empty (fitsTable_only nodup member spellings.leftFits))
    (fitsTable_only nodup member spellings.rightFits)

/-- A scan finds both records, and their keys are equal. -/
theorem exists_scan_respelled
    (described : declaration.describe = .ok table)
    (member : column ∈ table.columns)
    (isKey : column.isKey = true)
    (spellings : Value.AreSpellings column left right) :
    ∃ first second,
      (respelled table column left right).scan table = .ok [first, second] ∧
        AgreeOnKey table first second := by
  have nodup := TableDeclaration.nodup_columns_of_describe described
  have keyed : table.keyNames ≠ [] :=
    List.ne_nil_of_mem ((TableDeclaration.mem_keyNames_iff described).mpr
      ⟨column, member, isKey, rfl⟩)
  have none : Holds table .empty [] := ⟨rfl, .nil, nofun, nofun⟩
  have holds :=
    (none.insert keyed (fitsTable_only nodup member spellings.leftFits)).insert keyed
      (fitsTable_only nodup member spellings.rightFits)
  obtain ⟨leftFound, readLeft, isLeft⟩ :=
    exists_storedRecord_only nodup member spellings.leftFits spellings.leftDurable
  obtain ⟨rightFound, readRight, isRight⟩ :=
    exists_storedRecord_only nodup member spellings.rightFits spellings.rightDurable
  have different :
      RowKey.text (keyText table (only column left)) ≠
        .text (keyText table (only column right)) :=
    fun same => keyText_only_ne described member isKey spellings (RowKey.text.inj same)
  have scanned := holds.scan_eq
  rw [Entries.place] at scanned
  -- Which record comes first depends on the texts; equality is needed both ways.
  rcases Entries.place_singleton RowKey.before (only column right) (only column left) different
    with rows | rows
  · refine ⟨rightFound, leftFound, ?_, ?_⟩
    · rw [respelled, scanned, rows, Outcome.mapM_eq_ok]
      exact .cons readRight (.cons readLeft .nil)
    · exact agreeOnKey_of_only described spellings.equalBack isRight isLeft
  · refine ⟨leftFound, rightFound, ?_, ?_⟩
    · rw [respelled, scanned, rows, Outcome.mapM_eq_ok]
      exact .cons readLeft (.cons readRight .nil)
    · exact agreeOnKey_of_only described spellings.equal isLeft isRight

end

end

end RowStore

end GeoTables
