import GeoTables.Proofs.Store.Rows

/-!
# Scans after a sequence of submissions

Rows are submitted one after the other, for any described tables; a row that is
refused changes nothing.  A ledger keeps the accepted rows of one tree as they
were submitted, under the keys and in the order of the tree.  The tree mirrors
the ledger after every submission, so a scan finds what the fields of every row
were read as exactly if every row survives being written and read.

Two tables with one qualified name share a tree.  A row that was submitted for
the scanned table itself survives exactly if all of its values are durable.
-/

namespace GeoTables

/-- A row that is submitted for a described table; an object has its names in order. -/
structure Submission where
  declaration : TableDeclaration
  table : Table
  described : declaration.describe = .ok table
  row : Json
  ordered : ∀ fields, row = .object fields → Json.Ascending fields

/-- A row that was accepted for a table, as it was submitted. -/
structure KeptRow where
  table : Table
  fields : List (String × Json)

namespace KeptRow

/-- What the field of a name was read as, null if the row left it out. -/
def value (row : KeptRow) (name : String) : Value :=
  RowStore.readAs row.table row.fields name

/-- The text that was written for the row. -/
def text (row : KeptRow) : List Char :=
  match RowStore.recordOf row.table (.object row.fields) with
  | .ok record => RowStore.rowText row.table record
  | .error _ => []

/-- The row was accepted, and neither its fields nor the columns of its table share a name. -/
structure IsAccepted (row : KeptRow) : Prop where
  ordered : Json.Ascending row.fields
  distinct : (row.table.columns.map Column.name).Nodup
  read : ∃ record, RowStore.recordOf row.table (.object row.fields) = .ok record

/-- The text of the row is read, for another table, as what the row was read as. -/
def Survives (table : Table) (row : KeptRow) : Prop :=
  (∀ column ∈ row.table.columns, (row.value column.name).toStored.reread?.isSome) ∧
    ∀ column ∈ table.columns, (row.value column.name).ReadsBack column

/-- For its own table a row survives exactly if its values are durable. -/
theorem survives_iff_of_eq
    {table : Table}
    {row : KeptRow}
    (nodup : (table.columns.map Column.name).Nodup)
    (own : row.table = table) :
    row.Survives table ↔ ∀ column ∈ table.columns, (row.value column.name).IsDurable := by
  have durable : ∀ column ∈ table.columns,
      ((row.value column.name).ReadsBack column ↔ (row.value column.name).IsDurable) := by
    intro column member
    rw [value, own]
    exact (RowStore.fits_readAs nodup row.fields member).readsBack_iff
  rw [Survives, own, ← forall₂_congr durable]
  constructor
  · exact And.right
  · intro each
    refine ⟨fun column member => ?_, each⟩
    obtain ⟨json, isJson, _⟩ := each column member
    exact Option.isSome_of_eq_some isJson

/-- A row does not survive for its own table with a value that is not durable. -/
theorem not_survives
    {table : Table}
    {row : KeptRow}
    {column : Column}
    {value : Value}
    (nodup : (table.columns.map Column.name).Nodup)
    (own : row.table = table)
    (member : column ∈ table.columns)
    (holds : row.value column.name = value)
    (fragile : ¬value.IsDurable) :
    ¬row.Survives table := by
  intro survives
  have durable := (survives_iff_of_eq nodup own).mp survives column member
  rw [holds] at durable
  exact fragile durable

/-- The text of an accepted row is that of a record with the values of the row. -/
theorem IsAccepted.exists_record
    {row : KeptRow}
    (accepted : row.IsAccepted) :
    ∃ record,
      row.text = RowStore.rowText row.table record ∧
        (∀ name, record.get name = row.value name) ∧
        (∀ column ∈ row.table.columns, (record.get column.name).Fits column) ∧
        ∀ name ∉ row.table.columns.map Column.name, record.get name = .null := by
  obtain ⟨ordered, distinct, record, read⟩ := accepted
  have values : ∀ name, record.get name = row.value name :=
    RowStore.get_eq_readAs ordered read
  refine ⟨record, by rw [text, read], values, ?_, ?_⟩
  · intro column member
    rw [values]
    exact RowStore.fits_readAs distinct row.fields member
  · intro name isAbsent
    rw [values, value, RowStore.readAs, Table.column?_eq_none isAbsent]

/-- An accepted row is read for a table as it was read before exactly if it survives. -/
theorem exists_storedRecord_text_iff
    {table : Table}
    {row : KeptRow}
    (nodup : (table.columns.map Column.name).Nodup)
    (accepted : row.IsAccepted) :
    (∃ stored,
      RowStore.storedRecord table row.text = .ok stored ∧
        ∀ column ∈ table.columns, stored.get column.name = row.value column.name) ↔
      row.Survives table := by
  obtain ⟨record, isText, values, fits, absent⟩ := accepted.exists_record
  rw [isText, Survives]
  simp only [← values]
  exact RowStore.storedRecord_rowText_iff nodup accepted.distinct fits
    fun column _ => absent column.name

end KeptRow

/-! ## Ledgers -/

namespace RowStore

/-- Write a submitted row; one that is refused changes nothing. -/
def submit (store : RowStore) (submission : Submission) : RowStore :=
  match store.insertJson submission.table submission.row with
  | .ok next => next
  | .error _ => store

/-- The store after a sequence of submissions. -/
def replay (submissions : List Submission) : RowStore :=
  submissions.foldl submit .empty

/-- The key under which a record is kept, the serial number being the next one. -/
def rowKey (table : Table) (serial : Nat) (record : Record) : RowKey :=
  if table.keyNames.isEmpty then .serial serial else .text (keyText table record)

theorem tree_insert
    (store : RowStore)
    (table : Table)
    (record : Record)
    (name : String) :
    (store.insert table record).tree name =
      if name = table.qualifiedName then
        (store.tree name).put (rowKey table store.nextSerial record) (rowText table record)
      else
        store.tree name := by
  unfold insert rowKey
  split_ifs with keyless same same
  · subst same
    exact (tree_put store _ _ _ _).trans (if_pos rfl)
  · exact (tree_put store _ _ _ _).trans (if_neg same)
  · subst same
    exact (tree_put store _ _ _ _).trans (if_pos rfl)
  · exact (tree_put store _ _ _ _).trans (if_neg same)

theorem nextSerial_insert
    (store : RowStore)
    (table : Table)
    (record : Record) :
    (store.insert table record).nextSerial =
      store.nextSerial + if table.keyNames.isEmpty then 1 else 0 := by
  unfold insert
  split_ifs <;> rfl

end RowStore

/-- The accepted rows of a tree under their keys. -/
structure Ledger where
  rows : List (RowKey × KeptRow)
  nextSerial : Nat

/-- The row is the one that was submitted, for a table of the name. -/
structure Submission.IsKeptAs (name : String) (submission : Submission) (row : KeptRow) : Prop where
  named : submission.table.qualifiedName = name
  table : row.table = submission.table
  fields : submission.row = .object row.fields

namespace Ledger

/-- The ledger without rows. -/
def empty : Ledger := ⟨[], 0⟩

/--
Enter a submission if its row is accepted.  Rows of other trees are left out,
but they may use up a serial number.
-/
def enter (name : String) (ledger : Ledger) (submission : Submission) : Ledger :=
  match submission.row, RowStore.recordOf submission.table submission.row with
  | .object fields, .ok record =>
      { rows :=
          if submission.table.qualifiedName = name then
            Entries.place RowKey.before
              (RowStore.rowKey submission.table ledger.nextSerial record)
              ⟨submission.table, fields⟩ ledger.rows
          else
            ledger.rows
        nextSerial :=
          ledger.nextSerial + if submission.table.keyNames.isEmpty then 1 else 0 }
  | _, _ => ledger

/-- The rows of the tree of a name after a sequence of submissions. -/
def after (name : String) (submissions : List Submission) : Ledger :=
  submissions.foldl (enter name) .empty

/-- A row that is entered was in the ledger before or is that of the submission. -/
theorem mem_rows_enter
    {name : String}
    {ledger : Ledger}
    {submission : Submission}
    {row : RowKey × KeptRow}
    (member : row ∈ (ledger.enter name submission).rows) :
    row ∈ ledger.rows ∨ submission.IsKeptAs name row.2 := by
  unfold enter at member
  split at member
  case h_1 isObject _ =>
    dsimp only at member
    split_ifs at member with own
    · rcases Entries.mem_of_mem_place member with rfl | earlier
      · exact .inr ⟨own, rfl, isObject⟩
      · exact .inl earlier
    · exact .inl member
  case h_2 => exact .inl member

/-- Every row of a ledger was submitted for a table of the name. -/
theorem exists_submission_of_mem
    {name : String}
    {submissions : List Submission}
    {row : RowKey × KeptRow}
    (member : row ∈ (after name submissions).rows) :
    ∃ submission ∈ submissions, submission.IsKeptAs name row.2 := by
  have each :
      ∀ (rest : List Submission) (ledger : Ledger),
        row ∈ (rest.foldl (enter name) ledger).rows →
        row ∈ ledger.rows ∨ ∃ submission ∈ rest, submission.IsKeptAs name row.2 := by
    intro rest
    induction rest with
    | nil => exact fun _ => .inl
    | cons submission others induction =>
        intro ledger found
        rcases induction _ found with entered | ⟨later, isLater, own⟩
        · rcases mem_rows_enter entered with earlier | own
          · exact .inl earlier
          · exact .inr ⟨submission, by simp, own⟩
        · exact .inr ⟨later, by simp [isLater], own⟩
  rcases each submissions .empty member with impossible | found
  · cases impossible
  · exact found

end Ledger

namespace RowStore

/-- The tree of the name holds the rows of the ledger. -/
structure Mirrors (name : String) (store : RowStore) (ledger : Ledger) : Prop where
  serial : store.nextSerial = ledger.nextSerial
  entries : (store.tree name).entries = ledger.rows.map (Prod.map id KeptRow.text)
  accepted : ∀ row ∈ ledger.rows, row.2.IsAccepted

/-- A submission keeps the tree a mirror of the ledger. -/
theorem Mirrors.submit
    {name : String}
    {store : RowStore}
    {ledger : Ledger}
    (mirrors : Mirrors name store ledger)
    (submission : Submission) :
    Mirrors name (store.submit submission) (ledger.enter name submission) := by
  obtain ⟨declaration, table, described, row, ordered⟩ := submission
  unfold RowStore.submit Ledger.enter insertJson
  cases row with
  | object fields =>
      dsimp only
      cases read : recordOf table (.object fields) with
      | error failure => exact mirrors
      | ok record =>
          dsimp only
          constructor
          · exact (nextSerial_insert store table record).trans (by rw [mirrors.serial])
          · refine (congrArg RowTree.entries (tree_insert store table record name)).trans ?_
            have written : KeptRow.text ⟨table, fields⟩ = rowText table record := by
              rw [KeptRow.text, read]
            by_cases own : table.qualifiedName = name
            · rw [if_pos own.symm, if_pos own, Entries.map_place, RowTree.put, mirrors.entries,
                mirrors.serial, written]
            · rw [if_neg (Ne.symm own), mirrors.entries, if_neg own]
          · intro kept member
            dsimp only at member
            split_ifs at member with own
            · rcases Entries.mem_of_mem_place member with rfl | earlier
              · exact ⟨ordered fields rfl, TableDeclaration.nodup_columns_of_describe described,
                  record, read⟩
              · exact mirrors.accepted kept earlier
            · exact mirrors.accepted kept member
  | _ => exact mirrors

/-- After every sequence of submissions the tree mirrors the ledger. -/
theorem mirrors_replay
    (name : String)
    (submissions : List Submission) :
    Mirrors name (replay submissions) (.after name submissions) := by
  have kept :
      ∀ (rest : List Submission) (store : RowStore) (ledger : Ledger),
        Mirrors name store ledger →
        Mirrors name (rest.foldl RowStore.submit store)
          (rest.foldl (Ledger.enter name) ledger) := by
    intro rest
    induction rest with
    | nil => exact fun _ _ mirrors => mirrors
    | cons submission others induction =>
        exact fun _ _ mirrors => induction _ _ (mirrors.submit submission)
  exact kept submissions .empty .empty ⟨rfl, rfl, nofun⟩

/-- A scan finds what every kept row was read as. -/
def FindsKept (table : Table) (submissions : List Submission) : Prop :=
  ∃ records,
    (replay submissions).scan table = .ok records ∧
      List.Forall₂
        (fun row record => ∀ column ∈ table.columns,
          Record.get record column.name = KeptRow.value row.2 column.name)
        (Ledger.after table.qualifiedName submissions).rows records

/-- A scan finds what every kept row was read as exactly if every row survives. -/
theorem findsKept_iff
    {table : Table}
    (nodup : (table.columns.map Column.name).Nodup)
    (submissions : List Submission) :
    FindsKept table submissions ↔
      ∀ row ∈ (Ledger.after table.qualifiedName submissions).rows, row.2.Survives table := by
  have mirrors := mirrors_replay table.qualifiedName submissions
  have read :
      (replay submissions).scan table =
        (Ledger.after table.qualifiedName submissions).rows.mapM fun row =>
          storedRecord table row.2.text := by
    rw [scan, mirrors.entries, List.mapM_map]
    rfl
  rw [FindsKept, read, Outcome.exists_mapM_eq_ok_iff]
  exact forall₂_congr fun row member =>
    KeptRow.exists_storedRecord_text_iff nodup (mirrors.accepted row member)

/--
Whatever rows are submitted, a scan of a described table succeeds and finds in
every column what each kept row was read as, if and only if every kept row
survives; a row that was submitted for the table itself does so exactly if all
that its fields were read as is durable.
-/
theorem scan_reads_back_iff
    {declaration : TableDeclaration}
    {table : Table}
    (described : declaration.describe = .ok table)
    (submissions : List Submission) :
    (FindsKept table submissions ↔
      ∀ row ∈ (Ledger.after table.qualifiedName submissions).rows, row.2.Survives table) ∧
    ∀ row ∈ (Ledger.after table.qualifiedName submissions).rows,
      row.2.table = table →
      (row.2.Survives table ↔
        ∀ column ∈ table.columns, (row.2.value column.name).IsDurable) := by
  have nodup := TableDeclaration.nodup_columns_of_describe described
  exact ⟨findsKept_iff nodup submissions, fun _ _ own => KeptRow.survives_iff_of_eq nodup own⟩

/-! ## Submitted parcels -/

/-- The only row of a ledger after an accepted submission. -/
theorem rows_after_singleton
    {submission : Submission}
    {name : String}
    {fields : List (String × Json)}
    {record : Record}
    (own : submission.table.qualifiedName = name)
    (isObject : submission.row = .object fields)
    (read : recordOf submission.table (.object fields) = .ok record) :
    (Ledger.after name [submission]).rows =
      [(rowKey submission.table 0 record, ⟨submission.table, fields⟩)] := by
  rw [Ledger.after, List.foldl_cons, List.foldl_nil, Ledger.enter, isObject, read]
  exact if_pos own

/-- A parcel with a number and nothing else. -/
def bareParcel : Submission where
  declaration := parcels
  table := parcelsTable
  described := describe_parcels
  row := .object [("id", .ofInt 1)]
  ordered := by
    rintro fields ⟨⟩
    exact List.pairwise_singleton _ _

/-- The fields of three parcels: all of them, a name alone, and no name. -/
def namedParcelFields : List (List (String × Json)) := [
  [("area", .string "12.50"), ("id", .ofInt 7), ("name", .string "Hof & <Weiher>"),
    ("site", .string "POINT(2600000 1200000)")],
  [("id", .ofInt 2), ("name", .string "\"Au\"")],
  [("area", .string "-0.05"), ("id", .ofInt 4), ("site", .string "POINT(3 -1)")]]

theorem ascending_of_mem_namedParcelFields :
    ∀ fields ∈ namedParcelFields, Json.Ascending fields := by
  decide +kernel

/-- The three parcels as they are submitted. -/
def submittedParcels : List Submission :=
  namedParcelFields.attach.map fun fields =>
    { declaration := namedParcels
      table := namedParcelsTable
      described := describe_namedParcels
      row := .object fields.1
      ordered := by
        rintro _ ⟨⟩
        exact ascending_of_mem_namedParcelFields fields.1 fields.2 }

/-- The site of a submitted parcel is the one that its text was written for. -/
theorem isDurable_site
    {fields : List (String × Json)}
    {site : Geometry}
    {text : String}
    (durable : site.IsDurable)
    (isText : text = site.wkt)
    (given : field fields namedParcelsTable.columns[2] = .string text) :
    (readAs namedParcelsTable fields "site").IsDurable := by
  have found : namedParcelsTable.column? "site" = some namedParcelsTable.columns[2] := rfl
  have read :
      Value.ofStored namedParcelsTable.columns[2] (field fields namedParcelsTable.columns[2]) =
        .ok (.geometry site) := by
    rw [given, isText]
    exact Value.ofStored_of_ofText rfl rfl durable.ofText_wkt
  rw [readAs_eq found read]
  exact durable

/-- All values of a submitted parcel are durable if its site is. -/
theorem isDurable_namedParcel
    {fields : List (String × Json)}
    (sited : (readAs namedParcelsTable fields "site").IsDurable) :
    ∀ column ∈ namedParcelsTable.columns,
      (readAs namedParcelsTable fields column.name).IsDurable := by
  have nodup := TableDeclaration.nodup_columns_of_describe describe_namedParcels
  have fits {column : Column} (member : column ∈ namedParcelsTable.columns) :=
    fits_readAs nodup fields member
  exact forall_mem_namedParcelsTable_columns
    ((fits (List.getElem_mem _)).isDurable rfl rfl nofun nofun)
    ((fits (List.getElem_mem _)).isDurable rfl rfl nofun fun _ => rfl)
    sited
    ((fits (List.getElem_mem _)).isDurable rfl rfl nofun nofun)

theorem isDurable_of_mem_namedParcelFields :
    ∀ fields ∈ namedParcelFields, (readAs namedParcelsTable fields "site").IsDurable := by
  have farm : Geometry.IsDurable (.point ⟨.ofInt 2600000, .ofInt 1200000⟩) :=
    ⟨by decide +kernel, by decide +kernel⟩
  have pond : Geometry.IsDurable (.point ⟨.ofInt 3, .ofInt (-1)⟩) :=
    ⟨by decide +kernel, by decide +kernel⟩
  have farmText :
      "POINT(2600000 1200000)" = Geometry.wkt (.point ⟨.ofInt 2600000, .ofInt 1200000⟩) := by
    decide +kernel
  have pondText : "POINT(3 -1)" = Geometry.wkt (.point ⟨.ofInt 3, .ofInt (-1)⟩) := by
    decide +kernel
  -- The fields stay a variable, since what is read for a given text would be evaluated.
  intro fields isGiven
  simp only [namedParcelFields, List.mem_cons, List.not_mem_nil, or_false] at isGiven
  rcases isGiven with whole | unsited | unnamed
  · exact isDurable_site farm farmText (by rw [whole]; rfl)
  · rw [unsited]
    trivial
  · exact isDurable_site pond pondText (by rw [unnamed]; rfl)

/-- Three parcels are kept and found by a scan as they were submitted. -/
theorem scan_reads_back_iff_namedParcels :
    namedParcels.describe = .ok namedParcelsTable ∧
      (Ledger.after namedParcelsTable.qualifiedName submittedParcels).rows.length = 3 ∧
      FindsKept namedParcelsTable submittedParcels := by
  obtain ⟨finds, survives⟩ := scan_reads_back_iff describe_namedParcels submittedParcels
  refine ⟨describe_namedParcels, by decide +kernel, finds.mpr ?_⟩
  intro row isRow
  obtain ⟨submission, submitted, _, own, isObject⟩ := Ledger.exists_submission_of_mem isRow
  obtain ⟨fields, _, rfl⟩ := List.mem_map.mp submitted
  have sameFields : row.2.fields = fields.1 := (Json.object.inj isObject).symm
  refine (survives row isRow own).mpr ?_
  simp only [KeptRow.value, own, sameFields]
  exact isDurable_namedParcel (isDurable_of_mem_namedParcelFields fields.1 fields.2)

/-- A parcel at a point that is not what its own text says. -/
def overflowingParcel : Submission where
  declaration := parcels
  table := parcelsTable
  described := describe_parcels
  row := .object [("id", .ofInt 1), ("site", .string "POINT(1e400 1)")]
  ordered := by
    rintro fields ⟨⟩
    decide +kernel

theorem ofStored_overflowingPoint :
    Value.ofStored parcelsTable.columns[2] (.string "POINT(1e400 1)") =
      .ok (.geometry overflowingPoint) :=
  Value.ofStored_of_ofText rfl rfl LocatedGeometry.ofText_overflowingPoint

theorem recordOf_overflowingParcel :
    recordOf overflowingParcel.table
        (.object [("id", .ofInt 1), ("site", .string "POINT(1e400 1)")]) =
      .ok (.ofFields [("id", .int 1), ("site", .geometry overflowingPoint)]) := by
  have site :
      fieldOf overflowingParcel.table "site" (.string "POINT(1e400 1)") =
        .ok ("site", .geometry overflowingPoint) :=
    fieldOf_eq_ok.mpr ⟨parcelsTable.columns[2], _, rfl, ofStored_overflowingPoint, rfl⟩
  have id : fieldOf overflowingParcel.table "id" (.ofInt 1) = .ok ("id", .int 1) := rfl
  simp only [recordOf, List.mapM_cons, List.mapM_nil, site, id]
  rfl

theorem value_overflowingParcel :
    KeptRow.value
        ⟨parcelsTable, [("id", .ofInt 1), ("site", .string "POINT(1e400 1)")]⟩
        parcelsTable.columns[2].name =
      .geometry overflowingPoint := by
  have found :
      parcelsTable.column? parcelsTable.columns[2].name = some parcelsTable.columns[2] := rfl
  have isField :
      field [("id", .ofInt 1), ("site", .string "POINT(1e400 1)")] parcelsTable.columns[2] =
        .string "POINT(1e400 1)" := rfl
  have read :
      Value.ofStored parcelsTable.columns[2]
          (field [("id", .ofInt 1), ("site", .string "POINT(1e400 1)")]
            parcelsTable.columns[2]) =
        .ok (.geometry overflowingPoint) := by
    rw [isField, ofStored_overflowingPoint]
  exact readAs_eq found read

/-- Rows can be accepted that no later scan finds as they were read. -/
theorem scan_not_faithful :
    ¬∀ (declaration : TableDeclaration) (table : Table) (submissions : List Submission),
      declaration.describe = .ok table → FindsKept table submissions := by
  intro faithful
  have nodup := TableDeclaration.nodup_columns_of_describe describe_parcels
  have survives :=
    (findsKept_iff nodup [overflowingParcel]).mp
      (faithful parcels parcelsTable [overflowingParcel] describe_parcels)
  rw [@rows_after_singleton overflowingParcel parcelsTable.qualifiedName _ _ rfl rfl
    recordOf_overflowingParcel, List.forall_mem_singleton] at survives
  have isColumn : parcelsTable.columns[2] ∈ parcelsTable.columns := List.getElem_mem _
  exact KeptRow.not_survives nodup rfl isColumn value_overflowingParcel
    not_isDurable_overflowingPoint survives

end RowStore

end GeoTables
