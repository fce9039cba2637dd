import GeoTables.Proofs.Outcome
import GeoTables.Proofs.Query.Results
import GeoTables.Proofs.Text.Blank
import GeoTables.Service.Answer

/-!
# Pages of a result

The pages of one limit, asked for at its multiples, put together are the rows
they were cut from: the first pages are a first part of the rows, and the pages
whose offsets have 64 bits are all of them.  Behind the last row pages are
empty.

A bound on the number of records that a read returns, whatever offset and
limit the read has or lacks, only cuts off its end.
-/

namespace GeoTables

namespace Paging

/-! ## Pages of one limit -/

section

variable {α : Type} {limit : Nat} {rows : List α}

/-- The page of an index, each page before it having `limit` rows. -/
def nth (limit index : Nat) : Paging :=
  ⟨index * limit, limit⟩

/-- The first pages of a limit, in order. -/
def firstPages (limit count : Nat) (rows : List α) : List (List α) :=
  (List.range count).map fun index => (nth limit index).apply rows

theorem firstPages_succ (count : Nat) :
    firstPages limit (count + 1) rows =
      firstPages limit count rows ++ [(nth limit count).apply rows] := by
  rw [firstPages, List.range_succ, List.map_append]
  rfl

/-- The first pages put together are the first rows. -/
theorem flatten_firstPages (count : Nat) :
    (firstPages limit count rows).flatten = rows.take (count * limit) := by
  induction count with
  | zero => simp [firstPages]
  | succ count induction =>
      rw [firstPages_succ, List.flatten_append, induction, Nat.succ_mul, List.take_add]
      simp [nth, apply]

/-- A page that starts behind the last row is empty. -/
theorem apply_eq_nil
    {paging : Paging}
    (past : rows.length ≤ paging.offset) :
    paging.apply rows = [] := by
  rw [apply, List.drop_eq_nil_of_le past, List.take_nil]

/-- The number of pages whose offset has at most 64 bits. -/
def countWithin64 (limit : Nat) : Nat :=
  (2 ^ 64 - 1) / limit + 1

theorem lt_countWithin64_iff
    (positive : 0 < limit)
    {index : Nat} :
    index < countWithin64 limit ↔ (nth limit index).offset < 2 ^ 64 := by
  rw [countWithin64, Nat.lt_succ_iff, Nat.le_div_iff_mul_le positive]
  change index * limit ≤ _ ↔ index * limit < _
  omega

/-- The pages whose offset has at most 64 bits reach as far as the offsets do. -/
theorem le_countWithin64_mul
    (positive : 0 < limit) :
    2 ^ 64 ≤ countWithin64 limit * limit := by
  have beyond := Nat.lt_div_mul_add (a := 2 ^ 64 - 1) positive
  rw [countWithin64, Nat.succ_mul]
  omega

/-! ## Offsets and limits as texts -/

theorem numberOf_natText
    (parameter : PagingParameter)
    {number : Nat}
    (fits : number < 2 ^ 64) :
    numberOf parameter (some (Text.natText number)) = .ok (some number) := by
  have visible : Text.Visible (Text.natDigits number) := (Text.AllDigits.natDigits number).visible
  have present :
      presentParameter (some (Text.natText number)) = some (Text.natText number) := by
    simp [presentParameter, Text.natText, Text.natDigits_ne_nil]
  have read : Text.unsignedWithin? 64 (Text.natDigits number) = some number := by
    rw [Text.unsignedWithin?, Text.unsigned?_natDigits]
    simpa using fits
  rw [numberOf, present]
  simp only [Text.natText, String.toList_ofList, visible.trim_eq, read]

/-- A range whose numbers have 64 bits is asked for by their digits. -/
theorem ofParameters_natText
    {paging : Paging}
    (offsetFits : paging.offset < 2 ^ 64)
    (limitFits : paging.limit < 2 ^ 64) :
    ofParameters (some (Text.natText paging.offset)) (some (Text.natText paging.limit)) =
      .ok (some paging) := by
  rw [ofParameters, numberOf_natText _ offsetFits, numberOf_natText _ limitFits]
  rfl

/--
The pages of a limit partition rows: the first pages are the first rows, those
whose offsets have 64 bits are exactly the ones that can be asked for and make
up all rows, and the pages past the end are empty.
-/
structure Partitions (limit : Nat) (rows : List α) : Prop where
  firsts : ∀ count, (firstPages limit count rows).flatten = rows.take (count * limit)
  all : rows.length ≤ 2 ^ 64 → (firstPages limit (countWithin64 limit) rows).flatten = rows
  within : ∀ index, index < countWithin64 limit ↔ (nth limit index).offset < 2 ^ 64
  asked :
    limit < 2 ^ 64 →
      ∀ index < countWithin64 limit,
        ofParameters (some (Text.natText (index * limit))) (some (Text.natText limit)) =
          .ok (some (nth limit index))
  past : ∀ paging : Paging, rows.length ≤ paging.offset → paging.apply rows = []

theorem partitions
    (positive : 0 < limit)
    (rows : List α) :
    Partitions limit rows where
  firsts := flatten_firstPages
  all short := by
    rw [flatten_firstPages]
    exact List.take_of_length_le (short.trans (le_countWithin64_mul positive))
  within _ := lt_countWithin64_iff positive
  asked limitFits index isWithin :=
    @ofParameters_natText (nth limit index) ((lt_countWithin64_iff positive).mp isWithin) limitFits
  past _ := apply_eq_nil

end

end Paging

/-! ## Bounded reads -/

namespace Query

/-- A bound on a range takes the first rows of the range. -/
theorem paged_capped
    (paging : Option Paging)
    (bound : Nat)
    (rows : List Record) :
    paged (Paging.capped paging (some bound)) rows = (paged paging rows).take bound := by
  cases paging with
  | none => rfl
  | some paging =>
      change (rows.drop paging.offset).take (min paging.limit bound) = _
      rw [min_comm, ← List.take_take]
      rfl

theorem execute_capped
    (sorter : Sorter)
    (session : Session)
    (table : Table)
    (query : ReadQuery)
    (bound : Nat) :
    execute sorter session table { query with paging := Paging.capped query.paging (some bound) } =
      (execute sorter session table query).map (Option.map (List.take bound)) := by
  rw [execute, execute]
  cases checkSort table query.sort with
  | error failure => rfl
  | ok _ =>
      cases session.scan table with
      | error failure => rfl
      | ok scanned =>
          change (matching table query.predicate scanned >>= _) =
            Except.map _ (matching table query.predicate scanned >>= _)
          cases matching table query.predicate scanned with
          | error failure => rfl
          | ok rows =>
              refine congrArg Except.ok ?_
              dsimp only
              rw [Option.map_map]
              exact congrArg (Option.map · _) (funext (paged_capped query.paging bound))

end Query

namespace Service

/-- The query of a read. -/
def readQuery
    (service : Service)
    (table : Table)
    (parameters : ReadParameters)
    (filter : Option Filter) :
    Except Failure ReadQuery := do
  let predicate ← predicate table filter
  let sort ← SortKey.ofParameters table parameters.orderBy parameters.direction
  let paging ← Paging.ofParameters parameters.offset parameters.limit
  return ⟨predicate, sort, service.configuration.capPaging paging⟩

/-- The records that a read returns. -/
def readRecords
    (service : Service)
    (table : Table)
    (parameters : ReadParameters)
    (filter : Option Filter) :
    Except Failure (List Record) := do
  let query ← service.readQuery table parameters filter
  service.inSession fun session => do
    finished (← Query.execute service.sorter session table query)

/-- The service with another bound on the number of records of a read. -/
def bounded (service : Service) (bound : Option Nat) : Service :=
  { service with configuration := { service.configuration with maxLimit := bound } }

variable {service : Service}

theorem finished_eq_ok
    {returned : Option (List Record)}
    {records : List Record} :
    finished returned = .ok records ↔ returned = some records := by
  cases returned <;> simp [finished]

/-- Records that are there may be cut before the work is finished or after it. -/
theorem finished_map
    (change : List Record → List Record)
    (returned : Option (List Record)) :
    finished (returned.map change) = (finished returned).map change := by
  cases returned <;> rfl

theorem inSession_eq_ok
    {α : Type}
    {work : Session → Except Failure α}
    {result : α} :
    service.inSession work = .ok result ↔
      ∃ session,
        service.store.session = .ok session ∧
          work session = .ok result ∧ service.store.commit = .ok () := by
  simp only [inSession, Outcome.bind_eq_ok, Outcome.pure_eq_ok]
  constructor
  · rintro ⟨session, opened, value, worked, _, committed, rfl⟩
    exact ⟨session, opened, worked, committed⟩
  · rintro ⟨session, opened, worked, committed⟩
    exact ⟨session, opened, result, worked, (), committed, rfl⟩

/-- A read answers with the text of the records that it returns. -/
theorem read_eq_ok_iff
    {schema name formatName : String}
    {parameters : ReadParameters}
    {filter : Option Filter}
    {response : Response} :
    service.read schema name formatName parameters filter = .ok response ↔
      ∃ format table records body,
        Service.format formatName = .ok format ∧
          service.table schema name = .ok table ∧
          service.readRecords table parameters filter = .ok records ∧
          serialize table format records = .ok body ∧
          response = .formatted format body := by
  simp only [read, readRecords, readQuery, Outcome.bind_eq_ok, Outcome.pure_eq_ok,
    inSession_eq_ok, finished_eq_ok, exists_eq_right]
  constructor
  · rintro ⟨format, isFormat, table, isTable, predicate, compiled, sort, isSort, paging, isPaging,
      body, ⟨session, opened, ⟨_, executed, records, rfl, written⟩, committed⟩, rfl⟩
    exact ⟨format, table, records, body, isFormat, isTable,
      ⟨_, ⟨predicate, compiled, sort, isSort, paging, isPaging, rfl⟩, session, opened, executed,
        committed⟩, written, rfl⟩
  · rintro ⟨format, table, records, body, isFormat, isTable,
      ⟨_, ⟨predicate, compiled, sort, isSort, paging, isPaging, rfl⟩, session, opened, executed,
        committed⟩, written, rfl⟩
    exact ⟨format, isFormat, table, isTable, predicate, compiled, sort, isSort, paging, isPaging,
      body, ⟨session, opened, ⟨_, executed, records, rfl, written⟩, committed⟩, rfl⟩

theorem inSession_map
    {α β : Type}
    (work : Session → Except Failure α)
    (change : α → β) :
    service.inSession (fun session => (work session).map change) =
      (service.inSession work).map change := by
  rw [inSession, inSession]
  cases service.store.session with
  | error failure => rfl
  | ok session =>
      change ((work session).map change >>= _) = Except.map change (work session >>= _)
      cases work session with
      | error failure => rfl
      | ok result => cases service.store.commit <;> rfl

/-- A bound changes nothing but the range of the query. -/
theorem readQuery_bounded
    (bound : Nat)
    (table : Table)
    (parameters : ReadParameters)
    (filter : Option Filter) :
    (service.bounded (some bound)).readQuery table parameters filter =
      ((service.bounded none).readQuery table parameters filter).map fun query =>
        { query with paging := Paging.capped query.paging (some bound) } := by
  rw [readQuery, readQuery]
  cases predicate table filter with
  | error failure => rfl
  | ok predicate =>
      cases SortKey.ofParameters table parameters.orderBy parameters.direction with
      | error failure => rfl
      | ok sort => cases Paging.ofParameters parameters.offset parameters.limit <;> rfl

/-- A bounded read returns the first of the records that it returns without the bound. -/
theorem readRecords_bounded
    (bound : Nat)
    (table : Table)
    (parameters : ReadParameters)
    (filter : Option Filter) :
    (service.bounded (some bound)).readRecords table parameters filter =
      ((service.bounded none).readRecords table parameters filter).map fun records =>
        records.take (min bound records.length) := by
  rw [readRecords, readRecords, readQuery_bounded]
  cases (service.bounded none).readQuery table parameters filter with
  | error failure => rfl
  | ok query =>
      change service.inSession _ = Except.map _ (service.inSession _)
      rw [← inSession_map]
      refine congrArg service.inSession (funext fun session => ?_)
      dsimp only
      rw [Query.execute_capped]
      simp only [← List.take_eq_take_min]
      change (Query.execute service.sorter session table query).map _ >>= finished =
        Except.map _ (Query.execute service.sorter session table query >>= finished)
      cases Query.execute service.sorter session table query with
      | error failure => rfl
      | ok returned => exact finished_map (List.take bound) returned

/--
The pages of a positive limit partition the rows.  With a bound on the number
of its records a read returns the first of the records that it returns without
the bound, as many as there are within it, and answers with their text; it
fails as it does without the bound.
-/
theorem pages_partition_and_bounds_truncate :
    (∀ {α : Type} (rows : List α) (limit : Nat), 0 < limit → Paging.Partitions limit rows) ∧
    ∀ (service : Service) (bound : Nat) (parameters : ReadParameters) (filter : Option Filter),
      (∀ table,
        (service.bounded (some bound)).readRecords table parameters filter =
          ((service.bounded none).readRecords table parameters filter).map fun records =>
            records.take (min bound records.length)) ∧
      ∀ schema name formatName response,
        (service.bounded (some bound)).read schema name formatName parameters filter =
            .ok response ↔
          ∃ format table records body,
            Service.format formatName = .ok format ∧
              service.table schema name = .ok table ∧
              (service.bounded none).readRecords table parameters filter = .ok records ∧
              serialize table format (records.take (min bound records.length)) = .ok body ∧
              response = .formatted format body := by
  refine ⟨fun rows limit positive => Paging.partitions positive rows,
    fun service bound parameters filter => ⟨fun table => ?_, fun _ _ _ _ => ?_⟩⟩
  · exact readRecords_bounded bound table parameters filter
  · simp only [read_eq_ok_iff, readRecords_bounded, Outcome.map_eq_ok]
    constructor
    · rintro ⟨format, table, _, body, isFormat, isTable, ⟨records, isRead, rfl⟩, written, rfl⟩
      exact ⟨format, table, records, body, isFormat, isTable, isRead, written, rfl⟩
    · rintro ⟨format, table, records, body, isFormat, isTable, isRead, written, rfl⟩
      exact ⟨format, table, _, body, isFormat, isTable, ⟨records, isRead, rfl⟩, written, rfl⟩

/-- A service for the parcels of a session. -/
def parcelService : Service where
  configuration := .standard
  registry := .empty
  store := ⟨"memory", .ok Query.mixedSession, .ok ()⟩
  sorter := .insertion

/-- A read with an offset, which does not count without a limit. -/
def offsetOnly : ReadParameters :=
  ⟨none, none, some "1", none⟩

/-- Five parcels make three pages of two, and a bound of three keeps the first three of them. -/
theorem pages_partition_and_bounds_truncate_mixed :
    (Paging.firstPages 2 3 Query.mixedParcels).flatten = Query.mixedParcels ∧
      (Paging.firstPages 2 (Paging.countWithin64 2) Query.mixedParcels).flatten =
        Query.mixedParcels ∧
      Paging.ofParameters (some "4") (some "2") = .ok (some ⟨4, 2⟩) ∧
      (⟨6, 2⟩ : Paging).apply Query.mixedParcels = [] ∧
      (parcelService.bounded (some 3)).readRecords parcelsTable offsetOnly none =
        .ok (Query.mixedParcels.take 3) := by
  have partitions : Paging.Partitions 2 Query.mixedParcels :=
    pages_partition_and_bounds_truncate.1 Query.mixedParcels 2 (by decide)
  have bounded := (pages_partition_and_bounds_truncate.2 parcelService 3 offsetOnly none).1
  refine ⟨partitions.firsts 3, partitions.all (by decide),
    partitions.asked (by decide) 2 (by decide), ?_, ?_⟩
  · exact partitions.past ⟨6, 2⟩ (by decide)
  · rw [bounded]
    rfl

end Service

end GeoTables
