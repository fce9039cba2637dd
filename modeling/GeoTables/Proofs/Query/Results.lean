import GeoTables.Proofs.Query.NullLogic
import GeoTables.Proofs.Query.Sorting

/-!
# What a query returns

A query whose predicate has an outcome for every scanned record returns a page
of the records that pass, unless it has to sort them and the sort gives up.
Without a sort key they come as they were scanned.  With one they are a
permutation of that, and if the values they are sorted by are in a total
preorder, the sort does not give up, each row precedes those that come after it,
nulls come first in an ascending and last in a descending sort, and rows that
are sorted alike come as they were scanned.
-/

namespace GeoTables

namespace SortKey

/-- Of two rows that come one after the other, where a null may be. -/
def PlacesNulls (key : SortKey) (left right : Record) : Prop :=
  match key.direction with
  | .ascending => key.valueOf right = .null → key.valueOf left = .null
  | .descending => key.valueOf left = .null → key.valueOf right = .null

/-- A null comes before all other values. -/
theorem eq_null_of_compareValues
    {value : Value}
    (notGreater : compareValues value .null ≠ .gt) :
    value = .null := by
  cases value with
  | null => rfl
  | _ => exact absurd rfl notGreater

theorem Precedes.placesNulls
    {key : SortKey}
    {left right : Record}
    (precedes : key.Precedes left right) :
    key.PlacesNulls left right := by
  unfold PlacesNulls
  unfold Precedes compareRows at precedes
  cases direction : key.direction with
  | ascending =>
      simp only [direction] at precedes ⊢
      intro isNull
      rw [← valueOf, ← valueOf, isNull] at precedes
      exact eq_null_of_compareValues precedes
  | descending =>
      simp only [direction, ← compareValues_swap] at precedes ⊢
      intro isNull
      rw [← valueOf, ← valueOf, isNull] at precedes
      exact eq_null_of_compareValues precedes

end SortKey

namespace Query

/-- The predicate of a query, if it has one, has an outcome for the record. -/
def Evaluates (test : Option Predicate) (record : Record) : Prop :=
  ∀ predicate, test = some predicate → ∃ outcome, predicate.holds record = .ok outcome

/-- The predicate of a query, if it has one, holds of the record. -/
def passes (test : Option Predicate) (record : Record) : Bool :=
  match test with
  | none => true
  | some predicate =>
      match predicate.holds record with
      | .ok outcome => outcome
      | .error _ => false

/-- The records of a query are those that pass. -/
theorem matching_eq_filter
    {table : Table}
    {test : Option Predicate}
    {records : List Record}
    (evaluates : ∀ record ∈ records, Evaluates test record) :
    matching table test records = .ok (records.filter (passes test)) := by
  cases test with
  | none => exact congrArg Except.ok (List.filter_true records).symm
  | some predicate =>
      apply selected_eq_filter
      intro record member
      obtain ⟨outcome, holds⟩ := evaluates record member predicate rfl
      rw [passes, holds]

/-- The rows of a result before it is cut, and how they stand. -/
structure Arranges (sort : Option SortKey) (matched rows : List Record) : Prop where
  complete : rows.Perm matched
  asScanned : sort = none → rows = matched
  ordered :
    ∀ key, sort = some key → SortKey.IsPreorderOn (matched.map key.valueOf) →
      rows.Pairwise key.Precedes ∧ rows.Pairwise key.PlacesNulls
  stable :
    ∀ key, sort = some key → SortKey.IsPreorderOn (matched.map key.valueOf) →
      ∀ row ∈ matched, rows.filter (key.ties row) = matched.filter (key.ties row)

theorem Arranges.of_sorted
    {sorter : Sorter}
    {sort : Option SortKey}
    {matched rows : List Record}
    (returned : sorted sorter sort matched = some rows) :
    Arranges sort matched rows := by
  cases sort with
  | none =>
      cases returned
      exact ⟨.refl matched, fun _ => rfl, nofun, nofun⟩
  | some key =>
      have known (preorder : SortKey.IsPreorderOn (matched.map key.valueOf)) :
          rows = key.sort matched :=
        Option.some.inj (returned.symm.trans (sorter.agrees preorder))
      refine ⟨sorter.perm returned, nofun, ?_, ?_⟩
      · rintro _ ⟨⟩ preorder
        have ordered := SortKey.pairwise_sort preorder
        rw [← known preorder] at ordered
        exact ⟨ordered, ordered.imp SortKey.Precedes.placesNulls⟩
      · rintro _ ⟨⟩ preorder row isRow
        rw [known preorder]
        exact SortKey.filter_ties_sort preorder isRow

/-- Rows are not sorted, or by values that are in a total preorder. -/
def IsSettled (sort : Option SortKey) (rows : List Record) : Prop :=
  ∀ key, sort = some key → SortKey.IsPreorderOn (rows.map key.valueOf)

/-- A sort does not give up on rows that are settled. -/
theorem IsSettled.isSome_sorted
    {sort : Option SortKey}
    {rows : List Record}
    (settled : IsSettled sort rows)
    (sorter : Sorter) :
    (sorted sorter sort rows).isSome := by
  cases sort with
  | none => rfl
  | some key => rw [sorted, sorter.agrees (settled key rfl), Option.isSome_some]

/-- The page of a range: all rows without one, else `limit` of them from `offset` on. -/
def IsPage (paging : Option Paging) (rows page : List Record) : Prop :=
  match paging with
  | none => page = rows
  | some range =>
      ∀ index,
        page[index]? = if index < range.limit then rows[range.offset + index]? else none

theorem isPage_paged
    (paging : Option Paging)
    (rows : List Record) :
    IsPage paging rows (paged paging rows) := by
  cases paging with
  | none => rfl
  | some range =>
      intro index
      rw [paged, Paging.apply, List.getElem?_take, List.getElem?_drop]

/-- A key that names a column may be sorted by. -/
theorem checkSort_eq_ok
    {table : Table}
    {sort : Option SortKey}
    (sortable : ∀ key, sort = some key → (table.column? key.column).isSome) :
    checkSort table sort = .ok () := by
  cases isSort : sort with
  | none => rfl
  | some key => exact if_pos (sortable key isSort)

/--
If its predicate can be evaluated on all scanned records, a query that sorts by
a column of the table does not fail.  Unless the sort gives up, which it does
not do on values that are in a total preorder, the query returns a page of the
records that pass, arranged by its sort key; the offset and the limit of the
page may be any numbers.
-/
theorem execute_returns_arranged_page
    {sorter : Sorter}
    {session : Session}
    {table : Table}
    {query : ReadQuery}
    {records : List Record}
    (sortable : ∀ key, query.sort = some key → (table.column? key.column).isSome)
    (scanned : session.scan table = .ok records)
    (evaluates : ∀ record ∈ records, Evaluates query.predicate record) :
    ∃ returned,
      execute sorter session table query = .ok returned ∧
        (IsSettled query.sort (records.filter (passes query.predicate)) → returned.isSome) ∧
        ∀ page, returned = some page →
          ∃ rows,
            Arranges query.sort (records.filter (passes query.predicate)) rows ∧
              IsPage query.paging rows page := by
  have executed :
      execute sorter session table query =
        .ok ((sorted sorter query.sort (records.filter (passes query.predicate))).map
          (paged query.paging)) := by
    rw [execute, checkSort_eq_ok sortable, scanned]
    dsimp only [bind, Except.bind]
    rw [matching_eq_filter evaluates]
    rfl
  refine ⟨_, executed, fun settled => ?_, fun page isPage => ?_⟩
  · rw [Option.isSome_map]
    exact settled.isSome_sorted sorter
  · obtain ⟨rows, returned, rfl⟩ := Option.map_eq_some_iff.mp isPage
    exact ⟨rows, .of_sorted returned, isPage_paged query.paging rows⟩

/-! ## A page of parcels -/

/-- Parcels of which two have one number, one has none and one is measured. -/
def mixedParcels : List Record :=
  [.ofFields [("id", .int 2)],
    .ofFields [("id", .int 5), ("area", .decimal .zero)],
    .ofFields [],
    .ofFields [("id", .int 2), ("site", .geometry (.point ⟨.zero, .zero⟩))],
    .ofFields [("id", .int 3)]]

/-- A session that sees these parcels in every table. -/
def mixedSession : Session :=
  ⟨fun _ => .ok mixedParcels⟩

/-- Numbers from the greatest to the least. -/
def byFallingNumber : SortKey := ⟨"id", .descending⟩

/-- Parcels that are not measured, by falling number, all but the first of them. -/
def unmeasuredParcels : ReadQuery :=
  ⟨some (.isNull "area"), some byFallingNumber, some ⟨1, 18446744073709551615⟩⟩

/-- The page of unmeasured parcels comes in order and has no null but at its end. -/
theorem execute_returns_arranged_page_unmeasured :
    ∃ rows page,
      execute .insertion mixedSession parcelsTable unmeasuredParcels = .ok (some page) ∧
        rows.Perm (mixedParcels.filter (passes unmeasuredParcels.predicate)) ∧
        rows.Pairwise byFallingNumber.Precedes ∧
        rows.Pairwise byFallingNumber.PlacesNulls ∧
        IsPage unmeasuredParcels.paging rows page := by
  have sortable :
      ∀ key, unmeasuredParcels.sort = some key → (parcelsTable.column? key.column).isSome := by
    rintro _ ⟨⟩
    rfl
  have scanned : mixedSession.scan parcelsTable = .ok mixedParcels := rfl
  have evaluates :
      ∀ record ∈ mixedParcels, Evaluates unmeasuredParcels.predicate record := by
    rintro record _ _ ⟨⟩
    exact ⟨_, rfl⟩
  have preorder :
      SortKey.IsPreorderOn
        ((mixedParcels.filter (passes unmeasuredParcels.predicate)).map
          byFallingNumber.valueOf) := by
    decide +kernel
  obtain ⟨returned, executed, ends, isPage⟩ :=
    @execute_returns_arranged_page .insertion _ _ _ _ sortable scanned evaluates
  have settled : IsSettled unmeasuredParcels.sort
      (mixedParcels.filter (passes unmeasuredParcels.predicate)) := by
    rintro _ ⟨⟩
    exact preorder
  obtain ⟨page, rfl⟩ := Option.isSome_iff_exists.mp (ends settled)
  obtain ⟨rows, arranged, isPage⟩ := isPage page rfl
  have ordered := arranged.ordered byFallingNumber rfl preorder
  exact ⟨rows, page, executed, arranged.complete, ordered.1, ordered.2, isPage⟩

end Query

end GeoTables
