import GeoTables.Failure
import GeoTables.Table.Record
import GeoTables.Text.Ascii
import GeoTables.Value.Comparison

/-!
# Order and range of a query

Rows are sorted by one column.  Nulls come before all other values, values
that are not comparable count as equal, and rows that count as equal stay in
their order, in either direction.

So far as values are not comparable, what counts as equal need not be
transitive.  A stable sort makes no promise then but that it loses no row, and
not even that it comes to an end: it may notice that the comparison is no order
and give up.

A range of rows is asked for by an offset and a limit.  Both are checked, and
they apply only together.
-/

namespace GeoTables

/-- The direction of a sort. -/
inductive SortDirection where
  | ascending
  | descending
  deriving DecidableEq, Repr

namespace SortDirection

/-- The keyword of the direction. -/
def keyword : SortDirection → String
  | .ascending => "ASC"
  | .descending => "DESC"

/-- The direction that a text names, without regard to blanks and letter case. -/
def ofText? (text : String) : Option SortDirection :=
  let word := Text.lowerAscii (Text.trimmed text)
  if word = "asc" ∨ word = "ascending" then
    some .ascending
  else if word = "desc" ∨ word = "descending" then
    some .descending
  else
    none

end SortDirection

/-- A parameter, unless it is empty. -/
def presentParameter (parameter : Option String) : Option String :=
  parameter.filter fun text => !text.isEmpty

/-- What rows are sorted by. -/
structure SortKey where
  column : String
  direction : SortDirection
  deriving DecidableEq, Repr

namespace SortKey

/-- The direction of a parameter, ascending if there is none. -/
def directionOf : Option String → Except Failure SortDirection
  | none => .ok .ascending
  | some text =>
      match SortDirection.ofText? text with
      | some direction => .ok direction
      | none => .error (.invalidDirection text)

/-- The sort key of two parameters; the column must exist and hold no relationship. -/
def ofParameters
    (table : Table)
    (orderBy direction : Option String) :
    Except Failure (Option SortKey) :=
  match presentParameter orderBy, presentParameter direction with
  | none, none => .ok none
  | none, some _ => .error .directionWithoutOrder
  | some column, direction =>
      if (table.column? column).any fun found => !found.isRelationship then do
        return some ⟨column, ← directionOf direction⟩
      else
        .error (.unknownSortColumn column)

/-- The order of two values of a column. -/
def compareValues : Value → Value → Ordering
  | .null, .null => .eq
  | .null, _ => .lt
  | _, .null => .gt
  | left, right => (left.compare? right).getD .eq

/-- The order of two rows. -/
def compareRows (key : SortKey) (left right : Record) : Ordering :=
  let order := compareValues (left.get key.column) (right.get key.column)
  match key.direction with
  | .ascending => order
  | .descending => order.swap

/--
Insert a row into reversed sorted rows: before all rows that are not greater,
which stand before it once the order is reversed.
-/
def insertRow (key : SortKey) (row : Record) : List Record → List Record
  | [] => [row]
  | last :: rest =>
      if key.compareRows row last == .lt then
        last :: insertRow key row rest
      else
        row :: last :: rest

/-- The rows in the order of the key. -/
def sort (key : SortKey) (rows : List Record) : List Record :=
  (rows.foldl (fun sorted row => insertRow key row sorted) []).reverse

theorem insertRow_perm (key : SortKey) (row : Record) (sorted : List Record) :
    (insertRow key row sorted).Perm (row :: sorted) := by
  induction sorted with
  | nil => exact .refl _
  | cons last rest induction =>
      rw [insertRow]
      split
      · exact (induction.cons last).trans (.swap row last rest)
      · exact .refl _

/-- Sorting loses no row and adds none. -/
theorem sort_perm (key : SortKey) (rows : List Record) : (key.sort rows).Perm rows := by
  have inserted :
      ∀ sorted : List Record,
        (rows.foldl (fun sorted row => insertRow key row sorted) sorted).Perm
          (rows.reverse ++ sorted) := by
    induction rows with
    | nil => exact fun sorted => .refl _
    | cons row rest induction =>
        intro sorted
        rw [List.reverse_cons, List.append_assoc]
        exact (induction _).trans ((insertRow_perm key row sorted).append_left _)
  have all := inserted []
  rw [List.append_nil] at all
  exact ((List.reverse_perm _).trans all).trans (List.reverse_perm rows)

/-- The value that a row is sorted by. -/
def valueOf (key : SortKey) (row : Record) : Value :=
  row.get key.column

/--
On these values the comparison is a total preorder.  Any two of them are in
order, so what this asks for is that the order can be followed from one to the
next.
-/
def IsPreorderOn (values : List Value) : Prop :=
  ∀ first ∈ values, ∀ second ∈ values, ∀ third ∈ values,
    compareValues first second ≠ .gt →
      compareValues second third ≠ .gt → compareValues first third ≠ .gt

instance (values : List Value) : Decidable (IsPreorderOn values) :=
  inferInstanceAs (Decidable (∀ first ∈ values, ∀ second ∈ values, ∀ third ∈ values, _ → _ → _))

end SortKey

/--
A stable sort with no more promises than it makes.  Rows whose values are in a
total preorder have one result.  All other rows may come in any order, and the
sort of them may give up.
-/
structure Sorter where
  sort : SortKey → List Record → Option (List Record)
  perm : ∀ {key rows sorted}, sort key rows = some sorted → sorted.Perm rows
  agrees :
    ∀ {key : SortKey} {rows},
      SortKey.IsPreorderOn (rows.map key.valueOf) → sort key rows = some (key.sort rows)

/-- The sort that inserts row after row and never gives up. -/
def Sorter.insertion : Sorter where
  sort key rows := some (key.sort rows)
  perm := by
    rintro key rows _ ⟨⟩
    exact key.sort_perm rows
  agrees _ := rfl

/-- A range of rows. -/
structure Paging where
  offset : Nat
  limit : Nat
  deriving DecidableEq, Repr

namespace Paging

/-- The number of a parameter of 64 bits. -/
def numberOf
    (parameter : PagingParameter)
    (text : Option String) :
    Except Failure (Option Nat) :=
  match presentParameter text with
  | none => .ok none
  | some text =>
      match Text.unsignedWithin? 64 (Text.trim text.toList) with
      | some number => .ok (some number)
      | none => .error (.invalidPaging parameter text)

/-- The range of two parameters. -/
def ofParameters (offset limit : Option String) : Except Failure (Option Paging) := do
  let offset ← numberOf .offset offset
  let limit ← numberOf .limit limit
  match offset, limit with
  | some offset, some limit => return some ⟨offset, limit⟩
  | _, _ => return none

/-- The rows of the range. -/
def apply {α : Type} (paging : Paging) (rows : List α) : List α :=
  (rows.drop paging.offset).take paging.limit

/-- The range with at most as many rows as a bound says, if there is one. -/
def capped (paging : Option Paging) : Option Nat → Option Paging
  | none => paging
  | some bound =>
      match paging with
      | none => some ⟨0, bound⟩
      | some paging => some ⟨paging.offset, min paging.limit bound⟩

end Paging

end GeoTables
