import GeoTables.Proofs.Query.Results
import GeoTables.Proofs.Query.Trichotomy
import GeoTables.Proofs.Table.Single
import GeoTables.Proofs.Value.Order

/-!
# Sorts that are orders

A sort key is accepted for every column that is no relationship.  Whether its
values can be sorted depends on the column.  In a column of scalars of a known
type any two values have an order, and it can be followed from one to the next.
Geometries have no order at all, and scalars of no known type have one only
among truth values, among numbers and among texts; among numbers it can be
followed unless a floating-point number is equal to two integers of which one
is less than the other.
-/

namespace GeoTables

/-! ## Total orders of values -/

namespace SortKey

/-- Any two of the values have an order, nulls apart, and it can be followed. -/
structure AreTotallyOrdered (values : List Value) : Prop where
  comparable :
    ∀ left ∈ values, ∀ right ∈ values,
      left ≠ .null → right ≠ .null → (left.compare? right).isSome
  preordered : IsPreorderOn values

variable {values : List Value}

theorem compareValues_ne_gt_iff
    {left right : Value}
    (leftPresent : left ≠ .null)
    (rightPresent : right ≠ .null) :
    compareValues left right ≠ .gt ↔ left.AtMost right := by
  have ordered : compareValues left right = (left.compare? right).getD .eq := by
    cases left <;> cases right <;> first | rfl | contradiction
  rw [ordered, Value.AtMost]
  cases left.compare? right <;> simp

/-- Only an order of values that are not null needs to be followed. -/
theorem isPreorderOn_iff :
    IsPreorderOn values ↔
      ∀ first ∈ values, ∀ second ∈ values, ∀ third ∈ values,
        first ≠ .null → second ≠ .null → third ≠ .null →
          first.AtMost second → second.AtMost third → first.AtMost third := by
  constructor
  · intro preorder first isFirst second isSecond third isThird firstPresent secondPresent
      thirdPresent
    rw [← compareValues_ne_gt_iff firstPresent secondPresent,
      ← compareValues_ne_gt_iff secondPresent thirdPresent,
      ← compareValues_ne_gt_iff firstPresent thirdPresent]
    exact preorder first isFirst second isSecond third isThird
  · intro follows first isFirst second isSecond third isThird before after
    by_cases firstPresent : first = .null
    · subst firstPresent
      cases third <;> exact nofun
    · -- What a value that is not null may precede is not null either.
      have secondPresent : second ≠ .null := by
        rintro rfl
        exact firstPresent (eq_null_of_compareValues before)
      have thirdPresent : third ≠ .null := by
        rintro rfl
        exact secondPresent (eq_null_of_compareValues after)
      rw [compareValues_ne_gt_iff firstPresent secondPresent] at before
      rw [compareValues_ne_gt_iff secondPresent thirdPresent] at after
      rw [compareValues_ne_gt_iff firstPresent thirdPresent]
      exact follows first isFirst second isSecond third isThird firstPresent secondPresent
        thirdPresent before after

/-- Values of one variant are ordered as a transitive comparison orders their contents. -/
theorem AreTotallyOrdered.of_compares
    {α : Type}
    {compares : α → α → Ordering}
    [Std.TransCmp compares]
    (wrap : α → Value)
    (ordered : ∀ left right, (wrap left).compare? (wrap right) = some (compares left right))
    (wrapped : ∀ value ∈ values, value ≠ .null → ∃ content, value = wrap content) :
    AreTotallyOrdered values where
  comparable := by
    intro left isLeft right isRight leftPresent rightPresent
    obtain ⟨leftContent, rfl⟩ := wrapped left isLeft leftPresent
    obtain ⟨rightContent, rfl⟩ := wrapped right isRight rightPresent
    exact Option.isSome_of_eq_some (ordered leftContent rightContent)
  preordered := by
    rw [isPreorderOn_iff]
    intro first isFirst second isSecond third isThird firstPresent secondPresent thirdPresent
    obtain ⟨firstContent, rfl⟩ := wrapped first isFirst firstPresent
    obtain ⟨secondContent, rfl⟩ := wrapped second isSecond secondPresent
    obtain ⟨thirdContent, rfl⟩ := wrapped third isThird thirdPresent
    exact Value.AtMost.trans_of_compares ordered

/-- Numbers are totally ordered exactly if they are not blurred. -/
theorem areTotallyOrdered_iff_of_numbers
    (numbers : ∀ value ∈ values, value ≠ .null → value.place?.isSome) :
    AreTotallyOrdered values ↔ ¬Value.AreBlurred values := by
  constructor
  · rintro ⟨_, preordered⟩ ⟨number, left, right, isNumber, isLeft, isRight, blurs⟩
    obtain ⟨before, after, behind⟩ := blurs.not_trans
    exact behind (isPreorderOn_iff.mp preordered _ isRight _ isNumber _ isLeft nofun nofun nofun
      before after)
  · intro clear
    constructor
    · intro left isLeft right isRight leftPresent rightPresent
      obtain ⟨leftPlace, leftStands⟩ :=
        Option.isSome_iff_exists.mp (numbers left isLeft leftPresent)
      obtain ⟨rightPlace, rightStands⟩ :=
        Option.isSome_iff_exists.mp (numbers right isRight rightPresent)
      rcases Value.compare?_of_place? leftStands rightStands with ordered | ⟨_, _, rfl, rfl⟩
      · exact Option.isSome_of_eq_some ordered
      · rfl
    · rw [isPreorderOn_iff]
      intro first isFirst second isSecond third isThird firstPresent secondPresent thirdPresent
      exact Value.AtMost.trans_of_not_areBlurred clear isFirst isSecond isThird
        (numbers first isFirst firstPresent) (numbers second isSecond secondPresent)
        (numbers third isThird thirdPresent)

/-- Floating-point numbers are totally ordered if all of them are numbers. -/
theorem AreTotallyOrdered.of_floats
    (floats : ∀ value ∈ values, value ≠ .null → ∃ number, value = .float number)
    (ordinary : .float .nan ∉ values) :
    AreTotallyOrdered values := by
  have numbers : ∀ value ∈ values, value ≠ .null → value.place?.isSome := by
    intro value isValue present
    obtain ⟨number, rfl⟩ := floats value isValue present
    exact Value.isSome_place?_of_mem ordinary isValue
  rw [areTotallyOrdered_iff_of_numbers numbers]
  rintro ⟨_, left, _, _, isLeft, _⟩
  obtain ⟨_, isFloat⟩ := floats _ isLeft nofun
  cases isFloat

/-- The float that is no number has no order, not even with itself. -/
theorem AreTotallyOrdered.nan_not_mem
    (ordered : AreTotallyOrdered values) :
    .float .nan ∉ values := by
  intro isNan
  cases ordered.comparable _ isNan _ isNan nofun nofun

end SortKey

/-! ## Scalars of no known type -/

/-- The kinds of scalars that a column of no known type may hold. -/
inductive ScalarKind where
  | truth
  | number
  | text
  deriving DecidableEq

namespace Value

/-- The kind of a scalar of no known type. -/
def scalarKind? : Value → Option ScalarKind
  | .bool _ => some .truth
  | .int _ | .float _ => some .number
  | .string _ => some .text
  | _ => none

/-- All values that are not null are of one kind. -/
def AreOfOneKind (values : List Value) : Prop :=
  ∃ kind, ∀ value ∈ values, value ≠ .null → value.scalarKind? = some kind

/-- Scalars that have an order are of one kind. -/
theorem scalarKind?_eq_of_compare?
    {left right : Value}
    (leftScalar : left.IsScalar)
    (rightScalar : right.IsScalar)
    (ordered : (left.compare? right).isSome) :
    left.scalarKind? = right.scalarKind? := by
  cases leftScalar <;> cases rightScalar <;> first | rfl | cases ordered

end Value

namespace SortKey

variable {values : List Value}

theorem areOfOneKind_of_areTotallyOrdered
    (scalars : ∀ value ∈ values, value.IsScalar)
    (ordered : AreTotallyOrdered values) :
    Value.AreOfOneKind values := by
  by_cases present : ∃ value ∈ values, value ≠ .null
  · obtain ⟨value, isValue, valuePresent⟩ := present
    obtain ⟨kind, isKind⟩ : ∃ kind, value.scalarKind? = some kind := by
      cases scalars value isValue with
      | null => exact absurd rfl valuePresent
      | _ => exact ⟨_, rfl⟩
    refine ⟨kind, ?_⟩
    intro other isOther otherPresent
    rw [← isKind]
    exact Value.scalarKind?_eq_of_compare? (scalars other isOther) (scalars value isValue)
      (ordered.comparable other isOther value isValue otherPresent valuePresent)
  · refine ⟨.truth, ?_⟩
    intro value isValue valuePresent
    exact absurd ⟨value, isValue, valuePresent⟩ present

/-- Numbers have a place, unless one of them is the float that is no number. -/
theorem isSome_place?_of_kind
    (ordinary : .float .nan ∉ values)
    (ofKind : ∀ value ∈ values, value ≠ .null → value.scalarKind? = some .number) :
    ∀ value ∈ values, value ≠ .null → value.place?.isSome := by
  intro value isValue valuePresent
  have kind := ofKind value isValue valuePresent
  cases value <;> try cases kind
  case int => rfl
  case float => exact Value.isSome_place?_of_mem ordinary isValue

/-- Values of a kind that is not the one of numbers are not blurred. -/
theorem not_areBlurred_of_kind
    {kind : ScalarKind}
    (other : kind ≠ .number)
    (ofKind : ∀ value ∈ values, value ≠ .null → value.scalarKind? = some kind) :
    ¬Value.AreBlurred values := by
  rintro ⟨number, _, _, isNumber, _⟩
  exact other (Option.some.inj (ofKind _ isNumber nofun)).symm

theorem areTotallyOrdered_of_kind
    {kind : ScalarKind}
    (other : kind ≠ .number)
    (ofKind : ∀ value ∈ values, value ≠ .null → value.scalarKind? = some kind) :
    AreTotallyOrdered values := by
  cases kind with
  | number => exact absurd rfl other
  | truth =>
      apply AreTotallyOrdered.of_compares .bool fun _ _ => rfl
      intro value isValue valuePresent
      have kind := ofKind value isValue valuePresent
      cases value <;> cases kind
      exact ⟨_, rfl⟩
  | text =>
      apply AreTotallyOrdered.of_compares .string fun _ _ => rfl
      intro value isValue valuePresent
      have kind := ofKind value isValue valuePresent
      cases value <;> cases kind
      exact ⟨_, rfl⟩

/-- Scalars are totally ordered exactly if they are of one kind and not blurred. -/
theorem areTotallyOrdered_iff_of_scalars
    (scalars : ∀ value ∈ values, value.IsScalar)
    (ordinary : .float .nan ∉ values) :
    AreTotallyOrdered values ↔ Value.AreOfOneKind values ∧ ¬Value.AreBlurred values := by
  constructor
  · intro ordered
    obtain ⟨kind, ofKind⟩ := areOfOneKind_of_areTotallyOrdered scalars ordered
    refine ⟨⟨kind, ofKind⟩, ?_⟩
    by_cases isNumber : kind = .number
    · subst isNumber
      exact (areTotallyOrdered_iff_of_numbers (isSome_place?_of_kind ordinary ofKind)).mp ordered
    · exact not_areBlurred_of_kind isNumber ofKind
  · rintro ⟨⟨kind, ofKind⟩, clear⟩
    by_cases isNumber : kind = .number
    · subst isNumber
      exact (areTotallyOrdered_iff_of_numbers (isSome_place?_of_kind ordinary ofKind)).mpr clear
    · exact areTotallyOrdered_of_kind isNumber ofKind

end SortKey

/-! ## Values of a column -/

namespace Column

/--
What it takes to sort these values of a column: no geometry among them, scalars
of one kind that are not blurred if their type is not known, and else no float
that is no number.
-/
def Orders (column : Column) (values : List Value) : Prop :=
  match column.type with
  | .geometry _ => ∀ value ∈ values, value = .null
  | .unknown => Value.AreOfOneKind values ∧ ¬Value.AreBlurred values
  | _ => .float .nan ∉ values

variable {column : Column} {values : List Value}

/-- Geometries have no order. -/
theorem areTotallyOrdered_iff_of_geometry
    (own : column.isRelationship = false)
    (geometric : column.isGeometry = true)
    (fits : ∀ value ∈ values, value.Fits column) :
    SortKey.AreTotallyOrdered values ↔ ∀ value ∈ values, value = .null := by
  constructor
  · intro ordered value isValue
    by_contra present
    have itself := ordered.comparable value isValue value isValue present present
    cases fits value isValue <;> simp_all [Value.compare?, isGeometry, LogicalType.isGeometry]
  · intro nulls
    constructor
    · intro left isLeft _ _ present
      exact absurd (nulls left isLeft) present
    · rw [SortKey.isPreorderOn_iff]
      intro first isFirst _ _ _ _ present
      exact absurd (nulls first isFirst) present

/-- A known type of scalars has an order for all its values but the float that is no number. -/
theorem areTotallyOrdered_of_known
    (own : column.isRelationship = false)
    (plain : column.isGeometry = false)
    (known : column.type ≠ .unknown)
    (fits : ∀ value ∈ values, value.Fits column)
    (ordinary : .float .nan ∉ values) :
    SortKey.AreTotallyOrdered values := by
  cases type : column.type
  case geometry => simp [isGeometry, type, LogicalType.isGeometry] at plain
  case unknown => exact absurd type known
  case' float => cases exact_ : column.isExact
  case' float.true => refine .of_compares .decimal (fun _ _ => rfl) ?_
  case' float.false => refine .of_floats ?_ ordinary
  case' boolean => refine .of_compares .bool (fun _ _ => rfl) ?_
  case' integer => refine .of_compares .int (fun _ _ => rfl) ?_
  case' string => refine .of_compares .string (fun _ _ => rfl) ?_
  case' date => refine .of_compares .date (fun _ _ => rfl) ?_
  case' dateTime => refine .of_compares .dateTime (fun _ _ => rfl) ?_
  case' time => refine .of_compares .time (fun _ _ => rfl) ?_
  -- The type leaves one variant besides null.
  all_goals
    intro value isValue present
    cases fits value isValue <;> simp_all

/-- The values of a column are totally ordered exactly if the column orders them. -/
theorem areTotallyOrdered_iff_orders
    (own : column.isRelationship = false)
    (fits : ∀ value ∈ values, value.Fits column)
    (ordinary : column.type = .unknown → .float .nan ∉ values) :
    SortKey.AreTotallyOrdered values ↔ column.Orders values := by
  unfold Orders
  split
  case h_1 kind type =>
      have geometric : column.isGeometry = true := by
        rw [isGeometry, type, LogicalType.isGeometry]
      exact areTotallyOrdered_iff_of_geometry own geometric fits
  case h_2 type =>
      apply SortKey.areTotallyOrdered_iff_of_scalars _ (ordinary type)
      intro value isValue
      cases fits value isValue with
      | null => exact .null
      | unknown _ _ isScalar => exact isScalar
      | _ => simp_all [isGeometry, LogicalType.isGeometry]
  case h_3 notGeometric known =>
      have plain : column.isGeometry = false := by
        cases type : column.type <;> simp_all [isGeometry, LogicalType.isGeometry]
      exact ⟨SortKey.AreTotallyOrdered.nan_not_mem,
        areTotallyOrdered_of_known own plain known fits⟩

end Column

/-! ## Accepted sorts -/

namespace SortKey

/-- The column of an accepted sort key is in the table and is no relationship. -/
theorem exists_column_of_ofParameters
    {table : Table}
    {orderBy direction : Option String}
    {key : SortKey}
    (accepted : ofParameters table orderBy direction = .ok (some key)) :
    ∃ column, table.column? key.column = some column ∧ column.isRelationship = false := by
  unfold ofParameters at accepted
  split at accepted
  · cases accepted
  · cases accepted
  · split_ifs at accepted with sortable
    obtain ⟨_, _, isKey⟩ := Outcome.bind_eq_ok.mp accepted
    cases isKey
    simpa [Option.any_eq_true] using sortable

end SortKey

namespace Query

open RowStore (replay Owns)
open SortKey (AreTotallyOrdered IsPreorderOn)

/--
Rows that a scan finds are sorted by an accepted key.  Their values are totally
ordered exactly if the column of the key orders them, and then each row may
stand before all that come after it.  A column of scalars of a known type
orders all values of rows that were submitted for its own table.
-/
theorem sort_totally_ordered_iff
    {declaration : TableDeclaration}
    {table : Table}
    {orderBy direction : Option String}
    {key : SortKey}
    {submissions : List Submission}
    {records rows : List Record}
    (described : declaration.describe = .ok table)
    (accepted : SortKey.ofParameters table orderBy direction = .ok (some key))
    (scanned : (replay submissions).scan table = .ok records)
    (found : rows ⊆ records) :
    ∃ column,
      table.column? key.column = some column ∧
        (AreTotallyOrdered (rows.map key.valueOf) ↔ column.Orders (rows.map key.valueOf)) ∧
        (column.isGeometry = false → column.type ≠ .unknown → Owns table submissions →
          AreTotallyOrdered (rows.map key.valueOf)) ∧
        (AreTotallyOrdered (rows.map key.valueOf) →
          (key.sort rows).Pairwise key.Precedes) := by
  have nodup := TableDeclaration.nodup_columns_of_describe described
  obtain ⟨column, isKey, own⟩ := SortKey.exists_column_of_ofParameters accepted
  obtain ⟨isColumn, named⟩ := Table.mem_of_column? isKey
  have fits : ∀ value ∈ rows.map key.valueOf, value.Fits column := by
    rw [List.forall_mem_map]
    intro row isRow
    rw [SortKey.valueOf, ← named]
    exact RowStore.fits_of_scan nodup scanned (found isRow) isColumn
  have ordinary
      (each : ∀ record ∈ records, record.get column.name ≠ .float .nan) :
      .float .nan ∉ rows.map key.valueOf := by
    intro isNan
    obtain ⟨row, isRow, value⟩ := List.mem_map.mp isNan
    rw [SortKey.valueOf, ← named] at value
    exact each row (found isRow) value
  refine ⟨column, isKey, ?_, ?_, fun ordered => SortKey.pairwise_sort ordered.preordered⟩
  · apply Column.areTotallyOrdered_iff_orders own fits
    intro unknown
    exact ordinary fun record member =>
      RowStore.ne_nan_of_scan_of_unknown nodup scanned member isColumn own unknown
  · intro plain known owns
    apply Column.areTotallyOrdered_of_known own plain known fits
    exact ordinary fun record member =>
      RowStore.ne_nan_of_scan nodup owns scanned member isColumn known

/-- A submission of a reading of no known type. -/
def untypedReading (reading : Json) : Submission where
  declaration := readings "v" ""
  table := readingsTable "v" (StoreType.ofText "")
  described := describe_readings "v" rfl rfl
  row := .object [("v", reading)]
  ordered := by
    rintro fields ⟨⟩
    exact List.pairwise_singleton _ _

/-- Two integers, the greater one first, and a null between them. -/
def integerReadings : List Submission :=
  [.ofInt 2, .null, .ofInt 1].map untypedReading

/-- The integers in the order in which they were submitted. -/
def scannedIntegers : List Record :=
  [.ofFields [("v", .int 2)], .ofFields [("v", .null)], .ofFields [("v", .int 1)]]

/-- Integers of no known type are sorted in their order. -/
theorem sort_totally_ordered_iff_integers :
    (replay integerReadings).scan (readingsTable "v" (StoreType.ofText "")) =
        .ok scannedIntegers ∧
      SortKey.ofParameters (readingsTable "v" (StoreType.ofText "")) (some "v") none =
        .ok (some ⟨"v", .ascending⟩) ∧
      AreTotallyOrdered (scannedIntegers.map (SortKey.valueOf ⟨"v", .ascending⟩)) ∧
      (SortKey.sort ⟨"v", .ascending⟩ scannedIntegers).Pairwise
        (SortKey.Precedes ⟨"v", .ascending⟩) := by
  have described :
      (readings "v" "").describe = .ok (readingsTable "v" (StoreType.ofText "")) :=
    describe_readings "v" rfl rfl
  have scanned :
      (replay integerReadings).scan (readingsTable "v" (StoreType.ofText "")) =
        .ok scannedIntegers := rfl
  have accepted :
      SortKey.ofParameters (readingsTable "v" (StoreType.ofText "")) (some "v") none =
        .ok (some ⟨"v", .ascending⟩) := rfl
  have values :
      scannedIntegers.map (SortKey.valueOf ⟨"v", .ascending⟩) = [.int 2, .null, .int 1] := rfl
  obtain ⟨column, isColumn, orders, _, sorted⟩ :=
    sort_totally_ordered_iff described accepted scanned (List.Subset.refl _)
  cases isColumn
  have ordered : AreTotallyOrdered (scannedIntegers.map (SortKey.valueOf ⟨"v", .ascending⟩)) := by
    refine orders.mpr ⟨⟨.number, ?_⟩, ?_⟩
    · rw [values]
      simp [Value.scalarKind?]
    · rw [values]
      rintro ⟨_, _, _, isFloat, _⟩
      simp at isFloat
  exact ⟨scanned, accepted, ordered, sorted ordered⟩

/-- Parcels may be sorted by their sites, though a site has no order with any other. -/
example :
    SortKey.ofParameters parcelsTable (some "site") none = .ok (some ⟨"site", .ascending⟩) :=
  rfl

/-- A text between two integers of which it parts the greater from the less. -/
def mixedReadings : List Submission :=
  [.ofInt 2, .string "a", .ofInt 1].map untypedReading

/-- The readings in the order in which they were submitted. -/
def scannedReadings : List Record :=
  [.ofFields [("v", .int 2)], .ofFields [("v", .string "a")], .ofFields [("v", .int 1)]]

/--
A sort by a column of no known type is accepted.  The text that a scan finds
there has no order with the integers, and sorting leaves two before one.
-/
theorem sort_not_totally_ordered :
    (readings "v" "").describe = .ok (readingsTable "v" (StoreType.ofText "")) ∧
      SortKey.ofParameters (readingsTable "v" (StoreType.ofText "")) (some "v") none =
        .ok (some ⟨"v", .ascending⟩) ∧
      (replay mixedReadings).scan (readingsTable "v" (StoreType.ofText "")) =
        .ok scannedReadings ∧
      ¬AreTotallyOrdered (scannedReadings.map (SortKey.valueOf ⟨"v", .ascending⟩)) ∧
      ¬IsPreorderOn (scannedReadings.map (SortKey.valueOf ⟨"v", .ascending⟩)) ∧
      ¬(SortKey.sort ⟨"v", .ascending⟩ scannedReadings).Pairwise
        (SortKey.Precedes ⟨"v", .ascending⟩) := by
  have notPreordered :
      ¬IsPreorderOn (scannedReadings.map (SortKey.valueOf ⟨"v", .ascending⟩)) := by
    decide +kernel
  refine ⟨describe_readings "v" rfl rfl, rfl, rfl, ?_, notPreordered, ?_⟩
  · intro ordered
    exact notPreordered ordered.preordered
  · have unsorted : SortKey.sort ⟨"v", .ascending⟩ scannedReadings = scannedReadings := rfl
    rw [unsorted]
    intro ordered
    exact List.rel_of_pairwise_cons ordered (List.mem_of_getLast? rfl) rfl

end Query

end GeoTables
