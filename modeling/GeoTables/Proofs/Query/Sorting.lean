import GeoTables.Proofs.Value.Comparison
import GeoTables.Query.Order
import Mathlib.Data.List.Sort

/-!
# Sorted rows

Sorting inserts row after row behind those that are not greater, which is the
insertion sort of the reversed rows read backwards.  If the comparison of the
values is transitive, any two rows are in order and rows that are equal to one
another stay as they were, in either direction: a descending sort compares the
other way round and does not reverse the rows.  No other arrangement of the rows
has these two properties, so that every stable sort has the same result.
-/

namespace GeoTables.SortKey

/-! ## The order of values and rows -/

theorem compareValues_swap (left right : Value) :
    compareValues right left = (compareValues left right).swap := by
  have present (order : Option Ordering) :
      (order.map Ordering.swap).getD .eq = (order.getD .eq).swap := by
    cases order <;> rfl
  cases left <;> cases right <;> try rfl
  all_goals
    simp only [compareValues]
    rw [Value.compare?_swap, present]

variable (key : SortKey)

/-- The first row may stand before the second. -/
def Precedes (left right : Record) : Prop :=
  key.compareRows left right ≠ .gt

/-- The two rows are sorted alike. -/
def ties (left right : Record) : Bool :=
  key.compareRows left right == .eq

theorem compareRows_swap (left right : Record) :
    key.compareRows right left = (key.compareRows left right).swap := by
  unfold compareRows
  cases key.direction with
  | ascending => exact compareValues_swap _ _
  | descending => exact congrArg Ordering.swap (compareValues_swap _ _)

variable {key}

theorem ties_iff {left right : Record} :
    key.ties left right = true ↔ key.Precedes left right ∧ key.Precedes right left := by
  rw [ties, Precedes, Precedes, compareRows_swap key left right]
  cases key.compareRows left right <;> simp

/-- Rows whose values are preordered are preordered, in either direction. -/
theorem Precedes.trans
    {rows : List Record}
    (preorder : IsPreorderOn (rows.map key.valueOf))
    {first second third : Record}
    (isFirst : first ∈ rows)
    (isSecond : second ∈ rows)
    (isThird : third ∈ rows)
    (before : key.Precedes first second)
    (after : key.Precedes second third) :
    key.Precedes first third := by
  have firstValue := List.mem_map_of_mem (f := key.valueOf) isFirst
  have secondValue := List.mem_map_of_mem (f := key.valueOf) isSecond
  have thirdValue := List.mem_map_of_mem (f := key.valueOf) isThird
  unfold Precedes compareRows at *
  cases direction : key.direction with
  | ascending =>
      simp only [direction] at before after ⊢
      exact preorder _ firstValue _ secondValue _ thirdValue before after
  | descending =>
      simp only [direction, ← compareValues_swap] at before after ⊢
      exact preorder _ thirdValue _ secondValue _ firstValue after before

/-! ## Insertion -/

/-- Sorted rows are kept in reverse, so a row goes in front of those that may precede it. -/
def Follows (key : SortKey) (left right : Record) : Prop :=
  key.compareRows left right ≠ .lt

instance : DecidableRel key.Follows := fun _ _ => inferInstanceAs (Decidable (_ ≠ _))

theorem follows_iff {left right : Record} :
    key.Follows left right ↔ key.Precedes right left := by
  rw [Follows, Precedes, compareRows_swap key left right]
  cases key.compareRows left right <;> simp

/-- A row that may not stand in front of another one has to stand behind it. -/
theorem follows_of_not_follows
    {left right : Record}
    (refused : ¬key.Follows left right) :
    key.Follows right left := by
  rw [Follows, compareRows_swap key left right]
  rw [Follows, not_not] at refused
  simp [refused]

theorem insertRow_eq (row : Record) (sorted : List Record) :
    key.insertRow row sorted = sorted.orderedInsert key.Follows row := by
  induction sorted with
  | nil => rfl
  | cons last rest induction =>
      rw [insertRow, List.orderedInsert_cons, induction]
      by_cases lower : key.compareRows row last = .lt <;> simp [Follows, lower]

theorem sort_eq_reverse_insertionSort (rows : List Record) :
    key.sort rows = (rows.reverse.insertionSort key.Follows).reverse := by
  have inserted :
      (fun sorted row => key.insertRow row sorted) =
        fun sorted row => sorted.orderedInsert key.Follows row := by
    funext sorted row
    exact insertRow_eq row sorted
  rw [sort, inserted, List.insertionSort, List.foldr_reverse]

variable {rows : List Record}

/-- A row that is inserted into sorted rows leaves them sorted. -/
theorem pairwise_orderedInsert
    (preorder : IsPreorderOn (rows.map key.valueOf))
    {row : Record}
    (isRow : row ∈ rows)
    {sorted : List Record}
    (subset : sorted ⊆ rows)
    (ordered : sorted.Pairwise key.Follows) :
    (sorted.orderedInsert key.Follows row).Pairwise key.Follows := by
  induction sorted with
  | nil => exact List.pairwise_singleton _ _
  | cons last rest induction =>
      obtain ⟨isLast, others⟩ := List.cons_subset.mp subset
      obtain ⟨afterLast, further⟩ := List.pairwise_cons.mp ordered
      rw [List.orderedInsert_cons]
      split_ifs with follows
      · refine List.pairwise_cons.mpr ⟨?_, ordered⟩
        intro other member
        rcases List.mem_cons.mp member with rfl | later
        · exact follows
        · rw [follows_iff] at follows ⊢
          exact Precedes.trans preorder (others later) isLast isRow
            (follows_iff.mp (afterLast other later)) follows
      · refine List.pairwise_cons.mpr ⟨?_, induction others further⟩
        intro other member
        rcases (List.mem_orderedInsert key.Follows).mp member with rfl | later
        · exact follows_of_not_follows follows
        · exact afterLast other later

/-- Of sorted rows each precedes all that come after it. -/
theorem pairwise_sort
    (preorder : IsPreorderOn (rows.map key.valueOf)) :
    (key.sort rows).Pairwise key.Precedes := by
  have sorted :
      ∀ remaining ⊆ rows, (remaining.insertionSort key.Follows).Pairwise key.Follows := by
    intro remaining
    induction remaining with
    | nil => exact fun _ => .nil
    | cons row rest induction =>
        intro subset
        obtain ⟨isRow, others⟩ := List.cons_subset.mp subset
        have known : rest.insertionSort key.Follows ⊆ rows := fun other member =>
          others ((List.mem_insertionSort key.Follows).mp member)
        exact pairwise_orderedInsert preorder isRow known (induction others)
  rw [sort_eq_reverse_insertionSort, List.pairwise_reverse]
  exact (sorted rows.reverse (List.reverse_subset.mpr (List.Subset.refl rows))).imp
    follows_iff.mp

/-- Rows that are sorted alike stay in their order. -/
theorem filter_ties_sort
    (preorder : IsPreorderOn (rows.map key.valueOf))
    {row : Record}
    (isRow : row ∈ rows) :
    (key.sort rows).filter (key.ties row) = rows.filter (key.ties row) := by
  have tied : (rows.reverse.filter (key.ties row)).Pairwise key.Follows := by
    apply List.pairwise_of_forall_mem_list
    intro first isFirst second isSecond
    rw [List.mem_filter, List.mem_reverse, ties_iff] at isFirst isSecond
    rw [follows_iff]
    exact Precedes.trans preorder isSecond.1 isRow isFirst.1 isSecond.2.2 isFirst.2.1
  have kept : (rows.reverse.filter (key.ties row)).Sublist
      ((rows.reverse.insertionSort key.Follows).filter (key.ties row)) := by
    have sublist := List.sublist_insertionSort tied List.filter_sublist
    simpa using sublist.filter (key.ties row)
  have same : rows.reverse.filter (key.ties row) =
      (rows.reverse.insertionSort key.Follows).filter (key.ties row) :=
    kept.eq_of_length
      ((List.perm_insertionSort key.Follows rows.reverse).filter (key.ties row)).length_eq.symm
  rw [sort_eq_reverse_insertionSort, List.filter_reverse, ← same, List.filter_reverse,
    List.reverse_reverse]

/-! ## Other stable sorts -/

theorem precedes_self (row : Record) : key.Precedes row row := by
  have same := compareRows_swap key row row
  rw [Precedes]
  cases order : key.compareRows row row <;> simp_all

/-- Ordered rows are determined by the order of those that are sorted alike. -/
theorem eq_of_filter_ties
    {left right : List Record}
    (perm : left.Perm right)
    (leftOrdered : left.Pairwise key.Precedes)
    (rightOrdered : right.Pairwise key.Precedes)
    (tied : ∀ row ∈ left, left.filter (key.ties row) = right.filter (key.ties row)) :
    left = right := by
  induction left generalizing right with
  | nil => exact perm.nil_eq
  | cons first rest induction =>
      obtain ⟨other, others, rfl⟩ : ∃ other others, right = other :: others :=
        List.exists_cons_of_ne_nil fun none => by simp [none] at perm
      obtain ⟨firstPrecedes, restOrdered⟩ := List.pairwise_cons.mp leftOrdered
      obtain ⟨otherPrecedes, othersOrdered⟩ := List.pairwise_cons.mp rightOrdered
      -- Each of the two heads stands in the other list, so that the two are sorted alike.
      have before : key.Precedes first other := by
        rcases List.mem_cons.mp (perm.mem_iff.mpr List.mem_cons_self) with rfl | later
        · exact precedes_self _
        · exact firstPrecedes other later
      have after : key.Precedes other first := by
        rcases List.mem_cons.mp (perm.mem_iff.mp List.mem_cons_self) with rfl | later
        · exact precedes_self _
        · exact otherPrecedes first later
      have heads := tied first List.mem_cons_self
      rw [List.filter_cons_of_pos (ties_iff.mpr ⟨precedes_self first, precedes_self first⟩),
        List.filter_cons_of_pos (ties_iff.mpr ⟨before, after⟩), List.cons.injEq] at heads
      obtain ⟨rfl, _⟩ := heads
      refine congrArg (List.cons first) ?_
      refine induction perm.cons_inv restOrdered othersOrdered fun row isRow => ?_
      have alike := tied row (List.mem_cons_of_mem first isRow)
      rw [List.filter_cons, List.filter_cons] at alike
      split at alike
      · exact List.tail_eq_of_cons_eq alike
      · exact alike

/-- Whatever sort leaves rows in order and tied rows where they were, its result is this one. -/
theorem eq_sort
    (preorder : IsPreorderOn (rows.map key.valueOf))
    {sorted : List Record}
    (perm : sorted.Perm rows)
    (ordered : sorted.Pairwise key.Precedes)
    (stable : ∀ row ∈ rows, sorted.filter (key.ties row) = rows.filter (key.ties row)) :
    sorted = key.sort rows := by
  refine eq_of_filter_ties (perm.trans (key.sort_perm rows).symm) ordered
    (pairwise_sort preorder) fun row isRow => ?_
  have member := perm.mem_iff.mp isRow
  rw [stable row member, filter_ties_sort preorder member]

/--
Whatever sort loses no row and, so far as values are in a total preorder, leaves
rows in order and tied rows where they were, it is a sorter.
-/
theorem exists_sorter_of_stable
    {sort : SortKey → List Record → Option (List Record)}
    (perm : ∀ {key rows sorted}, sort key rows = some sorted → sorted.Perm rows)
    (stable :
      ∀ {key : SortKey} {rows},
        IsPreorderOn (rows.map key.valueOf) →
        ∃ sorted,
          sort key rows = some sorted ∧
            sorted.Pairwise key.Precedes ∧
            ∀ row ∈ rows, sorted.filter (key.ties row) = rows.filter (key.ties row)) :
    ∃ sorter : Sorter, sorter.sort = sort := by
  refine ⟨⟨sort, perm, fun preorder => ?_⟩, rfl⟩
  obtain ⟨sorted, returned, ordered, tied⟩ := stable preorder
  rw [returned, eq_sort preorder (perm returned) ordered tied]

end GeoTables.SortKey
