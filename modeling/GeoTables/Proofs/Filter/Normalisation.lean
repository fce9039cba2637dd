import GeoTables.Proofs.Filter.Tree
import GeoTables.Proofs.Table.Columns
import Mathlib.Logic.Relation

/-!
# Filters that differ in blocks only

Any part of a filter may be wrapped in a block of its own, whatever the mode of
that block, and blocks without clauses may be put anywhere in any block.  The
filter compiles to the same predicate, to nothing or with the same failure as
before.

The failure of a block depends on how many of its children become predicates.
What carries the argument through the enclosing blocks is therefore that an
edited child has the very same result, and that a child without clauses adds
nothing to the predicates that are kept.

All this is independent of the clauses: it holds for whatever they become, so
for operators of every kind.
-/

namespace GeoTables.Filter

/-! ## Edits -/

/-- A filter is edited at one place, at any depth. -/
inductive Edits : Filter → Filter → Prop where
  | wrap (mode : String) (filter : Filter) : Edits filter (.block mode [filter])
  | pad
      {padding : Filter}
      (blank : padding.clauses = [])
      (mode : String)
      (before after : List Filter) :
      Edits (.block mode (before ++ after)) (.block mode (before ++ padding :: after))
  | within
      {child edited : Filter}
      (edit : Edits child edited)
      (mode : String)
      (before after : List Filter) :
      Edits (.block mode (before ++ child :: after)) (.block mode (before ++ edited :: after))

/-- One filter comes from the other by edits and by taking edits back. -/
def DifferInBlocks : Filter → Filter → Prop :=
  Relation.EqvGen Edits

/-! ## Compilation for given clauses -/

mutual

/-- Compile a filter, given what each clause becomes. -/
def compileWith
    (leaf : Clause → Except Failure Predicate) :
    Filter → Except Failure (Option Predicate)
  | .clause condition => (leaf condition).map some
  | .block mode children => do join mode (← compileChildrenWith leaf children)

/-- Compile a list of filters, given what each clause becomes. -/
def compileChildrenWith
    (leaf : Clause → Except Failure Predicate) :
    List Filter → Except Failure (List Predicate)
  | [] => .ok []
  | child :: rest => do
      let compiled ← compileWith leaf child
      return compiled.toList ++ (← compileChildrenWith leaf rest)

end

mutual

/-- For a table of operators the clauses become what they are compiled to. -/
theorem compile_eq_compileWith
    (operators : OperatorTable)
    (table : Table) :
    ∀ filter : Filter,
      filter.compile operators table =
        filter.compileWith fun condition => condition.compile operators table
  | .clause _ => rfl
  | .block mode children => by
      rw [compile, compileWith, compileChildren_eq_compileChildrenWith operators table children]

theorem compileChildren_eq_compileChildrenWith
    (operators : OperatorTable)
    (table : Table) :
    ∀ children : List Filter,
      compileChildren operators table children =
        compileChildrenWith (fun condition => condition.compile operators table) children
  | [] => rfl
  | child :: rest => by
      rw [compileChildren, compileChildrenWith, compile_eq_compileWith operators table child,
        compileChildren_eq_compileChildrenWith operators table rest]

end

variable {leaf : Clause → Except Failure Predicate}

mutual

/-- A filter without clauses becomes nothing, whatever its modes. -/
theorem compileWith_of_blank :
    ∀ {filter : Filter}, filter.clauses = [] → filter.compileWith leaf = .ok none
  | .block mode children, blank => by
      rw [compileWith, compileChildrenWith_of_blank blank]
      rfl

theorem compileChildrenWith_of_blank :
    ∀ {children : List Filter},
      clausesOf children = [] → compileChildrenWith leaf children = .ok []
  | [], _ => rfl
  | child :: rest, blank => by
      rw [clausesOf, List.append_eq_nil_iff] at blank
      rw [compileChildrenWith, compileWith_of_blank blank.1,
        compileChildrenWith_of_blank blank.2]
      rfl

end

/-- A block with a single child becomes what the child becomes. -/
theorem compileWith_singleton
    (mode : String)
    (filter : Filter) :
    (Filter.block mode [filter]).compileWith leaf = filter.compileWith leaf := by
  simp only [compileWith, compileChildrenWith]
  rcases filter.compileWith leaf with failure | _ | predicate <;> rfl

/-- What becomes of children depends on what becomes of each part of their list. -/
theorem compileChildrenWith_append
    (before after : List Filter) :
    compileChildrenWith leaf (before ++ after) = do
      return (← compileChildrenWith leaf before) ++ (← compileChildrenWith leaf after) := by
  induction before with
  | nil =>
      rw [List.nil_append, compileChildrenWith]
      cases compileChildrenWith leaf after <;> rfl
  | cons child rest induction =>
      rw [List.cons_append, compileChildrenWith, compileChildrenWith, induction]
      simp only [bind_assoc, pure_bind, List.append_assoc]

/-- A child may be exchanged for other children that become the same. -/
theorem compileWith_block_congr
    {inserted replaced : List Filter}
    (same : compileChildrenWith leaf inserted = compileChildrenWith leaf replaced)
    (mode : String)
    (before after : List Filter) :
    (Filter.block mode (before ++ inserted ++ after)).compileWith leaf =
      (Filter.block mode (before ++ replaced ++ after)).compileWith leaf := by
  simp only [compileWith, compileChildrenWith_append, same]

/-! ## Edited filters -/

/-- An edit changes nothing in what becomes of the filter. -/
theorem Edits.compileWith_eq
    {filter edited : Filter}
    (edit : Edits filter edited) :
    filter.compileWith leaf = edited.compileWith leaf := by
  induction edit with
  | wrap mode filter => exact (compileWith_singleton mode filter).symm
  | @pad padding blank mode before after =>
      have nothing : compileChildrenWith leaf [] = compileChildrenWith leaf [padding] := by
        have blanks : clausesOf [padding] = [] := by simp [clausesOf, blank]
        rw [compileChildrenWith_of_blank blanks]
        rfl
      simpa using compileWith_block_congr nothing mode before after
  | @within child edited edit mode before after induction =>
      have same : compileChildrenWith leaf [child] = compileChildrenWith leaf [edited] := by
        simp only [compileChildrenWith, induction]
      simpa using compileWith_block_congr same mode before after

/--
Filters that come from each other by wrapping their parts in blocks of any mode
and by putting blocks without clauses anywhere compile alike, for every table of
operators and for whatever else clauses may be compiled to.
-/
theorem compile_normalised
    {filter other : Filter}
    (differ : DifferInBlocks filter other) :
    (∀ leaf, filter.compileWith leaf = other.compileWith leaf) ∧
      ∀ operators table, filter.compile operators table = other.compile operators table := by
  have alike : ∀ leaf, filter.compileWith leaf = other.compileWith leaf := by
    intro leaf
    induction differ with
    | rel filter edited edit => exact edit.compileWith_eq
    | refl filter => rfl
    | symm filter other _ induction => exact induction.symm
    | trans first second third _ _ left right => exact left.trans right
  refine ⟨alike, fun operators table => ?_⟩
  rw [compile_eq_compileWith, compile_eq_compileWith, alike]

/-- Two clauses under a mode that they need. -/
def bounded : Filter :=
  .block "AND" [
    .clause ⟨"id", ">", some (.number (.integer 7))⟩,
    .clause ⟨"id", "NOT_NULL", none⟩]

/-- The same clauses within blocks whose modes join nothing, next to blocks without clauses. -/
def boundedWithin : Filter :=
  .block "XOR" [
    .block "AND" [
      .block "NOR" [.block "" []],
      .block "" [.clause ⟨"id", ">", some (.number (.integer 7))⟩],
      .clause ⟨"id", "NOT_NULL", none⟩]]

theorem differInBlocks_bounded : DifferInBlocks bounded boundedWithin := by
  have wrapped := Edits.within (.wrap "" (.clause ⟨"id", ">", some (.number (.integer 7))⟩)) "AND"
    [] [.clause ⟨"id", "NOT_NULL", none⟩]
  have blank : (Filter.block "NOR" [.block "" []]).clauses = [] := rfl
  have padded := Edits.pad blank "AND" []
    [.block "" [.clause ⟨"id", ">", some (.number (.integer 7))⟩],
      .clause ⟨"id", "NOT_NULL", none⟩]
  exact .trans _ _ _ (.rel _ _ wrapped) (.trans _ _ _ (.rel _ _ padded) (.rel _ _ (.wrap "XOR" _)))

theorem compile_normalised_bounded :
    parcels.describe = .ok parcelsTable ∧
      DifferInBlocks bounded boundedWithin ∧
      boundedWithin.compile .standard parcelsTable =
        .ok (some (.and [.compare "id" .gt (.int 7), .isNotNull "id"])) := by
  refine ⟨describe_parcels, differInBlocks_bounded, ?_⟩
  rw [← (compile_normalised differInBlocks_bounded).2 .standard parcelsTable]
  rfl

end GeoTables.Filter
