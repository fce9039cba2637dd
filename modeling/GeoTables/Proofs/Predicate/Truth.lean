import GeoTables.Proofs.Predicate.Tests
import GeoTables.Proofs.Predicate.WellFormed

/-!
# Three-valued truth of predicates

A database compares null with nothing: such a comparison is neither true nor
false but unknown, and conjunctions and disjunctions carry that on as Kleene
described.  A condition keeps the records for which it is true in the end.

Evaluation takes a leaf on a null field as false at once.  Without negation this
makes no difference in the end: what is true stays true and nothing else becomes
true.  The truth of a leaf is given twice, once by its field alone and once as a
database finds it from both sides of every comparison.  On well-formed
predicates, whose operands are not null and whose lists are not empty, the two
agree.
-/

namespace GeoTables

/-- The truth of a condition when values may be missing. -/
inductive Truth where
  | no
  | unknown
  | yes
  deriving DecidableEq, Repr

namespace Truth

/-- The truth of a condition that is decided. -/
def ofBool : Bool → Truth
  | true => yes
  | false => no

/-- The condition is true for sure. -/
def isYes : Truth → Bool
  | yes => true
  | no | unknown => false

/-- The truth of a conjunction. -/
def both : Truth → Truth → Truth
  | no, _ | _, no => no
  | yes, yes => yes
  | _, _ => unknown

/-- The truth of a disjunction. -/
def either : Truth → Truth → Truth
  | yes, _ | _, yes => yes
  | no, no => no
  | _, _ => unknown

/-- The truth of a conjunction of any number of conditions. -/
def all (truths : List Truth) : Truth :=
  truths.foldr both yes

/-- The truth of a disjunction of any number of conditions. -/
def any (truths : List Truth) : Truth :=
  truths.foldr either no

/-- The truth of a comparison of two values with an outcome: unknown if one of them is null. -/
def compared (left right : Value) (outcome : Bool) : Truth :=
  if left.isNull || right.isNull then unknown else ofBool outcome

@[simp]
theorem isYes_ofBool (outcome : Bool) : (ofBool outcome).isYes = outcome := by
  cases outcome <;> rfl

theorem isYes_eq_true {truth : Truth} : truth.isYes = true ↔ truth = yes := by
  cases truth <;> decide

theorem isYes_both (left right : Truth) :
    (both left right).isYes = (left.isYes && right.isYes) := by
  cases left <;> cases right <;> rfl

theorem isYes_either (left right : Truth) :
    (either left right).isYes = (left.isYes || right.isYes) := by
  cases left <;> cases right <;> rfl

theorem isYes_all (truths : List Truth) : (all truths).isYes = (truths.map isYes).all id := by
  induction truths with
  | nil => rfl
  | cons truth truths induction =>
      rw [List.map_cons, List.all_cons, id, ← induction]
      exact isYes_both truth (all truths)

theorem isYes_any (truths : List Truth) : (any truths).isYes = (truths.map isYes).any id := by
  induction truths with
  | nil => rfl
  | cons truth truths induction =>
      rw [List.map_cons, List.any_cons, id, ← induction]
      exact isYes_either truth (any truths)

/-- Decided conditions have a decided disjunction. -/
theorem any_ofBool
    {Member : Type}
    (outcome : Member → Bool)
    (members : List Member) :
    any (members.map fun member => ofBool (outcome member)) = ofBool (members.any outcome) := by
  induction members with
  | nil => rfl
  | cons member members induction =>
      rw [List.map_cons, any, List.foldr_cons, ← any, induction, List.any_cons]
      cases outcome member <;> cases members.any outcome <;> rfl

/-- A disjunction of conditions that are all unknown is unknown if there are any. -/
theorem any_unknown
    {Member : Type}
    {members : List Member}
    (nonempty : members ≠ []) :
    any (members.map fun _ => unknown) = unknown := by
  induction members with
  | nil => cases nonempty rfl
  | cons member members induction =>
      cases members with
      | nil => rfl
      | cons second others =>
          rw [List.map_cons, any, List.foldr_cons, ← any, induction (List.cons_ne_nil _ _)]
          rfl

/-- Only the left side of a comparison with a value that is there can leave it open. -/
theorem compared_of_present
    {right : Value}
    (present : right.isNull = false)
    (left : Value)
    (outcome : Bool) :
    compared left right outcome = if left.isNull then unknown else ofBool outcome := by
  rw [compared, present, Bool.or_false]

end Truth

theorem Value.eq_null_of_isNull
    {value : Value}
    (null : value.isNull = true) :
    value = .null := by
  cases value with
  | null => rfl
  | _ => cases null

namespace Predicate

/-! ## Kleene's connectives -/

mutual

/-- The truth of a predicate from that of its leaves, all of which are looked at. -/
def kleene (leaf : Predicate → Except Failure Truth) : Predicate → Except Failure Truth
  | .and children => (kleeneOf leaf children).map Truth.all
  | .or children => (kleeneOf leaf children).map Truth.any
  | predicate => leaf predicate

/-- The truths of a list of predicates. -/
def kleeneOf
    (leaf : Predicate → Except Failure Truth) :
    List Predicate → Except Failure (List Truth)
  | [] => .ok []
  | child :: rest => do
      let truth ← kleene leaf child
      let truths ← kleeneOf leaf rest
      return truth :: truths

end

/-- A null field leaves open what the leaf asks, as it does for all but tests for null. -/
def isOpen (record : Record) : Predicate → Bool
  | .compare column _ _ | .like column _ | .isIn column _ => (record.get column).isNull
  | .spatial clause => (record.get clause.column).isNull
  | _ => false

/-- The truth of a leaf on a record: unknown if it is open, else what evaluation finds. -/
def leafTruth (record : Record) (leaf : Predicate) : Except Failure Truth :=
  if leaf.isOpen record then .ok .unknown else (leaf.holds record).map .ofBool

/-- The truth of a predicate on a record. -/
def truth (record : Record) : Predicate → Except Failure Truth :=
  kleene (leafTruth record)

/--
The truth of a leaf on a record as a database finds it.  Whatever is compared
with null is unknown, and membership is a disjunction of equalities.
-/
def databaseLeaf (record : Record) (leaf : Predicate) : Except Failure Truth :=
  match leaf with
  | .compare column comparison operand =>
      let field := record.get column
      .ok (.compared field operand (comparison.holds field operand))
  | .like column pattern =>
      let field := record.get column
      .ok (.compared field (.string pattern) (matchesField field pattern))
  | .isIn column members =>
      let field := record.get column
      .ok (.any (members.map fun candidate => .compared field candidate (field.equal candidate)))
  | .spatial clause =>
      let field := record.get clause.column
      if field.isNull then .ok .unknown else (holdsSpatially clause field).map .ofBool
  | _ => (leaf.holds record).map .ofBool

/-- The truth of a predicate on a record as a database finds it. -/
def databaseTruth (record : Record) : Predicate → Except Failure Truth :=
  kleene (databaseLeaf record)

/-- A condition of the predicate keeps the record. -/
def keeps (predicate : Predicate) (record : Record) : Bool :=
  match databaseTruth record predicate with
  | .ok truth => truth.isYes
  | .error _ => false

/-! ## Truth and evaluation -/

/-- Evaluation takes an open leaf as false. -/
theorem holds_of_isOpen
    {record : Record}
    {leaf : Predicate}
    (isOpen : leaf.isOpen record = true) :
    leaf.holds record = .ok false := by
  cases leaf with
  | compare column comparison operand | isIn column members =>
      rw [Predicate.isOpen] at isOpen
      simp [holds, isOpen]
  | like column pattern =>
      rw [Predicate.isOpen] at isOpen
      rw [holds, matchesField, Value.eq_null_of_isNull isOpen]
      rfl
  | spatial clause =>
      rw [Predicate.isOpen] at isOpen
      rw [holds, holdsSpatially, Value.eq_null_of_isNull isOpen]
      rfl
  | _ => cases isOpen

theorem holds_of_leafTruth
    {record : Record}
    {leaf : Predicate}
    {truth : Truth}
    (known : leafTruth record leaf = .ok truth) :
    leaf.holds record = .ok truth.isYes := by
  unfold leafTruth at known
  split at known
  · rename_i isOpen
    cases known
    exact holds_of_isOpen isOpen
  · obtain ⟨outcome, evaluated, rfl⟩ := Outcome.map_eq_ok.mp known
    rw [evaluated, Truth.isYes_ofBool]

/-- A leaf whose tests have outcomes has a truth. -/
theorem exists_leafTruth
    {record : Record}
    {leaf : Predicate}
    (evaluable : Evaluable record leaf) :
    ∃ truth, leafTruth record leaf = .ok truth := by
  obtain ⟨outcome, evaluated⟩ := exists_holds_of_evaluable record evaluable
  unfold leafTruth
  split
  · exact ⟨_, rfl⟩
  · exact ⟨_, Outcome.map_eq_ok.mpr ⟨outcome, evaluated, rfl⟩⟩

mutual

/-- Evaluation finds that a predicate holds if it is true for sure. -/
theorem holds_of_truth
    {record : Record} :
    ∀ {predicate : Predicate} {truth : Truth},
      predicate.truth record = .ok truth → predicate.holds record = .ok truth.isYes
  | .and children, truth, known => by
      obtain ⟨truths, each, rfl⟩ := Outcome.map_eq_ok.mp known
      rw [Truth.isYes_all]
      exact allHold_of_values (holds_of_truths each)
  | .or children, truth, known => by
      obtain ⟨truths, each, rfl⟩ := Outcome.map_eq_ok.mp known
      rw [Truth.isYes_any]
      exact someHold_of_values (holds_of_truths each)
  | .compare _ _ _, _, known | .like _ _, _, known | .isIn _ _, _, known | .isNull _, _, known
  | .isNotNull _, _, known | .spatial _, _, known => holds_of_leafTruth known

theorem holds_of_truths
    {record : Record} :
    ∀ {children : List Predicate} {truths : List Truth},
      kleeneOf (leafTruth record) children = .ok truths →
      List.Forall₂ (fun child value => holds child record = .ok value)
        children (truths.map Truth.isYes)
  | [], truths, known => by
      cases known
      exact .nil
  | child :: rest, truths, known => by
      simp only [kleeneOf, Outcome.bind_eq_ok, Outcome.pure_eq_ok] at known
      obtain ⟨truth, own, others, remaining, rfl⟩ := known
      exact .cons (holds_of_truth own) (holds_of_truths remaining)

end

mutual

/-- A predicate whose tests have outcomes has a truth. -/
theorem exists_truth
    {record : Record} :
    ∀ {predicate : Predicate},
      Evaluable record predicate → ∃ truth, predicate.truth record = .ok truth
  | .and children, evaluable => by
      obtain ⟨truths, each⟩ := exists_truths (evaluable_and.mp evaluable)
      exact ⟨_, Outcome.map_eq_ok.mpr ⟨truths, each, rfl⟩⟩
  | .or children, evaluable => by
      obtain ⟨truths, each⟩ := exists_truths (evaluable_or.mp evaluable)
      exact ⟨_, Outcome.map_eq_ok.mpr ⟨truths, each, rfl⟩⟩
  | .compare _ _ _, evaluable | .like _ _, evaluable | .isIn _ _, evaluable
  | .isNull _, evaluable | .isNotNull _, evaluable | .spatial _, evaluable =>
      exists_leafTruth evaluable

theorem exists_truths
    {record : Record} :
    ∀ {children : List Predicate},
      (∀ child ∈ children, Evaluable record child) →
      ∃ truths, kleeneOf (leafTruth record) children = .ok truths
  | [], _ => ⟨[], rfl⟩
  | child :: rest, evaluable => by
      rw [List.forall_mem_cons] at evaluable
      obtain ⟨truth, own⟩ := exists_truth evaluable.1
      obtain ⟨truths, others⟩ := exists_truths evaluable.2
      refine ⟨truth :: truths, ?_⟩
      simp only [kleeneOf, Outcome.bind_eq_ok, Outcome.pure_eq_ok]
      exact ⟨truth, own, truths, others, rfl⟩

end

/-! ## Truth in a database -/

variable {table : Table} {record : Record}

theorem databaseLeaf_compare
    {column : String}
    {comparison : Comparison}
    {operand : Value}
    (present : operand.isNull = false) :
    databaseLeaf record (.compare column comparison operand) =
      leafTruth record (.compare column comparison operand) := by
  rw [databaseLeaf, leafTruth, isOpen, Truth.compared_of_present present, holds]
  cases (record.get column).isNull <;> rfl

theorem databaseLeaf_like (column pattern : String) :
    databaseLeaf record (.like column pattern) = leafTruth record (.like column pattern) := by
  rw [databaseLeaf, leafTruth, isOpen, Truth.compared_of_present rfl, holds]
  cases (record.get column).isNull <;> rfl

/-- Membership is a disjunction of equalities, if there are members and none is null. -/
theorem databaseLeaf_isIn
    {column : String}
    {members : List Value}
    (nonempty : members ≠ [])
    (present : ∀ member ∈ members, member.isNull = false) :
    databaseLeaf record (.isIn column members) = leafTruth record (.isIn column members) := by
  have each :
      (members.map fun candidate =>
          Truth.compared (record.get column) candidate ((record.get column).equal candidate)) =
        members.map fun candidate =>
          if (record.get column).isNull then .unknown
          else .ofBool ((record.get column).equal candidate) := by
    apply List.map_congr_left
    intro candidate member
    exact Truth.compared_of_present (present candidate member) _ _
  rw [databaseLeaf, leafTruth, isOpen, holds, each]
  cases (record.get column).isNull with
  | true =>
      simp only [if_true]
      rw [Truth.any_unknown nonempty]
  | false =>
      simp only [Bool.false_eq_true, if_false]
      rw [Truth.any_ofBool]
      rfl

/-- The truths of children that have the same truth each. -/
theorem kleeneOf_congr
    {first second : Predicate → Except Failure Truth}
    {children : List Predicate}
    (same : ∀ child ∈ children, kleene first child = kleene second child) :
    kleeneOf first children = kleeneOf second children := by
  induction children with
  | nil => rfl
  | cons child rest induction =>
      rw [List.forall_mem_cons] at same
      rw [kleeneOf, kleeneOf, same.1, induction same.2]

/-- A database finds the truth of a well-formed predicate. -/
theorem databaseTruth_eq_truth
    {predicate : Predicate}
    (wellFormed : predicate.WellFormed table) :
    predicate.databaseTruth record = predicate.truth record := by
  induction wellFormed with
  | and _ _ each => exact congrArg (Except.map Truth.all) (kleeneOf_congr each)
  | or _ _ each => exact congrArg (Except.map Truth.any) (kleeneOf_congr each)
  | compare _ present => exact databaseLeaf_compare present
  | like => exact databaseLeaf_like _ _
  | isIn _ nonempty present => exact databaseLeaf_isIn nonempty present
  | isNull | isNotNull | spatial => rfl

/-- A null operand would make a difference: to evaluation it is only another value. -/
example :
    let predicate := Predicate.compare "id" .ne .null
    let record := Record.ofFields [("id", .int 1)]
    predicate.holds record = .ok true ∧ predicate.databaseTruth record = .ok .unknown :=
  ⟨rfl, rfl⟩

end Predicate

end GeoTables
