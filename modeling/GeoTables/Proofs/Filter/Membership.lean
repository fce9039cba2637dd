import GeoTables.Proofs.Filter.Meaning
import GeoTables.Proofs.Filter.Respelled
import GeoTables.Proofs.Text.Blank

/-!
# Membership as a disjunction of equalities

A clause that looks a column up among values between commas reads them as texts,
and one that compares the column with a value reads its operand as a JSON string.
Both ways come to the same value, or to none, on a column of any type: texts keep
their outer blanks, and whatever else a text is read as does not depend on them.
Such a clause is therefore a disjunction of equalities, one for each of the values.
-/

namespace GeoTables

/-! ## Members are read as operands are -/

namespace Value

/-- Outer blanks make no difference to what is read, unless texts are kept as they are. -/
theorem ofScalar_trimmed
    {type : LogicalType}
    (notString : type ≠ .string)
    (known : type ≠ .unknown)
    (isExact : Bool)
    (text : String) :
    ofScalar type isExact (.string (Text.trimmed text)) =
      ofScalar type isExact (.string text) := by
  cases type with
  | string => exact absurd rfl notString
  | unknown => exact absurd rfl known
  | geometry kind => rfl
  | boolean => rw [ofScalar, ofScalar, boolOf, boolOf, Text.trimmed_trimmed]
  | integer => simp only [ofScalar, intOf, Text.toList_trimmed, Text.trim_trim]
  | float =>
      simp only [ofScalar, decimalOf, binary64Of, Text.toList_trimmed, Text.trim_trim]
  | date => simp only [ofScalar, readText, Date.ofText, Text.toList_trimmed, Text.trim_trim]
  | dateTime =>
      simp only [ofScalar, readText, DateTime.ofText, Text.toList_trimmed, Text.trim_trim]
  | time => simp only [ofScalar, readText, TimeOfDay.ofText, Text.toList_trimmed, Text.trim_trim]

/-- A text is read as the string is. -/
theorem coerceText_eq_coerce (column : Column) (text : String) :
    coerceText column text = coerce column (.string text) := by
  have read (other : String) :
      coerce column (.string other) = ofScalar column.type column.isExact (.string other) := rfl
  unfold coerceText
  split
  · rename_i isString
    rw [read, isString]
    rfl
  · rename_i isUnknown
    rw [read, isUnknown]
    rfl
  · rename_i notString known
    rw [read, read, ofScalar_trimmed notString known]

end Value

/-- The texts between the commas of joined texts without commas are these texts. -/
theorem splitOnP_intercalate_commas
    {members : List String}
    (nonempty : members ≠ [])
    (free : ∀ member ∈ members, ',' ∉ member.toList) :
    (",".intercalate members).toList.splitOnP (· == ',') = members.map String.toList := by
  rw [String.toList_intercalate, ← List.splitOn_eq_splitOnP]
  apply List.splitOn_intercalate
  · rintro _ isMember
    obtain ⟨member, found, rfl⟩ := List.mem_map.mp isMember
    exact free member found
  · rwa [ne_eq, List.map_eq_nil_iff]

/-! ## Disjunctions of equalities -/

namespace Predicate

/-- The column has one of the values. -/
theorem holds_isIn_eq_someHold
    (column : String)
    (values : List Value)
    (record : Record) :
    (Predicate.isIn column values).holds record =
      someHold (values.map fun value => .compare column .eq value) record := by
  have each :
      List.Forall₂ (fun child value => holds child record = .ok value)
        (values.map fun value => .compare column .eq value)
        (values.map fun value =>
          !(record.get column).isNull && (record.get column).equal value) := by
    rw [List.forall₂_map_left_iff, List.forall₂_map_right_iff, List.forall₂_same]
    exact fun value _ => rfl
  rw [someHold_of_values each, holds, List.any_map, List.and_any_distrib_left]
  rfl

end Predicate

namespace Filter

variable {operators : OperatorTable} {table : Table}

/-- The children of a block of clauses become the leaves of the clauses. -/
theorem compileChildren_clauses
    {conditions : List Clause}
    {leaves : List Predicate}
    (each : List.Forall₂ (fun condition leaf => condition.compile operators table = .ok leaf)
      conditions leaves) :
    compileChildren operators table (conditions.map Filter.clause) = .ok leaves := by
  induction each with
  | nil => rfl
  | cons head tail induction =>
      rw [List.map_cons, compileChildren, compile, head, induction]
      rfl

/-- A block of clauses in the mode of disjunctions becomes what their leaves come to. -/
theorem exists_compile_disjunction
    {conditions : List Clause}
    {leaves : List Predicate}
    (nonempty : conditions ≠ [])
    (each : List.Forall₂ (fun condition leaf => condition.compile operators table = .ok leaf)
      conditions leaves) :
    ∃ joined,
      Filter.compile operators table (.block "OR" (conditions.map Filter.clause)) =
        .ok (some joined) ∧
      ∀ record, joined.holds record = (Predicate.or leaves).holds record := by
  rw [compile, compileChildren_clauses each]
  cases each with
  | nil => exact absurd rfl nonempty
  | cons head tail =>
      cases tail with
      | nil =>
          rename_i condition leaf
          refine ⟨leaf, rfl, fun record => ?_⟩
          rw [Predicate.holds, Predicate.someHold]
          rcases leaf.holds record with failure | outcome
          · rfl
          · cases outcome <;> rfl
      | cons next others => exact ⟨_, rfl, fun record => rfl⟩

end Filter

/-! ## Clauses on columns of scalars -/

namespace Clause

variable
  {operators : OperatorTable}
  {table : Table}
  {column : Column}

/-- A clause on a column of scalars becomes what its operator makes of the operand. -/
theorem compile_eq_ok_iff_makes
    (found : table.column? column.name = some column)
    (own : column.isRelationship = false)
    (plain : column.isGeometry = false)
    {spelling text : String}
    {operator : ScalarOperator}
    (known : operators.get? spelling = some operator)
    {leaf : Predicate} :
    (supplying column spelling text).compile operators table = .ok leaf ↔
      operator.Makes column (some (.string text)) leaf := by
  constructor
  · intro compiled
    cases becomes_of_compile compiled with
    | scalar isFound _ _ isKnown made =>
        cases found.symm.trans isFound
        cases known.symm.trans isKnown
        exact made
    | spatial isFound _ geometric _ _ _ _ =>
        cases found.symm.trans isFound
        rw [plain] at geometric
        cases geometric
  · intro made
    have becomes : Becomes operators table (supplying column spelling text) leaf :=
      .scalar found own plain known made
    exact becomes.compile_eq_ok

section

variable
  (found : table.column? column.name = some column)
  (own : column.isRelationship = false)
  (plain : column.isGeometry = false)

include found own plain

/-- An equality with a string compiles if the string is read as a value, with which it compares. -/
theorem compile_equality_eq_ok_iff
    {member : String}
    {leaf : Predicate} :
    (supplying column "=" member).compile .standard table = .ok leaf ↔
      ∃ value, Value.coerce column (.string member) = .ok value ∧
        leaf = .compare column.name .eq value := by
  have known : OperatorTable.standard.get? "=" = some (.compare .eq) := by decide +kernel
  rw [compile_eq_ok_iff_makes found own plain known]
  constructor
  · rintro (coerced | _)
    exact ⟨_, coerced, rfl⟩
  · rintro ⟨value, coerced, rfl⟩
    exact .compare coerced

/-- A list of texts compiles if each of them is read as a value, among which it looks. -/
theorem compile_list_eq_ok_iff
    {members : List String}
    (nonempty : members ≠ [])
    (free : ∀ member ∈ members, ',' ∉ member.toList)
    {leaf : Predicate} :
    (supplying column "IN" (",".intercalate members)).compile .standard table = .ok leaf ↔
      ∃ values,
        List.Forall₂ (fun member value => Value.coerce column (.string member) = .ok value)
          members values ∧
        leaf = .isIn column.name values := by
  have known : OperatorTable.standard.get? "IN" = some .isIn := by decide +kernel
  have isMember (member : String) (value : Value) :
      ScalarOperator.member column member.toList = .ok value ↔
        Value.coerce column (.string member) = .ok value := by
    rw [ScalarOperator.member, String.ofList_toList, Value.coerceText_eq_coerce]
    cases Value.coerce column (.string member) <;> simp
  have split := splitOnP_intercalate_commas nonempty free
  rw [compile_eq_ok_iff_makes found own plain known]
  constructor
  · rintro (_ | _ | @⟨_, text, values, worded, each⟩)
    cases worded
    rw [split, List.forall₂_map_left_iff] at each
    exact ⟨values, each.imp fun member value => (isMember member value).mp, rfl⟩
  · rintro ⟨values, each, rfl⟩
    refine .isIn rfl ?_
    rw [split, List.forall₂_map_left_iff]
    exact each.imp fun member value => (isMember member value).mpr

/--
On a column of scalars a list of texts without commas, joined by commas, compiles
exactly if an equality compiles with each of the texts.  On every record it then
evaluates like the disjunction of these equalities, which is what a block of them
becomes.
-/
theorem list_is_disjunction
    {members : List String}
    (nonempty : members ≠ [])
    (free : ∀ member ∈ members, ',' ∉ member.toList) :
    ((∃ predicate,
        (supplying column "IN" (",".intercalate members)).compile .standard table =
          .ok predicate) ↔
      ∀ member ∈ members, ∃ equality,
        (supplying column "=" member).compile .standard table = .ok equality) ∧
    ∀ predicate,
      (supplying column "IN" (",".intercalate members)).compile .standard table =
        .ok predicate →
      ∃ equalities disjunction,
        List.Forall₂ (fun member equality =>
          (supplying column "=" member).compile .standard table = .ok equality)
          members equalities ∧
        Filter.compile .standard table
            (.block "OR" (members.map fun member => .clause (supplying column "=" member))) =
          .ok (some disjunction) ∧
        ∀ record,
          predicate.holds record = (Predicate.or equalities).holds record ∧
            disjunction.holds record = (Predicate.or equalities).holds record := by
  have whole {leaf : Predicate} := @compile_list_eq_ok_iff _ _ found own plain _ nonempty free leaf
  have single {member : String} {leaf : Predicate} :=
    @compile_equality_eq_ok_iff _ _ found own plain member leaf
  constructor
  · constructor
    · rintro ⟨_, compiled⟩ member isMember
      obtain ⟨values, each, rfl⟩ := whole.mp compiled
      obtain ⟨value, _, coerced⟩ := Outcome.exists_partner each isMember
      exact ⟨_, single.mpr ⟨value, coerced, rfl⟩⟩
    · intro compile
      obtain ⟨values, each⟩ := Outcome.exists_partners_iff.mpr fun member isMember => by
        obtain ⟨_, compiled⟩ := compile member isMember
        obtain ⟨value, coerced, _⟩ := single.mp compiled
        exact ⟨value, coerced⟩
      exact ⟨_, whole.mpr ⟨values, each, rfl⟩⟩
  · intro predicate compiled
    obtain ⟨values, each, rfl⟩ := whole.mp compiled
    have equalities :
        List.Forall₂ (fun member equality =>
          (supplying column "=" member).compile .standard table = .ok equality)
          members (values.map fun value => .compare column.name .eq value) := by
      rw [List.forall₂_map_right_iff]
      exact each.imp fun member value coerced => single.mpr ⟨value, coerced, rfl⟩
    obtain ⟨disjunction, joined, same⟩ :=
      @Filter.exists_compile_disjunction .standard table (members.map (supplying column "=")) _
        (by simpa using nonempty) (List.forall₂_map_left_iff.mpr equalities)
    refine ⟨_, disjunction, equalities, ?_, fun record => ⟨?_, same record⟩⟩
    · rwa [List.map_map] at joined
    · exact Predicate.holds_isIn_eq_someHold column.name values record

end

/-- Exact numbers, one with a zero at its end and one between blanks. -/
theorem list_is_disjunction_paddedNumbers :
    ∃ predicate equalities,
      (supplying parcelsTable.columns[1] "IN" "1.50, 2e0\t").compile .standard parcelsTable =
        .ok predicate ∧
      List.Forall₂ (fun member equality =>
        (supplying parcelsTable.columns[1] "=" member).compile .standard parcelsTable =
          .ok equality) ["1.50", " 2e0\t"] equalities ∧
      ∀ record, predicate.holds record = (Predicate.or equalities).holds record := by
  have free : ∀ member ∈ ["1.50", " 2e0\t"], ',' ∉ member.toList := by decide
  have each :
      ∀ member ∈ ["1.50", " 2e0\t"],
        ((supplying parcelsTable.columns[1] "=" member).compile .standard
          parcelsTable).toOption.isSome = true := by
    decide +kernel
  obtain ⟨compiles, evaluated⟩ :=
    @list_is_disjunction parcelsTable parcelsTable.columns[1] rfl rfl rfl
      ["1.50", " 2e0\t"] (by decide) free
  obtain ⟨predicate, compiled⟩ := compiles.mpr fun member isMember =>
    Outcome.exists_eq_ok_of_isSome (each member isMember)
  obtain ⟨equalities, _, single, _, same⟩ := evaluated predicate compiled
  exact ⟨predicate, equalities, compiled, single, fun record => (same record).1⟩

end Clause

end GeoTables
