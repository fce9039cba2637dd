import GeoTables.Proofs.Filter.WellFormed
import GeoTables.Proofs.Sql.Pieces

/-!
# Conditions that read the same

The text of a condition determines the shape of the predicate: a well-formed
predicate can be told from the start of any text that begins with its
condition.  The first character says what kind of predicate it is.  Behind the
first child of a junction comes the word that joins the children, because there
is a second child; a conjunction and a disjunction of one child each would read
the same.

With the bound values, the predicate is then determined up to the supplied
geometries of its tests.
-/

namespace GeoTables.Sql

open Predicate (operandsOf shapes)

/-! ## Leaves -/

/-- The character that the condition of a predicate starts with. -/
def mark : Predicate → Char
  | .and _ | .or _ => '('
  | .compare _ _ _ | .isIn _ _ | .isNull _ | .isNotNull _ => '"'
  | .like _ _ => 'C'
  | .spatial _ => 'S'

theorem head?_text
    (table : TableName)
    (bound : Nat)
    (predicate : Predicate) :
    (condition table bound predicate).text.head? = some (mark predicate) := by
  cases predicate with
  | spatial clause =>
      change (spatial table bound clause).text.head? = some 'S'
      rw [spatial, call]
      cases clause.test <;> rfl
  | _ => rfl

/-- Texts with the same start belong to predicates with the same mark. -/
theorem mark_eq_of_text
    {table : TableName}
    {bound : Nat}
    {left right : Predicate}
    {rest others : List Char}
    (same :
      (condition table bound left).text ++ rest =
        (condition table bound right).text ++ others) :
    mark left = mark right := by
  have starts := congrArg List.head? same
  rw [List.head?_append, List.head?_append, head?_text, head?_text] at starts
  exact Option.some.inj starts

/-- What a leaf that starts with its column asserts of it, with so many placeholders. -/
inductive Asserts (column : String) : Verb → Nat → Predicate → Prop where
  | compare (comparison : Comparison) (operand : Value) :
      Asserts column (.compare comparison) 1 (.compare column comparison operand)
  | isIn (members : List Value) : Asserts column .isIn members.length (.isIn column members)
  | isNull : Asserts column .isNull 0 (.isNull column)
  | isNotNull : Asserts column .isNotNull 0 (.isNotNull column)

/-- What comes behind the words of a leaf. -/
def Verb.ending (bound count : Nat) : Verb → List Char
  | .compare _ => placeholder bound
  | .isIn => ", ".toList.intercalate (placeholders bound count) ++ [')']
  | .isNull | .isNotNull => []

namespace Asserts

theorem of_mark
    {predicate : Predicate}
    (quoted : mark predicate = '"') :
    ∃ column verb count, Asserts column verb count predicate := by
  cases predicate with
  | compare column comparison operand => exact ⟨_, _, _, .compare comparison operand⟩
  | isIn column members => exact ⟨_, _, _, .isIn members⟩
  | isNull column => exact ⟨_, _, _, .isNull⟩
  | isNotNull column => exact ⟨_, _, _, .isNotNull⟩
  | _ => simp [mark] at quoted

theorem text_eq
    {column : String}
    {verb : Verb}
    {count : Nat}
    {predicate : Predicate}
    (asserted : Asserts column verb count predicate)
    (table : TableName)
    (bound : Nat) :
    (condition table bound predicate).text =
      columnName table column ++ (verb.words ++ verb.ending bound count) := by
  cases asserted with
  | compare comparison operand => exact text_compare table bound column comparison operand
  | isIn members => exact text_isIn table bound column members
  | isNull | isNotNull =>
      rw [Verb.ending, List.append_nil]
      rfl

end Asserts

/-- The number of members can be told from the placeholders behind the first one. -/
theorem placeholders_append_inj
    {bound count other : Nat}
    {rest others : List Char}
    (same :
      (placeholders bound count).flatMap (", ".toList ++ ·) ++ ')' :: rest =
        (placeholders bound other).flatMap (", ".toList ++ ·) ++ ')' :: others) :
    count = other ∧ rest = others := by
  have apart :
      ∀ placeholder further rest others,
        ')' :: rest ≠ (", ".toList ++ placeholder) ++ further ++ ')' :: others := by
    intro placeholder further rest others equal
    exact absurd (List.cons.inj equal).1 (by decide)
  induction count generalizing bound other with
  | zero =>
      cases other with
      | zero => exact ⟨rfl, (List.cons.inj same).2⟩
      | succ other =>
          rw [placeholders_succ, List.flatMap_cons] at same
          exact (apart _ _ _ _ same).elim
  | succ count induction =>
      cases other with
      | zero =>
          rw [placeholders_succ, List.flatMap_cons] at same
          exact (apart _ _ _ _ same.symm).elim
      | succ other =>
          rw [placeholders_succ, placeholders_succ, List.flatMap_cons, List.flatMap_cons,
            List.append_assoc, List.append_assoc, List.append_assoc, List.append_assoc] at same
          obtain ⟨counts, remaining⟩ := 
            induction (List.append_cancel_left (List.append_cancel_left same))
          exact ⟨congrArg Nat.succ counts, remaining⟩

/-- Pieces with a separator between them: the first one, and the others behind separators. -/
theorem intercalate_cons
    (separator first : List Char)
    (pieces : List (List Char)) :
    separator.intercalate (first :: pieces) = first ++ pieces.flatMap (separator ++ ·) := by
  induction pieces generalizing first with
  | nil => simp
  | cons second pieces induction =>
      rw [List.intercalate_cons_cons, induction, List.flatMap_cons, List.append_assoc,
        List.append_assoc]

/-- The number of members can be told from their placeholders. -/
theorem members_append_inj
    {bound count other : Nat}
    {rest others : List Char}
    (same :
      ", ".toList.intercalate (placeholders bound count) ++ ')' :: rest =
        ", ".toList.intercalate (placeholders bound other) ++ ')' :: others) :
    count = other ∧ rest = others := by
  have apart :
      ∀ number pieces rest others,
        ')' :: rest ≠ placeholder number ++ pieces ++ ')' :: others := by
    intro number pieces rest others equal
    exact absurd (List.cons.inj equal).1 (by decide)
  cases count with
  | zero =>
      cases other with
      | zero => exact ⟨rfl, (List.cons.inj same).2⟩
      | succ other =>
          rw [placeholders_succ, intercalate_cons] at same
          exact (apart _ _ _ _ same).elim
  | succ count =>
      cases other with
      | zero =>
          rw [placeholders_succ, intercalate_cons] at same
          exact (apart _ _ _ _ same.symm).elim
      | succ other =>
          rw [placeholders_succ, placeholders_succ, intercalate_cons, intercalate_cons,
            List.append_assoc, List.append_assoc] at same
          obtain ⟨counts, remaining⟩ := placeholders_append_inj (List.append_cancel_left same)
          exact ⟨congrArg Nat.succ counts, remaining⟩

/-- Leaves that assert the same of the same column, with the same ending, have the same shape. -/
theorem Asserts.shape_eq
    {column : String}
    {verb : Verb}
    {bound count other : Nat}
    {left right : Predicate}
    {rest others : List Char}
    (first : Asserts column verb count left)
    (second : Asserts column verb other right)
    (same : verb.ending bound count ++ rest = verb.ending bound other ++ others) :
    left.shape = right.shape ∧ rest = others := by
  cases first with
  | compare =>
      cases second
      exact ⟨rfl, List.append_cancel_left same⟩
  | isNull | isNotNull =>
      cases second
      exact ⟨rfl, same⟩
  | isIn members =>
      cases second with
      | isIn further =>
          rw [Verb.ending, Verb.ending, List.append_assoc, List.append_assoc] at same
          obtain ⟨counts, remaining⟩ := members_append_inj same
          refine ⟨?_, remaining⟩
          rw [Predicate.shape, Predicate.shape, List.map_const', List.map_const', counts]

/-! ## Legible predicates -/

/-- The predicate can be told from the start of any text that begins with a condition. -/
def Legible (table : Table) (left : Predicate) : Prop :=
  ∀ ⦃right : Predicate⦄ ⦃bound : Nat⦄ ⦃rest others : List Char⦄,
    right.WellFormed table →
    (condition table.name bound left).text ++ rest =
      (condition table.name bound right).text ++ others →
    left.shape = right.shape ∧ rest = others

variable {table : Table}

namespace Legible

theorem ofAsserts
    {column : String}
    {verb : Verb}
    {count : Nat}
    {left : Predicate}
    (asserted : Asserts column verb count left) :
    Legible table left := by
  intro right bound rest others _ same
  have quoted : mark right = '"' := by
    rw [← mark_eq_of_text same]
    cases asserted <;> rfl
  obtain ⟨otherColumn, otherVerb, otherCount, further⟩ := Asserts.of_mark quoted
  rw [asserted.text_eq, further.text_eq] at same
  simp only [List.append_assoc] at same
  obtain ⟨rfl, behindColumn⟩ :=
    columnName_append_inj (unquoted_of_isLink verb.isLink_words _)
      (unquoted_of_isLink otherVerb.isLink_words _) same
  obtain ⟨rfl, behindWords⟩ := Verb.prefixFree_words behindColumn
  exact asserted.shape_eq further behindWords

theorem like (column pattern : String) : Legible table (.like column pattern) := by
  intro right bound rest others wellFormed same
  have marks := mark_eq_of_text same
  cases wellFormed with
  | @like otherColumn otherPattern =>
      have cast : IsLink " AS VARCHAR(".toList := by decide +kernel
      rw [text_like, text_like] at same
      simp only [List.append_assoc] at same
      obtain ⟨rfl, behindColumn⟩ :=
        columnName_append_inj (unquoted_of_isLink cast _) (unquoted_of_isLink cast _)
          (List.append_cancel_left same)
      -- What follows is the same for all patterns.
      simp only [List.append_cancel_left_eq] at behindColumn
      exact ⟨rfl, behindColumn⟩
  | _ => simp [mark] at marks

theorem spatial (clause : SpatialClause) : Legible table (.spatial clause) := by
  intro right bound rest others wellFormed same
  have marks := mark_eq_of_text same
  cases wellFormed with
  | spatial => exact spatial_append_inj same
  | _ => simp [mark] at marks

end Legible

/-! ## Junctions -/

/-- The conditions of children, each behind the word that joins them. -/
def behindWords
    (table : TableName)
    (isConjunction : Bool)
    (bound : Nat)
    (children : List Predicate) :
    List Char :=
  (conditions table bound children).flatMap fun child => word isConjunction ++ child.text

theorem behindWords_cons
    (table : TableName)
    (isConjunction : Bool)
    (bound : Nat)
    (child : Predicate)
    (children : List Predicate) :
    behindWords table isConjunction bound (child :: children) =
      word isConjunction
        ++ ((condition table bound child).text
          ++ behindWords table isConjunction (bound + child.operands.length) children) := by
  rw [behindWords, conditions, List.flatMap_cons, values_condition, List.append_assoc]
  rfl

/-- No word starts with a closing parenthesis. -/
theorem closing_ne_word
    (isConjunction : Bool)
    (text rest : List Char) :
    ')' :: rest ≠ word isConjunction ++ text := by
  have closing : ¬[')'] <+: word isConjunction ∧ ¬word isConjunction <+: [')'] := by
    cases isConjunction <;> decide +kernel
  exact append_ne_append closing rest text

/-- Children can be told from the text behind the first one, and with them the word. -/
theorem behindWords_append_inj
    {lefts rights : List Predicate}
    (legible : ∀ left ∈ lefts, Legible table left)
    (wellFormed : ∀ right ∈ rights, right.WellFormed table)
    {isConjunction otherIsConjunction : Bool}
    {bound : Nat}
    {rest others : List Char}
    (same :
      behindWords table.name isConjunction bound lefts ++ ')' :: rest =
        behindWords table.name otherIsConjunction bound rights ++ ')' :: others) :
    shapes lefts = shapes rights ∧ rest = others ∧
      (lefts ≠ [] → isConjunction = otherIsConjunction) := by
  induction lefts generalizing rights bound with
  | nil =>
      cases rights with
      | nil => exact ⟨rfl, (List.cons.inj same).2, fun nonempty => (nonempty rfl).elim⟩
      | cons right rights =>
          rw [behindWords_cons, List.append_assoc] at same
          exact (closing_ne_word _ _ _ same).elim
  | cons left lefts induction =>
      cases rights with
      | nil =>
          rw [behindWords_cons, List.append_assoc] at same
          exact (closing_ne_word _ _ _ same.symm).elim
      | cons right rights =>
          rw [List.forall_mem_cons] at legible wellFormed
          rw [behindWords_cons, behindWords_cons] at same
          simp only [List.append_assoc] at same
          obtain ⟨words, behindWord⟩ := prefixFree_word same
          obtain ⟨shape, behindChild⟩ := legible.1 wellFormed.1 behindWord
          rw [Predicate.length_operands_of_shape shape] at behindChild
          obtain ⟨further, remaining, _⟩ := induction legible.2 wellFormed.2 behindChild
          refine ⟨?_, remaining, fun _ => words⟩
          rw [shapes, shapes, shape, further]

/-- The predicate joins the children, by a conjunction or by a disjunction. -/
inductive Joins (children : List Predicate) : Bool → Predicate → Prop where
  | and : Joins children true (.and children)
  | or : Joins children false (.or children)

namespace Joins

theorem of_mark
    {predicate : Predicate}
    (opened : mark predicate = '(') :
    ∃ children isConjunction, Joins children isConjunction predicate := by
  cases predicate with
  | and children => exact ⟨_, _, .and⟩
  | or children => exact ⟨_, _, .or⟩
  | _ => simp [mark] at opened

theorem wellFormed
    {children : List Predicate}
    {isConjunction : Bool}
    {predicate : Predicate}
    (joins : Joins children isConjunction predicate)
    (wellFormed : predicate.WellFormed table) :
    2 ≤ children.length ∧ ∀ child ∈ children, child.WellFormed table := by
  cases joins with
  | and =>
      cases wellFormed with
      | and several each => exact ⟨several, each⟩
  | or =>
      cases wellFormed with
      | or several each => exact ⟨several, each⟩

/-- The texts of the children in parentheses, with the word between them. -/
theorem text_eq
    {children : List Predicate}
    {isConjunction : Bool}
    {predicate : Predicate}
    (joins : Joins children isConjunction predicate)
    (table : TableName)
    (bound : Nat) :
    (condition table bound predicate).text =
      '(' :: (word isConjunction).intercalate
        ((conditions table bound children).map SqlFragment.text) ++ [')'] := by
  cases joins with
  | and => exact text_and table bound children
  | or => exact text_or table bound children

/-- The text of the first child, and the other ones behind words. -/
theorem text_eq_behindWords
    {first : Predicate}
    {children : List Predicate}
    {isConjunction : Bool}
    {predicate : Predicate}
    (joins : Joins (first :: children) isConjunction predicate)
    (table : TableName)
    (bound : Nat) :
    (condition table bound predicate).text =
      '(' :: ((condition table bound first).text
        ++ (behindWords table isConjunction (bound + first.operands.length) children
          ++ [')'])) := by
  rw [joins.text_eq, conditions, List.map_cons, intercalate_cons, values_condition, behindWords,
    List.flatMap_map, List.cons_append, List.append_assoc]

theorem shape_eq
    {lefts rights : List Predicate}
    {isConjunction : Bool}
    {left right : Predicate}
    (first : Joins lefts isConjunction left)
    (second : Joins rights isConjunction right)
    (same : shapes lefts = shapes rights) :
    left.shape = right.shape := by
  cases first with
  | and =>
      cases second
      exact congrArg Predicate.and same
  | or =>
      cases second
      exact congrArg Predicate.or same

end Joins

/-- A junction of several legible children is legible. -/
theorem Legible.ofJoins
    {children : List Predicate}
    {isConjunction : Bool}
    {left : Predicate}
    (joins : Joins children isConjunction left)
    (several : 2 ≤ children.length)
    (legible : ∀ child ∈ children, Legible table child) :
    Legible table left := by
  intro right bound rest others wellFormed same
  have opened : mark right = '(' := by
    rw [← mark_eq_of_text same]
    cases joins <;> rfl
  obtain ⟨furtherChildren, otherIsConjunction, further⟩ := Joins.of_mark opened
  obtain ⟨furtherSeveral, each⟩ := further.wellFormed wellFormed
  cases children with
  | nil => cases several
  | cons first lefts =>
      cases furtherChildren with
      | nil => cases furtherSeveral
      | cons other rights =>
          rw [List.forall_mem_cons] at legible each
          rw [joins.text_eq_behindWords, further.text_eq_behindWords] at same
          simp only [List.cons_append, List.append_assoc, List.nil_append] at same
          obtain ⟨shape, behindFirst⟩ := legible.1 each.1 (List.cons.inj same).2
          rw [Predicate.length_operands_of_shape shape] at behindFirst
          obtain ⟨laterShapes, remaining, words⟩ :=
            behindWords_append_inj legible.2 each.2 behindFirst
          -- The second child is there, and so is the word in front of it.
          have second : lefts ≠ [] := by
            rintro rfl
            simp at several
          obtain rfl := words second
          refine ⟨joins.shape_eq further ?_, remaining⟩
          rw [shapes, shapes, shape, laterShapes]

/-- With one child, it could not be told what joins it. -/
example (table : TableName) (bound : Nat) (child : Predicate) :
    (condition table bound (.and [child])).text = (condition table bound (.or [child])).text :=
  rfl

theorem legible_of_wellFormed
    {left : Predicate}
    (wellFormed : left.WellFormed table) :
    Legible table left := by
  induction wellFormed with
  | and several _ legible => exact .ofJoins .and several legible
  | or several _ legible => exact .ofJoins .or several legible
  | compare => exact .ofAsserts (.compare _ _)
  | isIn => exact .ofAsserts (.isIn _)
  | isNull => exact .ofAsserts .isNull
  | isNotNull => exact .ofAsserts .isNotNull
  | like => exact .like _ _
  | spatial => exact .spatial _

/--
Compiled predicates whose conditions have the same text have the same shape.  If
the bound values are the same too, the predicates are, apart from the supplied
geometries of their tests.
-/
theorem condition_unambiguous
    {operators otherOperators : OperatorTable}
    {first second : Filter}
    {left right : Predicate}
    (compiled : first.compile operators table = .ok (some left))
    (alsoCompiled : second.compile otherOperators table = .ok (some right))
    (sameText :
      (condition table.name 0 left).text = (condition table.name 0 right).text) :
    left.shape = right.shape ∧
      ((condition table.name 0 left).values = (condition table.name 0 right).values →
        left.withoutGeometries = right.withoutGeometries) := by
  have legible := legible_of_wellFormed (Filter.wellFormed_of_compile compiled)
  have wellFormed := Filter.wellFormed_of_compile alsoCompiled
  obtain ⟨sameShape, _⟩ := legible wellFormed (congrArg (· ++ []) sameText)
  refine ⟨sameShape, ?_⟩
  intro sameValues
  rw [values_condition, values_condition] at sameValues
  exact Predicate.withoutGeometries_eq_of_shape sameShape sameValues

/-- The filter within a block that joins it with nothing. -/
def rewrapped (filter : Filter) : Filter :=
  .block "OR" [.block "AND" [], filter]

theorem compile_rewrapped
    {operators : OperatorTable}
    {filter : Filter}
    {predicate : Predicate}
    (compiled : filter.compile operators table = .ok (some predicate)) :
    (rewrapped filter).compile operators table = .ok (some predicate) := by
  simp only [rewrapped, Filter.compile, Filter.compileChildren, compiled]
  rfl

/-- Two filters that differ in blocks which leave no trace. -/
theorem condition_unambiguous_rewrapped :
    ∃ left right,
      Filter.atTwoPointsOrListed.compile .standard parcelsTable = .ok (some left) ∧
      (rewrapped Filter.atTwoPointsOrListed).compile .standard parcelsTable =
        .ok (some right) ∧
      (condition parcelsTable.name 0 left).text = (condition parcelsTable.name 0 right).text ∧
      (condition parcelsTable.name 0 left).values =
        (condition parcelsTable.name 0 right).values ∧
      left.shape = right.shape ∧ left.withoutGeometries = right.withoutGeometries := by
  have compiled := Filter.compile_atTwoPointsOrListed
  have alsoCompiled := compile_rewrapped compiled
  obtain ⟨sameShape, determined⟩ := condition_unambiguous compiled alsoCompiled rfl
  exact ⟨_, _, compiled, alsoCompiled, rfl, rfl, sameShape, determined rfl⟩

end GeoTables.Sql
