import GeoTables.Proofs.Predicate.Operands
import GeoTables.Proofs.Predicate.WellFormed
import GeoTables.Proofs.Sql.Tokens

/-!
# Parameters of SQL conditions

Whatever characters stand in names and operands, the text of a condition is
read back as intended: its placeholders are numbered without gaps from left to
right, one for each bound value, and its identifiers are the names of the table
and of the columns of the predicate.  The operands are the bound values and
leave no trace in the text.
-/

namespace GeoTables

namespace Sql

open Predicate (operandsOf shapes)

/-! ## Numbered pieces -/

/--
The text is read as tokens with `count` placeholders, numbered after `bound`
other ones, and with identifiers of allowed names only.
-/
def Numbers (allowed : String → Prop) (bound count : Nat) (text : List Char) : Prop :=
  ∃ tokens,
    Reads text tokens ∧
      placeholdersIn tokens = (List.range' (bound + 1) count).map Text.natDigits ∧
      ∀ name ∈ identifiersIn tokens, allowed name

/-- Plain characters that may stand behind anything. -/
def IsLink (link : List Char) : Prop :=
  (link.head?.any fun character => Separates character) = true ∧
    IsPlainText link

instance (link : List Char) : Decidable (IsLink link) :=
  inferInstanceAs (Decidable (_ ∧ _))

variable {allowed : String → Prop}

namespace Numbers

theorem nil (bound : Nat) : Numbers allowed bound 0 [] :=
  ⟨[], .nil, rfl, by simp [identifiersIn]⟩

theorem identifier
    {name : String}
    (isAllowed : allowed name)
    (bound : Nat) :
    Numbers allowed bound 0 (Sql.identifier name) :=
  ⟨_, .identifier name, rfl, by simpa [identifiersIn] using isAllowed⟩

theorem placeholder (bound : Nat) : Numbers allowed bound 1 (Sql.placeholder bound) :=
  ⟨_, .placeholder bound, rfl, by simp [identifiersIn]⟩

/-- Two pieces, the second of which starts with a separator. -/
theorem append
    {bound count others : Nat}
    {left rest : List Char}
    {character : Char}
    (first : Numbers allowed bound count left)
    (separates : Separates character)
    (second : Numbers allowed (bound + count) others (character :: rest)) :
    Numbers allowed bound (count + others) (left ++ character :: rest) := by
  obtain ⟨leftTokens, readsLeft, leftNumbered, leftNames⟩ := first
  obtain ⟨rightTokens, readsRight, rightNumbered, rightNames⟩ := second
  refine ⟨_, readsLeft.append separates readsRight, ?_, ?_⟩
  · rw [placeholdersIn, List.filterMap_append, ← placeholdersIn, ← placeholdersIn, leftNumbered,
      rightNumbered, ← List.map_append, ← List.range'_append_1, Nat.add_right_comm]
  · intro name member
    rw [identifiersIn, List.filterMap_append, ← identifiersIn, ← identifiersIn,
      List.mem_append] at member
    exact member.elim (leftNames name) (rightNames name)

/-- Plain characters in front of a piece. -/
theorem plain
    {bound count : Nat}
    {text rest : List Char}
    (each : IsPlainText text)
    (numbers : Numbers allowed bound count rest) :
    Numbers allowed bound count (text ++ rest) := by
  obtain ⟨tokens, reads, numbered, names⟩ := numbers
  refine ⟨_, reads.plain each, ?_, ?_⟩
  · simpa [placeholdersIn, List.filterMap_append, List.filterMap_map] using numbered
  · simpa [identifiersIn, List.filterMap_append, List.filterMap_map] using names

/-- Plain characters on their own. -/
theorem ofPlain
    {text : List Char}
    (each : IsPlainText text)
    (bound : Nat) :
    Numbers allowed bound 0 text := by
  simpa using plain each (nil bound)

/-- Two pieces with plain characters between them, the first of which separates. -/
theorem linked
    {bound count others : Nat}
    {left link right : List Char}
    (first : Numbers allowed bound count left)
    (isLink : IsLink link)
    (second : Numbers allowed (bound + count) others right) :
    Numbers allowed bound (count + others) (left ++ (link ++ right)) := by
  obtain ⟨separates, each⟩ := isLink
  cases link with
  | nil => cases separates
  | cons character link => exact first.append (by simpa using separates) (second.plain each)

/-- A piece with plain characters behind it, the first of which separates. -/
theorem ended
    {bound count : Nat}
    {text link : List Char}
    (numbers : Numbers allowed bound count text)
    (isLink : IsLink link) :
    Numbers allowed bound count (text ++ link) := by
  simpa using numbers.linked isLink (nil (bound + count))

end Numbers

/-! ## Names and calls -/

theorem isPlain_of_isDigit
    {character : Char}
    (digit : character.isDigit = true) :
    IsPlain character :=
  ⟨Text.ne_of_isDigit digit rfl, Text.ne_of_isDigit digit rfl⟩

namespace Numbers

theorem natDigits (bound value : Nat) : Numbers allowed bound 0 (Text.natDigits value) :=
  ofPlain
    (fun _ member => isPlain_of_isDigit (Text.AllDigits.natDigits value _ member)) bound

theorem intDigits (bound : Nat) (value : Int) :
    Numbers allowed bound 0 (Text.intDigits value) := by
  cases value with
  | ofNat value => exact natDigits bound value
  | negSucc value =>
      have minus : IsPlainText ['-'] := by decide
      exact plain minus (natDigits bound (value + 1))

/-- A call whose arguments are numbered one after the other. -/
theorem call
    {bound count others : Nat}
    {name : String}
    {first second : List Char}
    (plainName : IsPlainText name.toList)
    (numbersFirst : Numbers allowed bound count first)
    (numbersSecond : Numbers allowed (bound + count) others second) :
    Numbers allowed bound (count + others) (Sql.call name first second) := by
  have comma : IsLink ", ".toList := by decide +kernel
  have closing : IsLink [')'] := by decide
  have arguments := (numbersFirst.linked comma numbersSecond).ended closing
  have opening : IsPlainText ['('] := by decide
  have whole := plain plainName (plain opening arguments)
  simpa [Sql.call] using whole

/-- A narrowed geometry is numbered like the geometry. -/
theorem narrowed
    {bound count : Nat}
    {geometry : List Char}
    (numbers : Numbers allowed bound count geometry)
    (part : Option Dimension) :
    Numbers allowed bound count (Sql.narrowed geometry part) := by
  cases part with
  | none => exact numbers
  | some dimension =>
      exact call (by decide +kernel) numbers (natDigits (bound + count) dimension.code)

end Numbers

/-- The name is that of the schema, of the table or of one of the columns. -/
def IsNamed (table : TableName) (columns : List String) (name : String) : Prop :=
  name = table.schema ∨ name = table.table ∨ name ∈ columns

variable {columns : List String}

namespace Numbers

theorem columnName
    (table : TableName)
    {column : String}
    (member : column ∈ columns)
    (bound : Nat) :
    Numbers (IsNamed table columns) bound 0 (Sql.columnName table column) := by
  have schemaNamed : IsNamed table columns table.schema := .inl rfl
  have tableNamed : IsNamed table columns table.table := .inr (.inl rfl)
  have columnNamed : IsNamed table columns column := .inr (.inr member)
  have point : IsLink ['.'] := by decide
  have qualified :=
    ((identifier schemaNamed bound).linked point (identifier tableNamed _)).linked point
      (identifier columnNamed _)
  simpa [Sql.columnName, tableName] using qualified

/-- Plain characters and a piece behind the name of a column. -/
theorem behindColumn
    (table : TableName)
    {column : String}
    (member : column ∈ columns)
    {bound count : Nat}
    {link right : List Char}
    (isLink : IsLink link)
    (numbers : Numbers (IsNamed table columns) bound count right) :
    Numbers (IsNamed table columns) bound count
      (Sql.columnName table column ++ (link ++ right)) := by
  simpa only [Nat.zero_add] using (columnName table member bound).linked isLink numbers

end Numbers

/-! ## Texts -/

/-- A conjunction: the texts of the children in parentheses, with the word between them. -/
theorem text_and
    (table : TableName)
    (bound : Nat)
    (children : List Predicate) :
    (condition table bound (.and children)).text =
      '(' :: " AND ".toList.intercalate
        ((conditions table bound children).map SqlFragment.text) ++ [')'] := rfl

theorem text_or
    (table : TableName)
    (bound : Nat)
    (children : List Predicate) :
    (condition table bound (.or children)).text =
      '(' :: " OR ".toList.intercalate
        ((conditions table bound children).map SqlFragment.text) ++ [')'] := rfl

/-- A comparison: the column, the sign between blanks and the placeholder. -/
theorem text_compare
    (table : TableName)
    (bound : Nat)
    (column : String)
    (comparison : Comparison)
    (operand : Value) :
    (condition table bound (.compare column comparison operand)).text =
      columnName table column
        ++ ((' ' :: comparison.sign.toList ++ [' ']) ++ placeholder bound) := by
  change columnName table column ++ ' ' :: comparison.sign.toList ++ ' ' :: placeholder bound = _
  simp only [List.append_assoc, List.cons_append, List.nil_append]

/-- A pattern: the column cast to a text, and the placeholder. -/
theorem text_like
    (table : TableName)
    (bound : Nat)
    (column pattern : String) :
    (condition table bound (.like column pattern)).text =
      "CAST(".toList
        ++ (columnName table column
          ++ (" AS VARCHAR(".toList
            ++ (Text.natDigits Predicate.patternLength
              ++ (")) LIKE ".toList ++ placeholder bound)))) := by
  change
    "CAST(".toList ++ columnName table column ++ " AS VARCHAR(".toList
        ++ Text.natDigits Predicate.patternLength ++ ")) LIKE ".toList ++ placeholder bound = _
  simp only [List.append_assoc]

/-- A list of members: the column and the placeholders in parentheses. -/
theorem text_isIn
    (table : TableName)
    (bound : Nat)
    (column : String)
    (members : List Value) :
    (condition table bound (.isIn column members)).text =
      columnName table column
        ++ (" IN (".toList
          ++ (", ".toList.intercalate (placeholders bound members.length) ++ [')'])) := by
  change
    columnName table column ++ " IN (".toList
        ++ ", ".toList.intercalate (placeholders bound members.length) ++ [')'] = _
  simp only [List.append_assoc]

/-! ## Leaves -/

namespace Numbers

theorem compare
    (table : TableName)
    {column : String}
    (member : column ∈ columns)
    (bound : Nat)
    (comparison : Comparison)
    (operand : Value) :
    Numbers (IsNamed table columns) bound 1
      (condition table bound (.compare column comparison operand)).text := by
  have sign : IsLink (' ' :: comparison.sign.toList ++ [' ']) := by
    cases comparison <;> decide +kernel
  rw [text_compare]
  exact behindColumn table member sign (placeholder bound)

theorem like
    (table : TableName)
    {column : String}
    (member : column ∈ columns)
    (bound : Nat)
    (pattern : String) :
    Numbers (IsNamed table columns) bound 1
      (condition table bound (.like column pattern)).text := by
  have cast : IsLink " AS VARCHAR(".toList := by decide +kernel
  have isLike : IsLink ")) LIKE ".toList := by decide +kernel
  have opening : IsPlainText "CAST(".toList := by decide +kernel
  rw [text_like]
  exact plain opening (behindColumn table member cast
    (Nat.zero_add 1 ▸
      (natDigits bound Predicate.patternLength).linked isLike (placeholder bound)))

theorem spatial
    (table : TableName)
    {clause : SpatialClause}
    (member : clause.column ∈ columns)
    (bound : Nat) :
    Numbers (IsNamed table columns) bound 1 (Sql.spatial table bound clause).text := by
  have testName : IsPlainText clause.test.functionName.toList := by
    cases clause.test <;> decide +kernel
  have supplied : Numbers (IsNamed table columns) bound 1
      (Sql.call "ST_GeomFromText" (Sql.placeholder bound) (Text.intDigits clause.srid)) :=
    call (by decide +kernel) (placeholder bound) (intDigits _ _)
  exact Nat.zero_add 1 ▸
    call testName ((columnName table member bound).narrowed _) (supplied.narrowed _)

end Numbers

/-! ## Pieces with separators between them -/

/-- Pieces that are numbered one after the other. -/
inductive Numbered (allowed : String → Prop) : Nat → Nat → List (List Char) → Prop where
  | nil (bound : Nat) : Numbered allowed bound 0 []
  | cons
      {bound count others : Nat}
      {text : List Char}
      {rest : List (List Char)}
      (first : Numbers allowed bound count text)
      (further : Numbered allowed (bound + count) others rest) :
      Numbered allowed bound (count + others) (text :: rest)

theorem Numbered.intercalate
    {separator : List Char}
    (isLink : IsLink separator)
    {bound count : Nat}
    {texts : List (List Char)}
    (numbered : Numbered allowed bound count texts) :
    Numbers allowed bound count (separator.intercalate texts) := by
  induction numbered with
  | nil bound => exact .nil bound
  | cons first further induction =>
      cases further with
      | nil => simpa using first
      | cons second others =>
          rw [List.intercalate_cons_cons, List.append_assoc]
          exact first.linked isLink induction

theorem placeholders_succ (bound count : Nat) :
    placeholders bound (count + 1) =
      placeholder bound :: placeholders (bound + 1) count := by
  simp [placeholders, List.range_succ_eq_map, Nat.add_comm, Nat.add_left_comm]

theorem numbered_placeholders (bound count : Nat) :
    Numbered allowed bound count (placeholders bound count) := by
  induction count generalizing bound with
  | zero => exact .nil bound
  | succ count induction =>
      rw [placeholders_succ, Nat.add_comm]
      exact .cons (.placeholder bound) (induction (bound + 1))

theorem Numbers.isIn
    (table : TableName)
    {column : String}
    (member : column ∈ columns)
    (bound : Nat)
    (members : List Value) :
    Numbers (IsNamed table columns) bound members.length
      (condition table bound (.isIn column members)).text := by
  have opening : IsLink " IN (".toList := by decide +kernel
  have comma : IsLink ", ".toList := by decide +kernel
  have closing : IsLink [')'] := by decide
  rw [text_isIn]
  exact behindColumn table member opening
    (((numbered_placeholders bound members.length).intercalate comma).ended closing)

/-! ## Conditions -/

mutual

/-- The bound values are the operands. -/
theorem values_condition
    (table : TableName) :
    ∀ (bound : Nat) (predicate : Predicate),
      (condition table bound predicate).values = predicate.operands
  | bound, .and children | bound, .or children => values_conditions table bound children
  | _, .compare _ _ _ | _, .like _ _ | _, .isIn _ _ | _, .isNull _ | _, .isNotNull _
  | _, .spatial _ => rfl

theorem values_conditions
    (table : TableName) :
    ∀ (bound : Nat) (children : List Predicate),
      (conditions table bound children).flatMap SqlFragment.values = operandsOf children
  | _, [] => rfl
  | bound, child :: rest => by
      simp only [conditions, List.flatMap_cons, operandsOf, values_condition table bound child,
        values_conditions table _ rest]

end

/-- A junction of numbered pieces. -/
theorem Numbers.junction
    {bound count : Nat}
    {separator : String}
    (isLink : IsLink separator.toList)
    {parts : List SqlFragment}
    (numbered : Numbered allowed bound count (parts.map SqlFragment.text)) :
    Numbers allowed bound count (Sql.junction separator parts).text := by
  have opening : IsPlainText ['('] := by decide
  have closing : IsLink [')'] := by decide
  have whole := plain opening ((numbered.intercalate isLink).ended closing)
  simpa [Sql.junction] using whole

mutual

/-- A condition numbers its operands and names nothing but its table and columns. -/
theorem numbers_condition
    (table : TableName) :
    ∀ (bound : Nat) (predicate : Predicate),
      predicate.leafColumns ⊆ columns →
      Numbers (IsNamed table columns) bound predicate.operands.length
        (condition table bound predicate).text
  | bound, .and children, named =>
      .junction (by decide +kernel) (numbered_conditions table bound children named)
  | bound, .or children, named =>
      .junction (by decide +kernel) (numbered_conditions table bound children named)
  | bound, .compare column comparison operand, named =>
      .compare table (named (List.mem_singleton_self column)) bound comparison operand
  | bound, .like column pattern, named =>
      .like table (named (List.mem_singleton_self column)) bound pattern
  | bound, .isIn column members, named =>
      .isIn table (named (List.mem_singleton_self column)) bound members
  | bound, .isNull column, named | bound, .isNotNull column, named =>
      (Numbers.columnName table (named (List.mem_singleton_self column)) bound).ended
        (by decide +kernel)
  | bound, .spatial clause, named =>
      .spatial table (named (List.mem_singleton_self clause.column)) bound

theorem numbered_conditions
    (table : TableName) :
    ∀ (bound : Nat) (children : List Predicate),
      Predicate.leafColumnsOf children ⊆ columns →
      Numbered (IsNamed table columns) bound (operandsOf children).length
        ((conditions table bound children).map SqlFragment.text)
  | bound, [], _ => .nil bound
  | bound, child :: rest, named => by
      obtain ⟨own, others⟩ := List.append_subset.mp named
      rw [operandsOf, List.length_append, conditions, values_condition, List.map_cons]
      exact .cons (numbers_condition table bound child own)
        (numbered_conditions table _ rest others)

end

/-! ## Texts without operands -/

mutual

/-- The text of a condition is determined by the shape of the predicate. -/
theorem text_condition_shape
    (table : TableName) :
    ∀ (bound : Nat) (predicate : Predicate),
      (condition table bound predicate.shape).text = (condition table bound predicate).text
  | bound, .and children => by
      rw [Predicate.shape, text_and, text_and, texts_conditions_shapes table bound children]
  | bound, .or children => by
      rw [Predicate.shape, text_or, text_or, texts_conditions_shapes table bound children]
  | _, .compare _ _ _ | _, .like _ _ | _, .isNull _ | _, .isNotNull _ | _, .spatial _ => rfl
  | _, .isIn _ members => by
      rw [Predicate.shape, text_isIn, text_isIn, List.length_map]

theorem texts_conditions_shapes
    (table : TableName) :
    ∀ (bound : Nat) (children : List Predicate),
      (conditions table bound (shapes children)).map SqlFragment.text =
        (conditions table bound children).map SqlFragment.text
  | _, [] => rfl
  | bound, child :: rest => by
      rw [shapes, conditions, conditions, List.map_cons, List.map_cons, values_condition,
        values_condition, Predicate.length_operands_shape, text_condition_shape table bound child,
        texts_conditions_shapes table _ rest]

end

/--
The text of a condition is read as tokens whose placeholders count the bound
values from one on and whose identifiers are names of the table and of the
columns of the predicate.  The bound values are the operands from left to right,
and the text is the same for every predicate that differs in operands only.
-/
theorem condition_parameterised
    (table : TableName)
    (predicate : Predicate) :
    (∃ tokens,
      tokens? (condition table 0 predicate).text = some tokens ∧
        placeholdersIn tokens =
          (List.range' 1 (condition table 0 predicate).values.length).map Text.natDigits ∧
        ∀ name ∈ identifiersIn tokens,
          name = table.schema ∨ name = table.table ∨ name ∈ predicate.columns) ∧
    (condition table 0 predicate).values = predicate.operands ∧
    ∀ other : Predicate,
      other.shape = predicate.shape →
      (condition table 0 other).text = (condition table 0 predicate).text := by
  refine ⟨?_, values_condition table 0 predicate, ?_⟩
  · have named : predicate.leafColumns ⊆ predicate.columns :=
      fun _ member => List.mem_eraseDups.mpr member
    obtain ⟨tokens, reads, numbered, names⟩ := numbers_condition table 0 predicate named
    rw [values_condition]
    exact ⟨tokens, reads.tokens?_eq, numbered, names⟩
  · intro other sameShape
    rw [← text_condition_shape, sameShape, text_condition_shape]

/-- A table whose names look like the end of an identifier and the start of a condition. -/
def disguisedTable : TableName :=
  ⟨"a\"b", "\" OR $1 = \""⟩

/-- A comparison and a list whose columns look like conditions. -/
def disguisedColumns (first second third : Value) : Predicate :=
  .and [.compare "x\" = $9" .ne first, .isIn ") OR (" [second, third]]

theorem condition_parameterised_disguised :
    let written := condition disguisedTable 0
    let predicate := disguisedColumns (.int 1) (.string "\"") (.int 3)
    (∃ tokens,
      tokens? (written predicate).text = some tokens ∧
        placeholdersIn tokens = [['1'], ['2'], ['3']] ∧
        ∀ name ∈ identifiersIn tokens,
          name = "a\"b" ∨ name = "\" OR $1 = \"" ∨ name ∈ predicate.columns) ∧
    (written predicate).values = [.int 1, .string "\"", .int 3] ∧
    (written (disguisedColumns (.bool true) (.string "$4") .null)).text =
      (written predicate).text := by
  intro written predicate
  obtain ⟨⟨tokens, read, numbered, named⟩, values, unaffected⟩ :=
    condition_parameterised disguisedTable predicate
  have digits : placeholdersIn tokens = [['1'], ['2'], ['3']] :=
    numbered.trans (by decide +kernel)
  exact ⟨⟨tokens, read, digits, named⟩, values, unaffected _ rfl⟩

end Sql

end GeoTables
