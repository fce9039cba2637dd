import GeoTables.Proofs.Sql.Parameters
import Mathlib.Data.List.Basic

/-!
# Pieces of a condition

The pieces of which a condition is made can be told from the start of a longer
text: names by their quotes, whatever characters they contain, numerals by the
parenthesis behind them, and words because none of them continues another one.
A spatial test is told from its pieces, up to the geometry that it is bound to.
-/

namespace GeoTables.Sql

/-! ## Codes -/

/-- What is written can be told from the start of any text. -/
def PrefixFree {Piece : Type} (write : Piece → List Char) : Prop :=
  ∀ ⦃first second : Piece⦄ ⦃rest others : List Char⦄,
    write first ++ rest = write second ++ others → first = second ∧ rest = others

/-- Words can be told if none of them is the start of another one. -/
theorem PrefixFree.ofWords
    {Piece : Type}
    {write : Piece → List Char}
    (apart : ∀ first second, write first <+: write second → first = second) :
    PrefixFree write := by
  intro first second rest others same
  have ofFirst : write first <+: write second ++ others := same ▸ List.prefix_append _ _
  have ofSecond : write second <+: write second ++ others := List.prefix_append _ _
  obtain rfl : first = second :=
    (List.prefix_or_prefix_of_prefix ofFirst ofSecond).elim (apart first second)
      fun continued => (apart second first continued).symm
  exact ⟨rfl, List.append_cancel_left same⟩

/-- Different words can be told by a character behind them that none of them contains. -/
theorem PrefixFree.ofStop
    {Piece : Type}
    {write : Piece → List Char}
    {stop : Char}
    (distinct : ∀ {first second}, write first = write second → first = second)
    (absent : ∀ piece, stop ∉ write piece) :
    PrefixFree fun piece => write piece ++ [stop] := by
  have upToStop :
      ∀ piece rest,
        (write piece ++ stop :: rest).takeWhile (· != stop) = write piece := by
    intro piece rest
    rw [List.takeWhile_append_of_pos]
    · simp
    · intro character member
      have other : character ≠ stop := fun equal => absent piece (equal ▸ member)
      simpa using other
  intro first second rest others same
  simp only [List.append_assoc, List.singleton_append] at same
  have words : write first = write second := by
    rw [← upToStop first rest, same, upToStop]
  rw [words] at same
  exact ⟨distinct words, (List.cons.inj (List.append_cancel_left same)).2⟩

/-! ## Names -/

/-- The text does not start with a quote. -/
def Unquoted (text : List Char) : Prop :=
  text.head? ≠ some '"'

/-- What a text holds up to its closing quote, and what comes after it. -/
def splitQuoted : List Char → List Char × List Char
  | [] => ([], [])
  | '"' :: '"' :: rest =>
      let (name, after) := splitQuoted rest
      ('"' :: name, after)
  | '"' :: rest => ([], rest)
  | character :: rest =>
      let (name, after) := splitQuoted rest
      (character :: name, after)

theorem splitQuoted_doubled
    {rest : List Char}
    (stops : Unquoted rest)
    (name : List Char) :
    splitQuoted
        ((name.flatMap fun character =>
          if character = '"' then ['"', '"'] else [character]) ++ '"' :: rest) =
      (name, rest) := by
  induction name with
  | nil =>
      cases rest with
      | nil => rfl
      | cons next rest =>
          have notQuote : next ≠ '"' := fun equal => stops (equal ▸ rfl)
          simp [splitQuoted, notQuote]
  | cons character name induction =>
      by_cases isQuote : character = '"'
      · subst isQuote
        simp [splitQuoted, induction]
      · simp [splitQuoted, isQuote, induction]

/-- Names are told apart by their quotes, whatever characters they contain. -/
theorem identifier_append_inj
    {first second : String}
    {rest others : List Char}
    (stops : Unquoted rest)
    (ends : Unquoted others)
    (same : identifier first ++ rest = identifier second ++ others) :
    first = second ∧ rest = others := by
  simp only [identifier, List.cons_append, List.append_assoc, List.cons.injEq, true_and,
    List.nil_append] at same
  have split := congrArg splitQuoted same
  rw [splitQuoted_doubled stops, splitQuoted_doubled ends, Prod.mk.injEq] at split
  exact ⟨String.toList_inj.mp split.1, split.2⟩

theorem columnName_append_inj
    {table : TableName}
    {first second : String}
    {rest others : List Char}
    (stops : Unquoted rest)
    (ends : Unquoted others)
    (same : columnName table first ++ rest = columnName table second ++ others) :
    first = second ∧ rest = others := by
  simp only [columnName, List.append_assoc] at same
  have behindTable := List.append_cancel_left same
  exact identifier_append_inj stops ends (List.cons.inj behindTable).2

/-- A link is no quote. -/
theorem unquoted_of_isLink
    {link : List Char}
    (isLink : IsLink link)
    (rest : List Char) :
    Unquoted (link ++ rest) := by
  cases link with
  | nil => cases isLink.1
  | cons character link =>
      have separates : Separates character := by simpa using isLink.1
      intro quoted
      exact separates.1 (Option.some.inj quoted)

/-! ## Numerals -/

theorem natDigits_injective
    {first second : Nat}
    (same : Text.natDigits first = Text.natDigits second) :
    first = second := by
  rw [← Text.digitsValue_natDigits first, same, Text.digitsValue_natDigits]

theorem intDigits_injective
    {first second : Int}
    (same : Text.intDigits first = Text.intDigits second) :
    first = second := by
  have noSign :
      ∀ value rest, Text.natDigits value ≠ '-' :: rest := by
    intro value rest equal
    have digit := Text.AllDigits.natDigits value '-' (by simp [equal])
    cases digit
  cases first with
  | ofNat first =>
      cases second with
      | ofNat second => exact congrArg Int.ofNat (natDigits_injective same)
      | negSucc second => exact (noSign _ _ same).elim
  | negSucc first =>
      cases second with
      | ofNat second => exact (noSign _ _ same.symm).elim
      | negSucc second =>
          have magnitudes := natDigits_injective (List.cons.inj same).2
          exact congrArg Int.negSucc (Nat.succ.inj magnitudes)

/-- No numeral contains a parenthesis. -/
theorem closing_notMem_intDigits (value : Int) : ')' ∉ Text.intDigits value := by
  have inDigits : ∀ value, ')' ∉ Text.natDigits value := by
    intro value member
    have digit := Text.AllDigits.natDigits value ')' member
    cases digit
  cases value with
  | ofNat value => exact inDigits value
  | negSucc value =>
      rw [Text.intDigits, List.mem_cons, not_or]
      exact ⟨by decide, inDigits _⟩

theorem prefixFree_intDigits : PrefixFree fun value => Text.intDigits value ++ [')'] :=
  .ofStop intDigits_injective closing_notMem_intDigits

theorem prefixFree_dimension :
    PrefixFree fun dimension : Dimension => Text.natDigits dimension.code ++ [')'] := by
  apply PrefixFree.ofWords
  intro first second
  cases first <;> cases second <;> decide +kernel

/-! ## Words -/

/-- Two words of which neither starts the other one start different texts. -/
theorem append_ne_append
    {first second : List Char}
    (apart : ¬first <+: second ∧ ¬second <+: first)
    (rest others : List Char) :
    first ++ rest ≠ second ++ others := by
  intro same
  have ofFirst : first <+: second ++ others := same ▸ List.prefix_append _ _
  have ofSecond : second <+: second ++ others := List.prefix_append _ _
  exact (List.prefix_or_prefix_of_prefix ofFirst ofSecond).elim apart.1 apart.2

theorem prefixFree_functionName :
    PrefixFree fun test : SpatialTest => test.functionName.toList ++ ['('] := by
  apply PrefixFree.ofWords
  intro first second
  cases first <;> cases second <;> decide +kernel

/-- The word between the children of a conjunction or of a disjunction. -/
def word (isConjunction : Bool) : List Char :=
  if isConjunction then " AND ".toList else " OR ".toList

theorem prefixFree_word : PrefixFree word := by
  apply PrefixFree.ofWords
  decide +kernel

/-- What a leaf says of the column that it starts with. -/
inductive Verb where
  | compare (comparison : Comparison)
  | isIn
  | isNull
  | isNotNull
  deriving DecidableEq

namespace Verb

/-- The words behind the column. -/
def words : Verb → List Char
  | .compare comparison => ' ' :: comparison.sign.toList ++ [' ']
  | .isIn => " IN (".toList
  | .isNull => " IS NULL".toList
  | .isNotNull => " IS NOT NULL".toList

/-- All verbs. -/
def all : List Verb :=
  Comparison.all.map compare ++ [isIn, isNull, isNotNull]

theorem mem_all (verb : Verb) : verb ∈ all := by
  cases verb with
  | compare comparison => cases comparison <;> decide
  | _ => decide

theorem prefixFree_words : PrefixFree words := by
  have apart :
      ∀ first ∈ all, ∀ second ∈ all, first.words <+: second.words → first = second := by
    decide +kernel
  exact .ofWords fun first second => apart first first.mem_all second second.mem_all

theorem isLink_words (verb : Verb) : IsLink verb.words := by
  have each : ∀ verb ∈ all, IsLink verb.words := by
    decide +kernel
  exact each verb verb.mem_all

end Verb

/-! ## Spatial tests -/

theorem call_append
    (name : String)
    (first second rest : List Char) :
    call name first second ++ rest =
      (name.toList ++ ['('])
        ++ (first ++ (", ".toList ++ (second ++ ')' :: rest))) := by
  simp only [call, List.append_assoc, List.cons_append, List.nil_append]

/-- Narrowed geometries are told apart if the geometries are. -/
theorem narrowed_append_inj
    {Same : Prop}
    {left right : List Char}
    (leftApart : ∀ rest others, left ++ rest ≠ "ST_CollectionExtract".toList ++ others)
    (rightApart : ∀ rest others, right ++ rest ≠ "ST_CollectionExtract".toList ++ others)
    (legible :
      ∀ {rest others},
        Unquoted rest → Unquoted others → left ++ rest = right ++ others →
        Same ∧ rest = others)
    {first second : Option Dimension}
    {rest others : List Char}
    (stops : Unquoted rest)
    (ends : Unquoted others)
    (same : narrowed left first ++ rest = narrowed right second ++ others) :
    Same ∧ first = second ∧ rest = others := by
  have comma : IsLink ", ".toList := by decide +kernel
  cases first with
  | none =>
      cases second with
      | none =>
          obtain ⟨geometries, remaining⟩ := legible stops ends same
          exact ⟨geometries, rfl, remaining⟩
      | some dimension =>
          rw [narrowed, narrowed, call_append, List.append_assoc] at same
          exact (leftApart _ _ same).elim
  | some dimension =>
      cases second with
      | none =>
          rw [narrowed, narrowed, call_append, List.append_assoc] at same
          exact (rightApart _ _ same.symm).elim
      | some other =>
          rw [narrowed, narrowed, call_append, call_append] at same
          obtain ⟨geometries, behind⟩ :=
            legible (unquoted_of_isLink comma _) (unquoted_of_isLink comma _)
              (List.append_cancel_left same)
          have codes :
              (Text.natDigits dimension.code ++ [')']) ++ rest =
                (Text.natDigits other.code ++ [')']) ++ others := by
            simpa using behind
          obtain ⟨rfl, remaining⟩ := prefixFree_dimension codes
          exact ⟨geometries, rfl, remaining⟩

/-- The name of a column starts with a quote, a narrowed geometry does not. -/
theorem columnName_append_ne
    (table : TableName)
    (column : String)
    (rest others : List Char) :
    columnName table column ++ rest ≠ "ST_CollectionExtract".toList ++ others := by
  have quote :
      ¬['"'] <+: "ST_CollectionExtract".toList ∧ ¬"ST_CollectionExtract".toList <+: ['"'] := by
    decide +kernel
  exact append_ne_append quote _ _

/-- A geometry that is read from a text is not narrowed. -/
theorem supplied_append_ne (first second rest others : List Char) :
    call "ST_GeomFromText" first second ++ rest ≠ "ST_CollectionExtract".toList ++ others := by
  rw [call_append]
  exact append_ne_append (by decide +kernel) _ _

/-- Geometries that are read from one text are told apart by their reference systems. -/
theorem supplied_append_inj
    {text rest others : List Char}
    {first second : Int}
    (same :
      call "ST_GeomFromText" text (Text.intDigits first) ++ rest =
        call "ST_GeomFromText" text (Text.intDigits second) ++ others) :
    first = second ∧ rest = others := by
  rw [call_append, call_append] at same
  have behindText :=
    List.append_cancel_left (List.append_cancel_left (List.append_cancel_left same))
  have numerals :
      (Text.intDigits first ++ [')']) ++ rest = (Text.intDigits second ++ [')']) ++ others := by
    simpa using behindText
  exact prefixFree_intDigits numerals

theorem spatial_append_inj
    {table : TableName}
    {bound : Nat}
    {left right : SpatialClause}
    {rest others : List Char}
    (same : (spatial table bound left).text ++ rest = (spatial table bound right).text ++ others) :
    (Predicate.spatial left).shape = (Predicate.spatial right).shape ∧ rest = others := by
  have comma : IsLink ", ".toList := by decide +kernel
  have closing : IsLink [')'] := by decide
  simp only [spatial, call_append] at same
  obtain ⟨tests, behindTest⟩ := prefixFree_functionName same
  obtain ⟨columns, storedParts, behindStored⟩ :=
    narrowed_append_inj (columnName_append_ne table left.column)
      (columnName_append_ne table right.column) columnName_append_inj
      (unquoted_of_isLink comma _) (unquoted_of_isLink comma _) behindTest
  obtain ⟨srids, valueParts, behindSupplied⟩ :=
    narrowed_append_inj (supplied_append_ne _ _) (supplied_append_ne _ _)
      (fun _ _ => supplied_append_inj) (unquoted_of_isLink closing rest)
      (unquoted_of_isLink closing others) (List.append_cancel_left behindStored)
  refine ⟨?_, (List.cons.inj behindSupplied).2⟩
  simp [Predicate.shape, tests, columns, storedParts, srids, valueParts]

end GeoTables.Sql
