import GeoTables.Proofs.Filter.Leaves
import GeoTables.Proofs.Filter.Sides
import GeoTables.Proofs.Table.Columns

/-!
# Spellings of a supplied geometry

A clause may supply a geometry with the reference system of its column in front of
it or without, in any letter case, and with blanks around it.  None of this is seen
in what the clause becomes, since both the geometry that is read and the choice of
the sides to split depend only on the trimmed text behind the reference, in
capitals.
-/

namespace GeoTables

open Text LocatedGeometry

namespace LocatedGeometry

/-- The text consists of the body, behind no spatial reference or behind the given one. -/
def Supplies (srid : Int) (text : String) (body : List Char) : Prop :=
  splitReference text = .ok (none, body) ∨ splitReference text = .ok (some srid, body)

/-- Both texts supply the same geometry, but for letter case, in the reference system. -/
def SuppliesSame (srid : Int) (left right : String) : Prop :=
  ∃ leftBody rightBody,
    Supplies srid left leftBody ∧ Supplies srid right rightBody ∧ SameLetters leftBody rightBody

variable {srid : Int} {text other : String}

theorem SuppliesSame.symm
    (same : SuppliesSame srid text other) :
    SuppliesSame srid other text := by
  obtain ⟨textBody, otherBody, own, others, letters⟩ := same
  exact ⟨otherBody, textBody, others, own, letters.symm⟩

theorem supplies_of_undeclared
    (undeclared : ¬DeclaresReference text) :
    Supplies srid text (trim text.toList) :=
  .inl (Divides.plain undeclared).splitReference_eq

/-- The text behind a declaration of the reference system. -/
def declaring (srid : Int) (text : String) : String :=
  "SRID=" ++ intText srid ++ ";" ++ text

/-- A declaration of the reference system itself makes no difference. -/
theorem suppliesSame_declaring
    (within : -2 ^ 31 ≤ srid ∧ srid < 2 ^ 31)
    (undeclared : ¬DeclaresReference text) :
    SuppliesSame srid text (declaring srid text) := by
  have parts :
      (declaring srid text).toList =
        [] ++ ("SRID=".toList ++ (intDigits srid ++ ';' :: text.toList)) := by
    simp [declaring, intText]
  have ends : ';' ∉ intDigits srid := by
    intro member
    rcases isDigit_or_sign_of_signed? (signed?_intDigits srid) ';' member with digit | sign | sign
    · cases digit
    · cases sign
    · cases sign
  have number : signedWithin? 32 (trim (intDigits srid)) = some srid := by
    rw [(visible_intDigits srid).trim_eq, signedWithin?, signed?_intDigits, Option.filter_some,
      if_pos]
    simpa using within
  have divides : Divides (declaring srid text) (some srid) text.toList :=
    .declared parts (List.forall_mem_nil _) rfl ends number
  exact ⟨_, _, supplies_of_undeclared undeclared, .inr divides.splitReference_eq, rfl⟩

/-- Letter case makes no difference. -/
theorem suppliesSame_of_sameLetters
    (undeclared : ¬DeclaresReference text)
    (letters : SameLetters text.toList other.toList) :
    SuppliesSame srid text other := by
  have trimmed : SameLetters (trim text.toList) (trim other.toList) := by
    rw [SameLetters, ← trim_capitals, letters, trim_capitals]
  have alsoUndeclared : ¬DeclaresReference other := by
    rwa [DeclaresReference, Wkt.isWord, ← capitals, ← capitals_take, ← trimmed, capitals_take]
  exact ⟨_, _, supplies_of_undeclared undeclared, supplies_of_undeclared alsoUndeclared, trimmed⟩

/-- Blanks around the text make no difference. -/
theorem suppliesSame_blanks
    (undeclared : ¬DeclaresReference text)
    {before after : String}
    (blankBefore : AllBlank before.toList)
    (blankAfter : AllBlank after.toList) :
    SuppliesSame srid text (before ++ text ++ after) := by
  have trimmed : trim (before ++ text ++ after).toList = trim text.toList := by
    rw [String.toList_append, String.toList_append, trim_append_blanks _ blankAfter,
      trim_blanks_append blankBefore]
  have alsoUndeclared : ¬DeclaresReference (before ++ text ++ after) := by
    rwa [DeclaresReference, trimmed]
  refine ⟨_, _, supplies_of_undeclared undeclared, supplies_of_undeclared alsoUndeclared, ?_⟩
  rw [trimmed]
  rfl

end LocatedGeometry

namespace Clause

variable
  {operators : OperatorTable}
  {table : Table}
  {column : Column}
  {srid : Int}
  {text : String}
  {body : List Char}

/-! ## What a supplied text comes to -/

/-- The geometry is read from the body. -/
theorem suppliedGeometry_eq_ok_iff
    (supplies : Supplies srid text body)
    {geometry : Geometry} :
    suppliedGeometry column srid text = .ok geometry ↔
      (Wkt.outcome Wkt.geometry (Wkt.tokens body)).1 = .ok geometry := by
  rw [suppliedGeometry]
  rcases supplies with split | split <;>
    · rw [ofText_of_splitReference split]
      cases (Wkt.outcome Wkt.geometry (Wkt.tokens body)).1 <;>
        simp [bind, Except.bind, pure, Except.pure]

/-- The sides to split are chosen by the body. -/
theorem namesSeveralParts_iff_of_supplies
    (supplies : Supplies srid text body) :
    GeometryCase.namesSeveralParts text = true ↔ GeometryCase.SpellsSeveral body := by
  rcases supplies with split | split <;>
    · obtain ⟨rest, divides, rfl⟩ := exists_divides_of_splitReference split
      exact GeometryCase.namesSeveralParts_iff divides

/-- A clause on a column with a text for a geometry. -/
def supplying (column : Column) (operator text : String) : Clause :=
  ⟨column.name, operator, some (.string text)⟩

/-- Texts that supply the same geometry make clauses become the same. -/
theorem compile_of_suppliesSame
    (found : table.column? column.name = some column)
    (geometric : column.isGeometry = true)
    (hasSrid : column.srid = some srid)
    {left right : String}
    (same : SuppliesSame srid left right)
    {operator : String}
    {predicate : Predicate}
    (compiled : (supplying column operator left).compile operators table = .ok predicate) :
    (supplying column operator right).compile operators table = .ok predicate := by
  obtain ⟨leftBody, rightBody, fromLeft, fromRight, letters⟩ := same
  obtain ⟨_, _, _, _, own, spelled, operand, located, supplied, rfl⟩ :=
    (becomes_of_compile compiled).exists_supplied found geometric
  cases hasSrid.symm.trans located
  cases operand
  -- The sides and the geometry depend on the bodies, which differ in letter case only.
  have several :
      GeometryCase.namesSeveralParts left = GeometryCase.namesSeveralParts right := by
    rw [Bool.eq_iff_iff, namesSeveralParts_iff_of_supplies fromLeft,
      namesSeveralParts_iff_of_supplies fromRight, GeometryCase.SpellsSeveral, letters,
      GeometryCase.SpellsSeveral]
  rw [suppliedGeometry_eq_ok_iff fromLeft, Wkt.geometry_of_sameLetters letters,
    ← @suppliedGeometry_eq_ok_iff column _ _ _ fromRight] at supplied
  have becomes : Becomes operators table (supplying column operator right) _ :=
    .spatial found own geometric spelled rfl hasSrid supplied
  rw [several]
  exact becomes.compile_eq_ok

/--
A clause becomes the same predicate, if it compiles at all, whether the text of its
geometry stands alone or behind a declaration of the reference system of the column,
in whichever letter case it is written, and with or without blanks around it.
-/
theorem compile_respelled
    (found : table.column? column.name = some column)
    (geometric : column.isGeometry = true)
    (hasSrid : column.srid = some srid)
    (within : -2 ^ 31 ≤ srid ∧ srid < 2 ^ 31)
    (undeclared : ¬DeclaresReference text)
    (operator : String)
    (predicate : Predicate) :
    ((supplying column operator text).compile operators table = .ok predicate ↔
      (supplying column operator (declaring srid text)).compile operators table =
        .ok predicate) ∧
    (∀ other : String, SameLetters text.toList other.toList →
      ((supplying column operator text).compile operators table = .ok predicate ↔
        (supplying column operator other).compile operators table = .ok predicate)) ∧
    ∀ before after : String, AllBlank before.toList → AllBlank after.toList →
      ((supplying column operator text).compile operators table = .ok predicate ↔
        (supplying column operator (before ++ text ++ after)).compile operators table =
          .ok predicate) := by
  have alike {other : String} (same : SuppliesSame srid text other) :
      (supplying column operator text).compile operators table = .ok predicate ↔
        (supplying column operator other).compile operators table = .ok predicate :=
    ⟨compile_of_suppliesSame found geometric hasSrid same,
      compile_of_suppliesSame found geometric hasSrid same.symm⟩
  refine ⟨alike (suppliesSame_declaring within undeclared), ?_, ?_⟩
  · exact fun other letters => alike (suppliesSame_of_sameLetters undeclared letters)
  · exact fun before after blankBefore blankAfter =>
      alike (suppliesSame_blanks undeclared blankBefore blankAfter)

/-- A point beyond all numbers, with the word for collections behind it. -/
def farPoint : String :=
  "Point(-inF +.5e1);gEometryCollection"

theorem compile_respelled_farPoint :
    ∃ predicate,
      (supplying parcelsTable.columns[2] "TOUCHES" farPoint).compile .standard parcelsTable =
        .ok predicate ∧
      (supplying parcelsTable.columns[2] "TOUCHES" (declaring 2056 farPoint)).compile .standard
        parcelsTable = .ok predicate ∧
      (supplying parcelsTable.columns[2] "TOUCHES"
        "POINT(-INF +.5E1);GEOMETRYCOLLECTION").compile .standard parcelsTable = .ok predicate ∧
      (supplying parcelsTable.columns[2] "TOUCHES"
        (" \t" ++ farPoint ++ "\u00a0\n")).compile .standard parcelsTable = .ok predicate := by
  have compiles :
      ((supplying parcelsTable.columns[2] "TOUCHES" farPoint).compile .standard
        parcelsTable).toOption.isSome = true := by
    decide +kernel
  have undeclared : ¬DeclaresReference farPoint := by
    rw [DeclaresReference]
    decide +kernel
  have letters :
      SameLetters farPoint.toList "POINT(-INF +.5E1);GEOMETRYCOLLECTION".toList := by
    rw [SameLetters]
    decide +kernel
  have blankBefore : AllBlank " \t".toList := by decide
  have blankAfter : AllBlank "\u00a0\n".toList := by decide
  cases compiled : (supplying parcelsTable.columns[2] "TOUCHES" farPoint).compile .standard
      parcelsTable with
  | error failure =>
      rw [compiled] at compiles
      cases compiles
  | ok predicate =>
      obtain ⟨behind, inCase, around⟩ :=
        @compile_respelled .standard parcelsTable parcelsTable.columns[2] 2056 farPoint
          rfl rfl rfl (by decide) undeclared "TOUCHES" predicate
      exact ⟨predicate, rfl, behind.mp compiled, (inCase _ letters).mp compiled,
        (around _ _ blankBefore blankAfter).mp compiled⟩

end Clause

end GeoTables
