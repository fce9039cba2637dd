import GeoTables.Proofs.Filter.Sides
import GeoTables.Proofs.Table.Columns

/-!
# Classification

A clause is classified by the text of the supplied geometry before anything is
made of it.  This agrees with the geometry that the text is read as, wherever
words and blanks stand in it, as long as nothing follows the geometry.
-/

namespace GeoTables

/-- The geometry is a list of parts or a collection. -/
def Geometry.isSeveral : Geometry → Bool
  | .multiPoint _ | .multiLineString _ | .multiPolygon _ | .collection _ => true
  | .point _ | .segment _ _ | .lineString _ | .polygon _ | .rectangle _ _ | .triangle _ _ _ => false

namespace GeometryCase

/-- The stored side may consist of several parts. -/
def stored : GeometryCase → Bool
  | .direct | .suppliedCollection => false
  | .storedCollection | .bothCollections => true

/-- The supplied side may consist of several parts. -/
def supplied : GeometryCase → Bool
  | .direct | .storedCollection => false
  | .suppliedCollection | .bothCollections => true

@[simp]
theorem stored_ofSides (left right : Bool) : (ofSides left right).stored = left := by
  cases left <;> cases right <;> rfl

@[simp]
theorem supplied_ofSides (left right : Bool) : (ofSides left right).supplied = right := by
  cases left <;> cases right <;> rfl

end GeometryCase

/-- Nothing stands behind the geometry that a text is read as. -/
def LocatedGeometry.EndsWithGeometry (text : String) : Prop :=
  ∀ srid body, splitReference text = .ok (srid, body) →
    (Wkt.outcome Wkt.geometry (Wkt.tokens body)).2 = []

/-- The text is that of a point without a position. -/
def LocatedGeometry.IsEmptyPoint (text : String) : Prop :=
  tag? text = some .point ∧ ∃ srid, ofText text = .ok ⟨.multiPoint [], srid⟩

theorem Wkt.Tag.Makes.isSeveral_iff
    {tag : Wkt.Tag}
    {geometry : Geometry}
    (makes : tag.Makes geometry) :
    tag.isSeveral = true ↔
      geometry.isSeveral = true ∧ ¬(tag = .point ∧ geometry = .multiPoint []) := by
  cases makes <;> simp [Wkt.Tag.isSeveral, Geometry.isSeveral]

namespace GeometryCase

open LocatedGeometry

/-- A text whose word is one for lists or collections names several parts, whatever follows. -/
theorem namesSeveralParts_of_isSeveral
    {text : String}
    {located : LocatedGeometry}
    {tag : Wkt.Tag}
    (read : ofText text = .ok located)
    (named : tag? text = some tag)
    (several : tag.isSeveral = true) :
    namesSeveralParts text = true := by
  obtain ⟨body, name, rest, own, attached, _, split, _, lexed, isTag, _⟩ :=
    exists_word_of_ofText read
  obtain ⟨inner, divides, rfl⟩ := exists_divides_of_splitReference split
  rw [tag?_eq split lexed, isTag] at named
  cases named
  exact (namesSeveralParts_iff divides).mpr (spellsSeveral_of_isSeveral lexed isTag several)

/-- The text of a geometry and nothing else names several parts if the geometry has them. -/
theorem namesSeveralParts_iff_isSeveral
    {text : String}
    {located : LocatedGeometry}
    (read : ofText text = .ok located)
    (whole : EndsWithGeometry text) :
    namesSeveralParts text = true ↔
      located.geometry.isSeveral = true ∧ ¬IsEmptyPoint text := by
  obtain ⟨body, name, rest, tag, attached, left, split, isGeometry, lexed, isTag, found⟩ :=
    exists_word_of_ofText read
  obtain rfl : left = [] := by simpa [isGeometry] using whole _ _ split
  have named : tag? text = some tag := by rw [tag?_eq split lexed, isTag, Option.map_some]
  have isEmptyPoint :
      IsEmptyPoint text ↔ tag = .point ∧ located.geometry = .multiPoint [] := by
    rw [IsEmptyPoint, named, Option.some.injEq, read]
    refine and_congr_right fun _ => ⟨?_, ?_⟩
    · rintro ⟨srid, same⟩
      cases same
      rfl
    · intro same
      exact ⟨located.srid, by rw [← same]⟩
  rw [isEmptyPoint, ← (Wkt.ensures_makes isTag _ _ _ _ found).isSeveral_iff]
  refine ⟨fun spells => ?_, namesSeveralParts_of_isSeveral read named⟩
  obtain ⟨inner, divides, rfl⟩ := exists_divides_of_splitReference split
  rw [namesSeveralParts_iff divides] at spells
  exact isSeveral_of_spellsSeveral lexed isTag
    (fun simple => Wkt.takesFillers_geometryAfter isTag simple _ _ _ _ found) spells

/--
A column of geometries and a text that is read as a geometry, with nothing behind
it, are classified by what they are: the stored side may consist of several parts
exactly if the column is declared as a collection, and the supplied side exactly
if the geometry is a list of parts or a collection; the text of an empty point,
which is read as an empty list of points, does not count as such.
-/
theorem classification_agrees
    {column : Column}
    {text : String}
    {located : LocatedGeometry}
    (geometric : column.isGeometry = true)
    (read : ofText text = .ok located)
    (whole : EndsWithGeometry text) :
    ∃ case, classify? column text = some case ∧
      (case.stored = true ↔ column.type = .geometry .geometryCollection) ∧
      (case.supplied = true ↔ located.geometry.isSeveral = true ∧ ¬IsEmptyPoint text) := by
  refine ⟨_, if_pos geometric, ?_, ?_⟩
  · rw [stored_ofSides, Column.isCollection, beq_iff_eq]
  · rw [supplied_ofSides]
    exact namesSeveralParts_iff_isSeveral read whole

/-- Lines with four ordinates a position, one of them empty, with blanks wherever they may stand. -/
def spacedLines : String :=
  "  sRiD= +2056 ;\n MultiLineString zm ( ( 0 1 2 3 , -0.5 5e0 6 7 ) , empty )  "

theorem classification_agrees_spacedLines :
    ∃ located case,
      ofText spacedLines = .ok located ∧ EndsWithGeometry spacedLines ∧
        classify? parcelsTable.columns[2] spacedLines = some case ∧
        case.stored = false ∧ case.supplied = true := by
  have split :
      splitReference spacedLines =
        .ok (some 2056,
          "MultiLineString zm ( ( 0 1 2 3 , -0.5 5e0 6 7 ) , empty )".toList) := by
    decide +kernel
  have several :
      (ofText spacedLines).toOption.map (·.geometry.isSeveral) = some true := by
    decide +kernel
  have whole : EndsWithGeometry spacedLines := by
    rintro srid body isSplit
    cases split.symm.trans isSplit
    decide +kernel
  have named : tag? spacedLines = some .multiLineString := by decide +kernel
  cases read : ofText spacedLines with
  | error fault =>
      rw [read] at several
      cases several
  | ok located =>
      obtain ⟨case, classified, stored, supplied⟩ :=
        @classification_agrees parcelsTable.columns[2] _ _ rfl read whole
      rw [read] at several
      refine ⟨located, case, rfl, whole, classified, ?_, supplied.mpr ⟨Option.some.inj several, ?_⟩⟩
      · rw [Bool.eq_false_iff, ne_eq, stored]
        decide
      · rintro ⟨isPoint, _⟩
        rw [named] at isPoint
        cases isPoint

end GeometryCase

end GeoTables
