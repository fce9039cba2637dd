import GeoTables.Proofs.Filter.Classification
import GeoTables.Proofs.Filter.Operands
import GeoTables.Proofs.Geometry.Parts
import GeoTables.Proofs.Predicate.AnyRelation

/-!
# Lists of parts that are split

A clause with a list of points, lines or areas is split by dimension like one
with a collection.  The list is its own part of its dimension, and in the other
dimensions it is empty; an empty geometry stands in no relation, and this is found
before anything else is looked at.  So the disjunction comes to a single comparison
with the whole list, and fails exactly if this fails.  Nothing is said of the pairs
of places in which geometries meet: this holds for any relation between them.
-/

namespace GeoTables

/-! ## Types of lists -/

namespace Wkt.Tag

/-- The dimension of the parts of which a list of the type consists. -/
def listDimension? : Tag → Option Dimension
  | .multiPoint => some .point
  | .multiLineString => some .line
  | .multiPolygon => some .polygon
  | .point | .lineString | .polygon | .collection => none

variable {tag : Tag} {geometry : Geometry} {dimension : Dimension}

/-- A geometry of a type for lists is a list of parts of the dimension. -/
theorem Makes.isListOf
    (makes : tag.Makes geometry)
    (isListType : tag.listDimension? = some dimension) :
    geometry.IsListOf dimension := by
  cases makes with
  | multiPoint positions =>
      cases isListType
      exact .points positions
  | multiLineString paths =>
      cases isListType
      exact .lines paths
  | multiPolygon areas =>
      cases isListType
      exact .areas areas
  | point | emptyPoint | lineString | polygon | collection => cases isListType

theorem isSeveral_of_listDimension?
    (isListType : tag.listDimension? = some dimension) :
    tag.isSeveral = true := by
  cases tag with
  | multiPoint | multiLineString | multiPolygon | collection => rfl
  | point | lineString | polygon => cases isListType

end Wkt.Tag

/-! ## Comparisons with a list -/

namespace Clause

variable
  {relation : Geometry → Geometry → Relation}
  {test : SpatialTest}
  {column : Column}
  {srid : Int}
  {whole : Geometry}
  {dimension : Dimension}

/-- The stored side of a split clause, for the parts of one dimension. -/
def storedPart (column : Column) (part : Dimension) : Option Dimension :=
  if column.isCollection then some part else none

/-- The stored geometry, or its parts of one dimension in a column of collections. -/
def narrowed (column : Column) (part : Dimension) (stored : Geometry) : Geometry :=
  if column.isCollection then stored.extract part else stored

/-- One comparison of a field with a geometry, by any relation. -/
def relatesOnce
    (relation : Geometry → Geometry → Relation)
    (test : SpatialTest)
    (column : Column)
    (part : Dimension)
    (whole : Geometry)
    (record : Record) :
    Except Failure Bool :=
  match Value.geometry? (record.get column.name) with
  | none => .ok false
  | some stored =>
      (Geometry.relateBy relation test (narrowed column part stored) whole).mapError
        (Failure.spatial column.name none)

/-- Parts that are not empty cannot be compared with a geometry that is neither empty nor finite. -/
theorem relatesOnce_of_not_isFinite
    {relation : Geometry → Geometry → Relation}
    {test : SpatialTest}
    {column : Column}
    {part : Dimension}
    {whole stored : Geometry}
    {record : Record}
    (isStored : Value.geometry? (record.get column.name) = some stored)
    (present : (narrowed column part stored).isEmpty = false)
    (nonempty : whole.isEmpty = false)
    (notFinite : whole.isFinite = false) :
    relatesOnce relation test column part whole record =
      .error (.spatial column.name none ⟨test⟩) := by
  rw [relatesOnce, isStored]
  dsimp only
  rw [Geometry.relateBy, present, nonempty, notFinite, Bool.and_false]
  rfl

/-- A clause whose supplied side names several parts is split by dimension on both sides or one. -/
theorem splitLeaves_of_several (leaf : Option Dimension → Option Dimension → Predicate) :
    splitLeaves (.ofSides column.isCollection true) leaf =
      .or (Dimension.all.map fun part => leaf (storedPart column part) (some part)) := by
  unfold storedPart
  cases column.isCollection <;> rfl

/-- A leaf for another dimension than that of the list never holds and never fails. -/
theorem holdsBy_of_ne
    (isList : whole.IsListOf dimension)
    {other : Dimension}
    (differs : other ≠ dimension)
    (part : Option Dimension)
    (record : Record) :
    (spatialLeaf test column srid whole part (some other)).holdsBy relation record =
      .ok false := by
  rw [spatialLeaf, Predicate.holdsBy, Predicate.holdsSpatiallyBy]
  cases Value.geometry? (record.get column.name) with
  | none => rfl
  | some stored =>
      -- The supplied side is empty, which is found before any coordinate is looked at.
      dsimp only
      rw [Geometry.relateBy, isList.isEmpty_extract_of_ne differs, Bool.or_true, if_pos rfl]
      rfl

/-- The leaf for the dimension of the list compares with the whole list. -/
theorem holdsBy_of_dimension
    (isList : whole.IsListOf dimension)
    (record : Record) :
    (spatialLeaf test column srid whole (storedPart column dimension) (some dimension)).holdsBy
        relation record =
      relatesOnce relation test column dimension whole record := by
  rw [spatialLeaf, Predicate.holdsBy, Predicate.holdsSpatiallyBy, relatesOnce]
  cases Value.geometry? (record.get column.name) with
  | none => rfl
  | some stored =>
      dsimp only
      rw [isList.extract_eq_self, storedPart, narrowed]
      cases column.isCollection <;> rfl

/-! ## Clauses with a list -/

open LocatedGeometry

variable
  {operators : OperatorTable}
  {table : Table}
  {condition : Clause}
  {predicate : Predicate}

/--
A clause with a list of points, lines or areas that compiles is split into three
comparisons, but comes to a single one, with the whole list, whether it holds,
does not hold or fails.  On a column of collections the list is compared with the
stored parts of its dimension.  The comparisons for the other dimensions never
hold and never fail.  All this is so by whatever relation geometries are compared,
and the relation that is found on sample points is one of these.
-/
theorem list_compared_once
    (compiled : condition.compile operators table = .ok predicate)
    {column : Column}
    (found : table.column? condition.column = some column)
    (geometric : column.isGeometry = true)
    {text : String}
    (operand : condition.operand = some (.string text))
    {tag : Wkt.Tag}
    (named : tag? text = some tag)
    {dimension : Dimension}
    (isListType : tag.listDimension? = some dimension) :
    ∃ test srid located,
      SpatialTest.ofSpelling? condition.operator = some test ∧
      column.srid = some srid ∧
      ofText text = .ok located ∧
      located.geometry.IsListOf dimension ∧
      predicate = .or (Dimension.all.map fun part =>
        spatialLeaf test column srid located.geometry (storedPart column part) (some part)) ∧
      (∀ relation record, predicate.holdsBy relation record =
        relatesOnce relation test column dimension located.geometry record) ∧
      (∀ other, other ≠ dimension → ∀ relation record,
        (spatialLeaf test column srid located.geometry (storedPart column other)
          (some other)).holdsBy relation record = .ok false) ∧
      ∀ (own : Predicate) (record : Record),
        own.holdsBy Relation.of record = own.holds record := by
  obtain ⟨test, _, srid, geometry, _, spelled, isOperand, hasSrid, supplied, rfl⟩ :=
    (becomes_of_compile compiled).exists_supplied found geometric
  cases operand.symm.trans isOperand
  obtain ⟨located, read, rfl⟩ := ofText_of_suppliedGeometry supplied
  obtain ⟨own, isOwn, makes⟩ := exists_tag_of_ofText read
  cases named.symm.trans isOwn
  have isList := makes.isListOf isListType
  have several := GeometryCase.namesSeveralParts_of_isSeveral read named
    (Wkt.Tag.isSeveral_of_listDimension? isListType)
  have others := fun other (differs : other ≠ dimension) relation record =>
    @holdsBy_of_ne relation test column srid _ _ isList other differs (storedPart column other)
      record
  rw [several, splitLeaves_of_several]
  refine ⟨test, srid, located, spelled, hasSrid, read, isList, rfl, fun relation record => ?_,
    others, fun own record => Predicate.holdsBy_of record own⟩
  rw [Predicate.holdsBy, Predicate.someHoldBy_map_dimensions fun other differs =>
    others other differs relation record]
  exact holdsBy_of_dimension isList record

/-- A clause with two points, of which one lies beyond all numbers. -/
def withinFarPoints : Clause :=
  ⟨"site", "WITHIN", some (.string "srid=2056; MultiPoint((0 0), 1e999 0)")⟩

/-- No point can be compared with them, by whatever relation. -/
theorem list_compared_once_withinFarPoints :
    ∃ predicate,
      withinFarPoints.compile .standard parcelsTable = .ok predicate ∧
        ∀ position,
          predicate.holds (Record.empty.set "site" (.geometry (.point position))) =
              .error (.spatial "site" none ⟨.within⟩) ∧
            ∀ relation,
              predicate.holdsBy relation
                  (Record.empty.set "site" (.geometry (.point position))) =
                .error (.spatial "site" none ⟨.within⟩) := by
  have compiles :
      (withinFarPoints.compile .standard parcelsTable).toOption.isSome = true := by
    decide +kernel
  have infinite :
      (ofText "srid=2056; MultiPoint((0 0), 1e999 0)").toOption.map
        (fun located => (located.geometry.isEmpty, located.geometry.isFinite)) =
          some (false, false) := by
    decide +kernel
  have named : tag? "srid=2056; MultiPoint((0 0), 1e999 0)" = some .multiPoint := by
    decide +kernel
  have spelled : SpatialTest.ofSpelling? "WITHIN" = some .within := by decide +kernel
  obtain ⟨predicate, compiled⟩ := Outcome.exists_eq_ok_of_isSome compiles
  have found : parcelsTable.column? "site" = some parcelsTable.columns[2] := rfl
  obtain ⟨test, srid, located, isTest, _, read, _, _, once, _, own⟩ :=
    list_compared_once compiled found rfl rfl named rfl
  cases spelled.symm.trans isTest
  rw [read] at infinite
  obtain ⟨nonempty, notFinite⟩ := Prod.mk.inj (Option.some.inj infinite)
  have fails (relation : Geometry → Geometry → Relation) (position : Coordinate) :
      predicate.holdsBy relation (Record.empty.set "site" (.geometry (.point position))) =
        .error (.spatial "site" none ⟨.within⟩) := by
    have isStored :
        Value.geometry? ((Record.empty.set "site" (.geometry (.point position))).get "site") =
          some (.point position) := by
      rw [Record.get_set, if_pos rfl]
      rfl
    rw [once]
    exact @relatesOnce_of_not_isFinite _ _ parcelsTable.columns[2] _ _ _ _ isStored rfl nonempty
      notFinite
  refine ⟨predicate, compiled, fun position => ⟨?_, fun relation => fails relation position⟩⟩
  rw [← own]
  exact fails Relation.of position

end Clause

end GeoTables
