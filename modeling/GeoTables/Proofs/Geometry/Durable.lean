import GeoTables.Proofs.Geometry.Wkt.RoundTrip

/-!
# Geometries that outlive their text

A geometry is read back from its own text exactly if every ordinate is finite
or negative infinity, no line or ring that stands inside another geometry is
empty, every ring is closed, and an area without an outer ring has no holes.
Segments, rectangles and triangles come back as other geometries.
-/

namespace GeoTables

/-- Items that come back as they are, if at all, do so as a list. -/
theorem mapM_eq_some_iff
    {α : Type}
    {comesBack : α → Prop}
    {reread? : α → Option α}
    (each : ∀ {item other}, reread? item = some other ↔ comesBack item ∧ other = item)
    {items others : List α} :
    items.mapM reread? = some others ↔
      (∀ item ∈ items, comesBack item) ∧ others = items := by
  induction items generalizing others with
  | nil => simp [eq_comm]
  | cons first rest induction =>
      rw [List.mapM_cons, List.forall_mem_cons]
      simp only [Option.bind_eq_bind, Option.bind_eq_some_iff, Option.pure_def,
        Option.some.injEq, each, induction]
      constructor
      · rintro ⟨_, ⟨own, rfl⟩, _, ⟨further, rfl⟩, rfl⟩
        exact ⟨⟨own, further⟩, rfl⟩
      · rintro ⟨⟨own, further⟩, rfl⟩
        exact ⟨first, ⟨own, rfl⟩, rest, ⟨further, rfl⟩, rfl⟩

/-- Reading items back gives the items exactly if each gives itself. -/
theorem mapM_eq_some_self_iff
    {α : Type}
    {reread? : α → Option α}
    {items : List α} :
    items.mapM reread? = some items ↔ ∀ item ∈ items, reread? item = some item := by
  induction items with
  | nil => simp
  | cons first others induction =>
      rw [List.mapM_cons, List.forall_mem_cons, ← induction]
      cases reread? first <;> cases others.mapM reread? <;> simp

/-- Both ordinates are written as numbers. -/
def Coordinate.IsReadable (position : Coordinate) : Prop :=
  Wkt.IsReadable position.x ∧ Wkt.IsReadable position.y

/-- A line that may stand inside another geometry. -/
def Path.IsSolid (path : Path) : Prop :=
  path ≠ [] ∧ ∀ position ∈ path, position.IsReadable

/-- A closed line that may stand inside an area. -/
def Path.IsRing (path : Path) : Prop :=
  path.IsSolid ∧ path.closed = path

/-- An area that may stand inside another geometry. -/
def Polygon.IsSolid (area : Polygon) : Prop :=
  Path.IsRing area.exterior ∧ ∀ ring ∈ area.interiors, Path.IsRing ring

namespace Geometry

mutual

/-- The geometry is what its text says. -/
def IsDurable : Geometry → Prop
  | .point position => position.IsReadable
  | .lineString path => ∀ position ∈ path, position.IsReadable
  | .polygon area => area = ⟨[], []⟩ ∨ area.IsSolid
  | .multiPoint positions => ∀ position ∈ positions, position.IsReadable
  | .multiLineString paths => ∀ path ∈ paths, Path.IsSolid path
  | .multiPolygon areas => ∀ area ∈ areas, area.IsSolid
  | .collection members => AreDurable members
  | .segment _ _ | .rectangle _ _ | .triangle _ _ _ => False

/-- Every geometry of the list is what its text says. -/
def AreDurable : List Geometry → Prop
  | [] => True
  | member :: rest => IsDurable member ∧ AreDurable rest

end

end Geometry

/-! ## Parts of geometries -/

theorem Coordinate.reread?_eq_some_iff {position other : Coordinate} :
    position.reread? = some other ↔ position.IsReadable ∧ other = position := by
  rw [reread?]
  split_ifs with readable
  · simp [IsReadable, readable, eq_comm]
  · simp [IsReadable, readable]

/-- A line inside another geometry is read back as it is, if at all. -/
theorem Path.reread?_eq_some_iff {path other : Path} :
    path.reread? = some other ↔ path.IsSolid ∧ other = path := by
  rw [reread?, rereadEnclosed?]
  split_ifs with empty
  · simp [IsSolid, List.isEmpty_iff.mp empty]
  · have nonempty : path ≠ [] := fun none => empty (List.isEmpty_iff.mpr none)
    rw [mapM_eq_some_iff Coordinate.reread?_eq_some_iff]
    simp [IsSolid, nonempty]

/-- An area inside another geometry is read back with its rings closed, if at all. -/
theorem Polygon.reread?_eq_some_iff {area other : Polygon} :
    area.reread? = some other ↔
      (Path.IsSolid area.exterior ∧ ∀ ring ∈ area.interiors, Path.IsSolid ring) ∧
        other = .ofRings area.exterior area.interiors := by
  simp only [reread?, Option.bind_eq_bind, Option.bind_eq_some_iff, Option.pure_def,
    Option.some.injEq, Path.reread?_eq_some_iff, mapM_eq_some_iff Path.reread?_eq_some_iff]
  constructor
  · rintro ⟨_, ⟨exterior, rfl⟩, _, ⟨interiors, rfl⟩, rfl⟩
    exact ⟨⟨exterior, interiors⟩, rfl⟩
  · rintro ⟨⟨exterior, interiors⟩, rfl⟩
    exact ⟨_, ⟨exterior, rfl⟩, _, ⟨interiors, rfl⟩, rfl⟩

/-- Closing its rings does not change an area exactly if they are closed. -/
theorem Polygon.eq_ofRings_iff {area : Polygon} :
    area = .ofRings area.exterior area.interiors ↔
      area.exterior.closed = area.exterior ∧
        ∀ ring ∈ area.interiors, Path.closed ring = ring := by
  obtain ⟨exterior, interiors⟩ := area
  have rings : interiors.map Path.closed = interiors ↔
      ∀ ring ∈ interiors, Path.closed ring = ring := by
    conv_lhs => rhs; rw [← List.map_id interiors]
    exact List.map_inj_left
  rw [← rings, ofRings, mk.injEq]
  exact and_congr eq_comm eq_comm

theorem Polygon.reread?_eq_some_self_iff {area : Polygon} :
    area.reread? = some area ↔ area.IsSolid := by
  rw [Polygon.reread?_eq_some_iff, Polygon.eq_ofRings_iff]
  constructor
  · rintro ⟨⟨exterior, interiors⟩, closed, othersClosed⟩
    exact ⟨⟨exterior, closed⟩, fun ring member =>
      ⟨interiors ring member, othersClosed ring member⟩⟩
  · rintro ⟨⟨exterior, closed⟩, others⟩
    exact ⟨⟨exterior, fun ring member => (others ring member).1⟩, closed,
      fun ring member => (others ring member).2⟩

namespace Geometry

mutual

/-- The text of a geometry is read as the geometry exactly if it is durable. -/
theorem reread?_eq_some_self_iff :
    ∀ {geometry : Geometry}, geometry.reread? = some geometry ↔ geometry.IsDurable
  | .point position => by
      simp [reread?, IsDurable, Coordinate.reread?_eq_some_iff]
  | .segment start stop => by
      simp [reread?, IsDurable]
  | .lineString path => by
      rw [reread?, IsDurable]
      cases path with
      | nil => simp
      | cons first others =>
          simp [Path.reread?_eq_some_iff, Path.IsSolid]
  | .polygon area => by
      rw [reread?, rereadArea?, IsDurable]
      split_ifs with empty
      · have notSolid : ¬area.IsSolid := fun solid =>
          solid.1.1.1 (List.isEmpty_iff.mp empty)
        simp [notSolid, eq_comm]
      · have notBlank : area ≠ ⟨[], []⟩ := by
          rintro rfl
          exact empty rfl
        simp [notBlank, Polygon.reread?_eq_some_self_iff]
  | .multiPoint positions => by
      simp [reread?, IsDurable, mapM_eq_some_iff Coordinate.reread?_eq_some_iff]
  | .multiLineString paths => by
      simp [reread?, IsDurable, mapM_eq_some_iff Path.reread?_eq_some_iff]
  | .multiPolygon areas => by
      simp [reread?, IsDurable, mapM_eq_some_self_iff, Polygon.reread?_eq_some_self_iff]
  | .collection members => by
      simp [reread?, IsDurable, rereadMembers?_eq_some_self_iff]
  | .rectangle low high => by
      simp [reread?, IsDurable, rereadArea?]
  | .triangle first second third => by
      simp [reread?, IsDurable, rereadArea?]

theorem rereadMembers?_eq_some_self_iff :
    ∀ {members : List Geometry}, rereadMembers? members = some members ↔ AreDurable members
  | [] => by simp [rereadMembers?, AreDurable]
  | first :: others => by
      rw [AreDurable, ← reread?_eq_some_self_iff, ← rereadMembers?_eq_some_self_iff,
        rereadMembers?]
      cases reread? first <;> cases rereadMembers? others <;> simp

end

/-- A durable geometry is read from its own text. -/
theorem IsDurable.ofText_wkt
    {geometry : Geometry}
    (durable : geometry.IsDurable) :
    LocatedGeometry.ofText geometry.wkt = .ok ⟨geometry, none⟩ :=
  LocatedGeometry.ofText_wkt_of_reread? (reread?_eq_some_self_iff.mpr durable)

end Geometry

/-! ## A point beyond all finite numbers -/

/-- A point whose first ordinate is rounded to infinity. -/
def overflowingPoint : Geometry :=
  .point ⟨.infinity false, .ofNat 1⟩

/-- The point is the value of a text that no written point has. -/
theorem LocatedGeometry.ofText_overflowingPoint :
    ofText "POINT(1e400 1)" = .ok ⟨overflowingPoint, none⟩ := by
  have split :
      splitReference "POINT(1e400 1)" =
        .ok (none, "POINT(1e400 1)".toList) := by
    decide +kernel
  have tokens :
      Wkt.tokens "POINT(1e400 1)".toList =
        [.word "POINT".toList, .opening, .number (.infinity false), .number (.ofNat 1),
          .closing] := by
    decide +kernel
  have read :
      Wkt.outcome Wkt.geometry (Wkt.tokens "POINT(1e400 1)".toList) =
        (.ok (.point ⟨.infinity false, .ofNat 1⟩), []) := by
    rw [tokens]
    generalize Binary64.infinity false = x
    generalize Binary64.ofNat 1 = y
    have isTag : Wkt.tag? "POINT".toList = some (.point, none) := by decide +kernel
    exact Wkt.outcome_geometry (by decide +kernel) isTag false [.number x, .number y]
  rw [ofText_of_splitReference split, read]
  rfl

theorem not_isDurable_overflowingPoint : ¬overflowingPoint.IsDurable := by
  intro durable
  have readable : Wkt.IsReadable (.infinity false) := durable.1
  exact absurd readable (by decide +kernel)

end GeoTables
