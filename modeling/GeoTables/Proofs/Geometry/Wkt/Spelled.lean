import GeoTables.Proofs.Geometry.Wkt.RoundTrip
import GeoTables.Proofs.Outcome

/-!
# Geometries that a text spells

Reading gives none of the shapes that only programs supply, and every ring of an
area that it gives has been closed.  The tokens play no part in this: each
reader ensures it for whatever it finds, and the reader of a collection for its
members, however deep they are nested.
-/

namespace GeoTables

/-- An area whose rings have been closed. -/
def Polygon.IsSpelled (area : Polygon) : Prop :=
  ∃ exterior interiors, area = .ofRings exterior interiors

namespace Geometry

mutual

/-- The geometry has a shape that a text can spell. -/
def IsSpelled : Geometry → Prop
  | .point _ | .lineString _ | .multiPoint _ | .multiLineString _ => True
  | .polygon area => area.IsSpelled
  | .multiPolygon areas => ∀ area ∈ areas, area.IsSpelled
  | .collection members => AreSpelled members
  | .segment _ _ | .rectangle _ _ | .triangle _ _ _ => False

/-- Every geometry of the list has a shape that a text can spell. -/
def AreSpelled : List Geometry → Prop
  | [] => True
  | member :: rest => IsSpelled member ∧ AreSpelled rest

end

theorem areSpelled_iff
    {members : List Geometry} :
    AreSpelled members ↔ ∀ member ∈ members, member.IsSpelled := by
  induction members with
  | nil => simp [AreSpelled]
  | cons member rest induction => rw [AreSpelled, induction, List.forall_mem_cons]

end Geometry

namespace Wkt

/-! ## What readers ensure -/

section

variable {α β : Type} {found : α → Prop}

/-- Whatever the reader finds has the property. -/
def Ensures (reader : Reader α) (found : α → Prop) : Prop :=
  ∀ input value left, outcome reader input = (.ok value, left) → found value

namespace Ensures

theorem any (reader : Reader α) : Ensures reader fun _ => True :=
  fun _ _ _ _ => trivial

theorem fault (fault : Fault) : Ensures (throw fault : Reader α) found := by
  rintro input value left ⟨⟩

theorem pure
    {value : α}
    (holds : found value) :
    Ensures (pure value) found := by
  rintro input other left ⟨⟩
  exact holds

/-- A second reader ensures its property for what the first one finds. -/
theorem bind
    {first : Reader α}
    {next : α → Reader β}
    {result : β → Prop}
    (own : Ensures first found)
    (further : ∀ value, found value → Ensures (next value) result) :
    Ensures (first >>= next) result := by
  intro input value left out
  obtain ⟨between, rest, read, continued⟩ := exists_outcome_of_bind_eq_ok out
  exact further between (own input between rest read) rest value left continued

/-- Items with commas between them have the property if each item has. -/
theorem separated
    {item : Reader α}
    (each : Ensures item found)
    (bound : Nat) :
    Ensures (separated item bound) fun values => ∀ value ∈ values, found value := by
  induction bound with
  | zero =>
      rw [Wkt.separated.eq_def]
      exact each.bind fun first holds => .pure (by simpa using holds)
  | succ bound induction =>
      rw [Wkt.separated.eq_def]
      refine each.bind fun first holds => (any _).bind fun more _ => ?_
      cases more with
      | false => exact .pure (by simpa using holds)
      | true =>
          refine (any _).bind fun _ _ => induction.bind fun others hold => .pure ?_
          exact List.forall_mem_cons.mpr ⟨holds, hold⟩

theorem items
    {item : Reader α}
    (each : Ensures item found) :
    Ensures (items item) fun values => ∀ value ∈ values, found value :=
  (any _).bind fun input _ => each.separated input.length

/-- Closing parentheses gives what was found before. -/
theorem eq_of_close
    {result : Except Fault α}
    {input left : List Token}
    {value : α}
    (out : outcome (close result) input = (.ok value, left)) :
    result = .ok value := by
  cases input with
  | nil => cases out
  | cons token rest =>
      cases token <;> cases result <;> cases out
      rfl

/-- A body in parentheses has the property if the body and the empty value have. -/
theorem enclosed
    {empty : α}
    {body : Reader α}
    (nothing : found empty)
    (inside : Ensures body found) :
    Ensures (enclosed empty body) found := by
  intro input value left out
  cases input with
  | nil => cases out
  | cons token rest =>
      cases token with
      | opening =>
          rw [outcome_enclosed] at out
          exact inside rest value _ (Prod.ext (eq_of_close out) rfl)
      | word name =>
          change outcome (if _ then _ else _) rest = _ at out
          split_ifs at out
          · cases out
            exact nothing
          · cases out
      | _ => cases out

end Ensures

end

/-! ## Geometries -/

/-- An area is read with its rings closed. -/
theorem ensures_area (layout : Layout) : Ensures (area layout) Polygon.IsSpelled := by
  refine (Ensures.any _).bind fun rings _ => ?_
  cases rings with
  | nil => exact .pure ⟨[], [], rfl⟩
  | cons exterior interiors => exact .pure ⟨exterior, interiors, rfl⟩

/-- A layout is attached to the word for a type or stands behind it, and may be any layout. -/
theorem ensures_behindLayout
    {found : Geometry → Prop}
    {attached : Option Layout}
    {next : Layout → Reader Geometry}
    (each : ∀ layout, Ensures (next layout) found) :
    Ensures
      (match attached with
        | some layout => do next (← pure layout)
        | none => do next (← layoutWord))
      found := by
  cases attached <;> exact (Ensures.any _).bind fun layout _ => each layout

/-- What stands behind a word is read as a spelled geometry if the members of collections are. -/
theorem ensures_geometryAfter_of_members
    {depth : Nat}
    (members : ∀ inner, depth = inner + 1 →
      ∀ name, Ensures (geometryAfter inner name) Geometry.IsSpelled)
    (name : List Char) :
    Ensures (geometryAfter depth name) Geometry.IsSpelled := by
  rw [geometryAfter.eq_def]
  cases tag? name with
  | none => exact .fault .unknownType
  | some found =>
      obtain ⟨tag, attached⟩ := found
      refine ensures_behindLayout fun layout => ?_
      cases tag with
      | point =>
          refine (Ensures.any _).bind fun position _ => ?_
          cases position <;> exact .pure trivial
      | lineString | multiPoint | multiLineString =>
          exact (Ensures.any _).bind fun _ _ => .pure trivial
      | polygon => exact (ensures_area layout).bind fun _ spelled => .pure spelled
      | multiPolygon =>
          exact (Ensures.enclosed (List.forall_mem_nil _) (ensures_area layout).items).bind
            fun _ each => .pure each
      | collection =>
          cases depth with
          | zero => exact .fault .unknownType
          | succ inner =>
              have spelled : Ensures (member inner) Geometry.IsSpelled := by
                refine (Ensures.any _).bind fun token _ => ?_
                cases token with
                | none => exact .fault .missingMember
                | some token =>
                    cases token with
                    | word name => exact members inner rfl name
                    | _ => exact .fault .missingMember
              exact (Ensures.enclosed (List.forall_mem_nil _) spelled.items).bind fun _ each =>
                .pure (Geometry.areSpelled_iff.mpr each)

theorem ensures_geometryAfter (depth : Nat) (name : List Char) :
    Ensures (geometryAfter depth name) Geometry.IsSpelled := by
  induction depth generalizing name with
  | zero => exact ensures_geometryAfter_of_members (fun _ impossible => by cases impossible) name
  | succ depth induction =>
      refine ensures_geometryAfter_of_members (fun inner same inside => ?_) name
      obtain rfl : depth = inner := Nat.succ.inj same
      exact induction inside

theorem ensures_geometry : Ensures geometry Geometry.IsSpelled := by
  refine (Ensures.any _).bind fun token _ => ?_
  split
  · split_ifs
    · exact (Ensures.any _).bind fun input _ => ensures_geometryAfter input.length _
    · exact .fault .notAscii
  · exact .fault .notAWord

end Wkt

/-- The geometry of a text is one that a text can spell. -/
theorem LocatedGeometry.isSpelled_of_ofText
    {text : String}
    {located : LocatedGeometry}
    (read : ofText text = .ok located) :
    located.geometry.IsSpelled := by
  simp only [ofText, Outcome.bind_eq_ok, Outcome.pure_eq_ok] at read
  obtain ⟨⟨srid, body⟩, _, geometry, isGeometry, rfl⟩ := read
  exact Wkt.ensures_geometry _ geometry _ (Prod.ext isGeometry rfl)

end GeoTables
