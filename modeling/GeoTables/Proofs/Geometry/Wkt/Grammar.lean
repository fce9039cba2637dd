import GeoTables.Proofs.Geometry.Wkt.RoundTrip

/-!
# The grammar of geometries

The readers of geometries are put together from few steps: an ordinate, the word
for a layout, items with commas between them and bodies in parentheses.  A
property of readers that these steps have or keep is had by the reader of
whatever stands behind the word for a type, if the readers of members have it.
-/

namespace GeoTables.Wkt

/-! ## Words -/

theorem outcome_layoutWord_word (name : List Char) (rest : List Token) :
    outcome layoutWord (.word name :: rest) =
      match layouts.find? fun layout => isWord layout.1 name with
      | some layout => (.ok layout.2, rest)
      | none =>
          if isWord "EMPTY" name then
            (.ok [], .word name :: rest)
          else
            (.error .unexpectedWord, .word name :: rest) := by
  change outcome (match layouts.find? _ with | some _ => _ | none => if _ then _ else _) _ = _
  split
  · rfl
  · split <;> rfl

theorem outcome_enclosed_word
    {α : Type}
    (empty : α)
    (body : Reader α)
    (name : List Char)
    (rest : List Token) :
    outcome (enclosed empty body) (.word name :: rest) =
      (if isWord "EMPTY" name then .ok empty else .error .missingOpening, rest) := by
  change outcome (if _ then _ else _) rest = _
  split <;> rfl

theorem outcome_geometry_word (name : List Char) (rest : List Token) :
    outcome geometry (.word name :: rest) =
      if name.all fun character => character.toNat < 128 then
        outcome (geometryAfter rest.length name) rest
      else
        (.error .notAscii, rest) := by
  change outcome (if _ then _ else _) rest = _
  split <;> rfl

/-! ## Properties of readers -/

/-- The property is had by the steps of readers, and by what is put together from them. -/
structure Compositional (Property : (α : Type) → Reader α → Prop) : Prop where
  pure {α : Type} (value : α) : Property α (pure value)
  fault {α : Type} (fault : Fault) : Property α (throw fault)
  bind {α β : Type}
    {first : Reader α}
    {next : α → Reader β}
    (own : Property α first)
    (further : ∀ value, Property β (next value)) :
    Property β (first >>= next)
  ordinate (name : Char) : Property Binary64 (ordinate name)
  layoutWord : Property Layout layoutWord
  /-- A step that depends on the number of tokens left. -/
  sized {α : Type}
    {reader : Nat → Reader α}
    (each : ∀ count, Property α (reader count)) :
    Property α (do reader (← get).length)
  /-- A choice by whether a parenthesis is opened. -/
  beforeOpening {α : Type}
    {opened bare : Reader α}
    (ifOpened : Property α opened)
    (ifBare : Property α bare) :
    Property α (do if ← nextIs .opening then opened else bare)
  /-- A choice by whether there is a comma, which is taken. -/
  behindComma {α : Type}
    {further last : Reader α}
    (ifFurther : Property α further)
    (ifLast : Property α last) :
    Property α (do
      if ← nextIs .comma then
        let _ ← next
        further
      else
        last)
  enclosed {α : Type}
    {body : Reader α}
    (inside : Property α body)
    (empty : α) :
    Property α (enclosed empty body)

namespace Compositional

variable {Property : (α : Type) → Reader α → Prop} (closed : Compositional Property)
include closed

theorem map
    {α β : Type}
    {reader : Reader α}
    (own : Property α reader)
    (change : α → β) :
    Property β (do return change (← reader)) :=
  closed.bind own fun value => closed.pure (change value)

/-- A step that is repeated for every member of a list. -/
theorem forIn
    {α β : Type}
    {step : α → β → Reader (ForInStep β)}
    (each : ∀ item state, Property (ForInStep β) (step item state))
    (list : List α)
    (state : β) :
    Property β (forIn list state step) := by
  induction list generalizing state with
  | nil => exact closed.pure state
  | cons item rest induction =>
      rw [List.forIn_cons]
      refine closed.bind (each item state) fun next => ?_
      cases next with
      | done last => exact closed.pure last
      | yield last => exact induction last

/-- Items with commas between them. -/
theorem items
    {α : Type}
    {item : Reader α}
    (each : Property α item) :
    Property (List α) (items item) := by
  refine closed.sized fun bound => ?_
  induction bound with
  | zero =>
      rw [separated.eq_def]
      exact closed.map each fun first => [first]
  | succ bound induction =>
      rw [separated.eq_def]
      refine closed.bind each fun first => ?_
      exact closed.behindComma (closed.map induction (first :: ·)) (closed.pure [first])

/-! ## Parts of geometries -/

theorem position (layout : Layout) : Property Coordinate (position layout) := by
  refine closed.bind (closed.ordinate 'X') fun x => closed.bind (closed.ordinate 'Y') fun y => ?_
  refine closed.bind (closed.forIn (fun name _ => ?_) layout _) fun _ => closed.pure _
  exact closed.bind (closed.ordinate name) fun _ => closed.pure _

theorem path (layout : Layout) : Property Path (path layout) :=
  closed.enclosed (closed.items (closed.position layout)) []

theorem area (layout : Layout) : Property Polygon (area layout) := by
  refine closed.bind (closed.enclosed (closed.items (closed.path layout)) []) fun rings => ?_
  cases rings <;> exact closed.pure _

theorem loosePosition (layout : Layout) :
    Property (Option Coordinate) (loosePosition layout) :=
  closed.beforeOpening
    (closed.enclosed (closed.map (closed.position layout) some) none)
    (closed.map (closed.position layout) some)

/-- What stands behind a layout, which is attached to the word for a type or stands behind it. -/
theorem behindLayout
    {attached : Option Layout}
    {next : Layout → Reader Geometry}
    (each : ∀ layout, Property Geometry (next layout)) :
    Property Geometry
      (match attached with
        | some layout => do next (← Pure.pure layout)
        | none => do next (← Wkt.layoutWord)) := by
  cases attached with
  | none => exact closed.bind closed.layoutWord each
  | some layout => exact closed.bind (closed.pure layout) each

/-- What stands behind the word for a type, if the members of a collection have the property. -/
theorem geometryAfter
    {depth : Nat}
    {name : List Char}
    (members : ∀ attached inner, tag? name = some (.collection, attached) → depth = inner + 1 →
      Property Geometry (member inner)) :
    Property Geometry (geometryAfter depth name) := by
  rw [geometryAfter.eq_def]
  cases isTag : tag? name with
  | none => exact closed.fault .unknownType
  | some found =>
      obtain ⟨tag, attached⟩ := found
      refine closed.behindLayout fun layout => ?_
      cases tag with
      | point =>
          have inside := closed.map (closed.position layout) some
          refine closed.bind (closed.enclosed inside none) fun found => ?_
          cases found <;> exact closed.pure _
      | lineString => exact closed.map (closed.path layout) Geometry.lineString
      | polygon => exact closed.map (closed.area layout) Geometry.polygon
      | multiPoint =>
          have inside := closed.items (closed.loosePosition layout)
          exact closed.bind (closed.enclosed inside []) fun _ => closed.pure _
      | multiLineString =>
          have inside := closed.items (closed.path layout)
          exact closed.map (closed.enclosed inside []) Geometry.multiLineString
      | multiPolygon =>
          have inside := closed.items (closed.area layout)
          exact closed.map (closed.enclosed inside []) Geometry.multiPolygon
      | collection =>
          cases depth with
          | zero => exact closed.fault .unknownType
          | succ inner =>
              have inside := closed.items (members attached inner isTag rfl)
              exact closed.map (closed.enclosed inside []) Geometry.collection

end Compositional

end GeoTables.Wkt
