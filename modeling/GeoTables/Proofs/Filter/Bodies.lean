import GeoTables.Proofs.Filter.Wire
import GeoTables.Proofs.Text.Utf8
import GeoTables.Service.Answer

/-!
# Filters in bodies

The body of a request may hold a filter with nothing around it.  Fields that do not
count may stand in a filter, and two of their names are those of wrappers, which
are taken off before the filter is read.  What is read from a body is therefore the
filter that it holds, unless one of the two names stands in it at the outermost
level: then it is what stands under the name, and no filter at all if this is null.
-/

namespace GeoTables

theorem Json.isNull_iff {json : Json} : json.isNull = true ↔ json = .null := by
  cases json <;> simp [isNull]

namespace Filter

/-! ## Wrappers -/

/-- No field of the value has the name of a wrapper. -/
def IsBare (json : Json) : Prop :=
  json.get? "filter" = none ∧ json.get? "definition" = none

/-- The value is taken for a wrapper of another one, by one of its names or by both. -/
inductive Wraps : Json → Json → Prop where
  | filter
      {json inner : Json}
      (under : json.get? "filter" = some inner)
      (innermost : inner.get? "definition" = none) :
      Wraps json inner
  | definition
      {json inner : Json}
      (outermost : json.get? "filter" = none)
      (under : json.get? "definition" = some inner) :
      Wraps json inner
  | both
      {json middle inner : Json}
      (outer : json.get? "filter" = some middle)
      (under : middle.get? "definition" = some inner) :
      Wraps json inner

/-- What is left of a value once the wrappers are taken off. -/
def unwrapped (json : Json) : Json :=
  unwrap "definition" (unwrap "filter" json)

variable {json inner : Json}

theorem IsBare.unwrapped_eq (bare : IsBare json) : unwrapped json = json := by
  obtain ⟨filter, definition⟩ := bare
  rw [unwrapped, unwrap, unwrap, filter, Option.getD_none, definition, Option.getD_none]

theorem Wraps.unwrapped_eq (wraps : Wraps json inner) : unwrapped json = inner := by
  cases wraps with
  | filter under innermost =>
      rw [unwrapped, unwrap, unwrap, under, Option.getD_some, innermost, Option.getD_none]
  | definition outermost under =>
      rw [unwrapped, unwrap, unwrap, outermost, Option.getD_none, under, Option.getD_some]
  | both outer under =>
      rw [unwrapped, unwrap, unwrap, outer, Option.getD_some, under, Option.getD_some]

/-- A value is bare, or it is a wrapper of one that is left. -/
theorem isBare_or_wraps (json : Json) : IsBare json ∨ Wraps json (unwrapped json) := by
  cases outer : json.get? "filter" with
  | none =>
      cases under : json.get? "definition" with
      | none => exact .inl ⟨outer, under⟩
      | some inner =>
          have wraps : Wraps json inner := .definition outer under
          exact .inr (wraps.unwrapped_eq ▸ wraps)
  | some middle =>
      cases under : middle.get? "definition" with
      | none =>
          have wraps : Wraps json middle := .filter outer under
          exact .inr (wraps.unwrapped_eq ▸ wraps)
      | some inner =>
          have wraps : Wraps json inner := .both outer under
          exact .inr (wraps.unwrapped_eq ▸ wraps)

/-! ## Reading what is left -/

theorem ofJson_null_ne_ok (filter : Filter) : ofJson .null ≠ .ok filter := by
  simp [ofJson]

/-- A filter is read from a body if it is read from what is left once wrappers are taken off. -/
theorem ofBodyValue_eq_some_iff
    {filter : Filter} :
    ofBodyValue json = .ok (some filter) ↔ ofJson (unwrapped json) = .ok filter := by
  rw [ofBodyValue, ← unwrapped]
  split_ifs with isNull
  · rw [Json.isNull_iff.mp isNull]
    constructor
    · intro read
      cases read
    · intro read
      exact absurd read (ofJson_null_ne_ok filter)
  · simp

/-- No filter is read from a body exactly if null is left. -/
theorem ofBodyValue_eq_none_iff : ofBodyValue json = .ok none ↔ unwrapped json = .null := by
  rw [ofBodyValue, ← unwrapped, ← Json.isNull_iff]
  split_ifs with isNull <;> simp [isNull]

/-! ## Reading bodies with accepted filters -/

theorem ofBodyOctets_encodeUtf8 (text : List Char) :
    ofBodyOctets (Text.encodeUtf8 text) = ofBody text := by
  rw [ofBodyOctets, Text.decodeUtf8?_encodeUtf8]

/--
A body that holds a value from which a filter is read, and nothing else, is read as
follows.  A filter is read from it if it is the one of a bare value, or if it is
read from a value that the given one is taken for a wrapper of; no filter is read
exactly if that value is null.  Requests to read and to count go by what is read.
-/
theorem body_read_as_iff
    {filter : Filter}
    (read : ofJson json = .ok filter)
    {text : List Char}
    (written : Json.ofText? text = some json) :
    (∀ other,
      ofBodyOctets (Text.encodeUtf8 text) = .ok (some other) ↔
        IsBare json ∧ other = filter ∨ ∃ inner, Wraps json inner ∧ ofJson inner = .ok other) ∧
    (ofBodyOctets (Text.encodeUtf8 text) = .ok none ↔ Wraps json .null) ∧
    ∀ address,
      Service.bodyFilter ⟨.post, address, text⟩ =
        (ofBodyOctets (Text.encodeUtf8 text)).mapError .filter := by
  have body : ofBodyOctets (Text.encodeUtf8 text) = ofBody text := ofBodyOctets_encodeUtf8 text
  have value : ofBody text = ofBodyValue json := ofBody_of_ofText? written
  refine ⟨fun other => ?_, ?_, fun address => by rw [body]; rfl⟩
  · rw [body, value, ofBodyValue_eq_some_iff]
    constructor
    · intro isOther
      rcases isBare_or_wraps json with bare | wraps
      · rw [bare.unwrapped_eq, read] at isOther
        exact .inl ⟨bare, (Except.ok.inj isOther).symm⟩
      · exact .inr ⟨_, wraps, isOther⟩
    · rintro (⟨bare, rfl⟩ | ⟨inner, wraps, isOther⟩)
      · rw [bare.unwrapped_eq, read]
      · rw [wraps.unwrapped_eq, isOther]
  · rw [body, value, ofBodyValue_eq_none_iff]
    constructor
    · intro null
      rcases isBare_or_wraps json with bare | wraps
      · rw [← bare.unwrapped_eq, null] at read
        exact absurd read (ofJson_null_ne_ok filter)
      · exact null ▸ wraps
    · exact Wraps.unwrapped_eq

/-- A block with fields that do not count, the one named as a wrapper further inside. -/
def annotated : Json :=
  .object [
    ("clauses", .array [
      .object [("column_name", .string "id"), ("definition", .null), ("operator", .string "NULL")]]),
    ("mode", .string "AND"),
    ("note", .bool true)]

/-- The same block with the name of a wrapper at the outermost level. -/
def emptied : Json :=
  .object [
    ("clauses", .array [
      .object [("column_name", .string "id"), ("operator", .string "NULL")]]),
    ("definition", .null),
    ("mode", .string "AND")]

theorem ofText?_annotated : Json.ofText? annotated.characters = some annotated := by
  have plain : annotated.IsPlain Json.maxDepth := by
    simp [annotated, Json.IsPlain, Json.FieldsArePlain, Json.ArePlain]
    decide
  rw [Json.ofText?_characters plain]
  rfl

theorem ofText?_emptied : Json.ofText? emptied.characters = some emptied := by
  have plain : emptied.IsPlain Json.maxDepth := by
    simp [emptied, Json.IsPlain, Json.FieldsArePlain, Json.ArePlain]
    decide
  rw [Json.ofText?_characters plain]
  rfl

theorem body_read_as_iff_annotated :
    ∃ filter,
      ofJson annotated = .ok filter ∧
      ofBodyOctets (Text.encodeUtf8 annotated.characters) = .ok (some filter) := by
  have read : ofJson annotated = .ok (.block "AND" [.clause ⟨"id", "NULL", none⟩]) := rfl
  have reads := (body_read_as_iff read ofText?_annotated).1
  exact ⟨_, read, (reads _).mpr (.inl ⟨⟨rfl, rfl⟩, rfl⟩)⟩

/-- It is not so that a body is always read as the filter that it holds: at the outermost
    level the name of a wrapper over null makes it no filter. -/
theorem body_not_read_as :
    ¬ ∀ (json : Json) (filter : Filter) (text : List Char),
        ofJson json = .ok filter →
        Json.ofText? text = some json →
        ofBodyOctets (Text.encodeUtf8 text) = .ok (some filter) := by
  intro faithful
  have read : ofJson emptied = .ok (.block "AND" [.clause ⟨"id", "NULL", none⟩]) := rfl
  have body := faithful _ _ _ read ofText?_emptied
  have widened : ofBody emptied.characters = .ok none := ofBody_of_ofText? ofText?_emptied
  rw [ofBodyOctets_encodeUtf8, widened] at body
  cases body

end Filter

end GeoTables
