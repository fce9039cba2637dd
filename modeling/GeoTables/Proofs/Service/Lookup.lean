import GeoTables.Proofs.Service.Segments
import GeoTables.Proofs.Text.Splitting
import GeoTables.Service.Answer

/-!
# Looking up by the segments of a path

The segments behind the format of a lookup are the keys.  The path is split before
its parts are decoded, but the keys are one part, which is split again once it is
decoded: a slash within a key then ends a segment like any other.  The keys that
are looked up are therefore the given ones exactly if none of them has a slash.
-/

namespace GeoTables

namespace Route

/-! ## Splitting what is decoded -/

/-- Joined texts have the keys of each of them. -/
theorem keysOf_intercalate (pieces : List (List Char)) :
    keysOf (['/'].intercalate pieces) = pieces.flatMap keysOf := by
  cases pieces with
  | nil => rfl
  | cons piece rest =>
      rw [keysOf, Text.splitOnP_intercalate_eq_flatMap rfl (List.cons_ne_nil _ _),
        List.filter_flatMap, List.map_flatMap]
      rfl

theorem keysOf_toList_intercalate (keys : List String) :
    keysOf ("/".intercalate keys).toList = keys.flatMap fun key => keysOf key.toList := by
  have joined : ("/".intercalate keys).toList = ['/'].intercalate (keys.map String.toList) :=
    String.toList_intercalate
  rw [joined, keysOf_intercalate, List.flatMap_map]

/-- The keys in a text are not empty and have no slash. -/
theorem key_of_mem_keysOf
    {decoded : List Char}
    {key : String}
    (member : key ∈ keysOf decoded) :
    key ≠ "" ∧ '/' ∉ key.toList := by
  rw [keysOf, List.mem_map] at member
  obtain ⟨piece, isPiece, rfl⟩ := member
  obtain ⟨split, present⟩ := List.mem_filter.mp isPiece
  rw [String.toList_ofList]
  constructor
  · intro empty
    rw [String.ofList_eq_empty_iff] at empty
    rw [empty] at present
    cases present
  · intro slash
    cases (Text.mem_of_mem_splitOnP split slash).2

/-- A text without slashes that is not empty is a key of its own. -/
theorem keysOf_of_notMem
    {key : String}
    (nonempty : key ≠ "")
    (free : '/' ∉ key.toList) :
    keysOf key.toList = [key] := by
  have whole : key.toList.splitOnP (· == '/') = [key.toList] := by
    rw [← List.splitOn_eq_splitOnP]
    exact List.splitOn_eq_singleton free
  have present : key.toList.isEmpty = false := by simpa using nonempty
  rw [keysOf, whole, List.filter_singleton, present]
  simp

/-- The keys in texts of which none is empty or has a slash are these texts. -/
theorem flatMap_keysOf_eq_self
    {keys : List String}
    (whole : ∀ key ∈ keys, key ≠ "" ∧ '/' ∉ key.toList) :
    (keys.flatMap fun key => keysOf key.toList) = keys :=
  calc
    (keys.flatMap fun key => keysOf key.toList) = keys.flatMap fun key => [key] :=
      List.flatMap_congr fun key member =>
        keysOf_of_notMem (whole key member).1 (whole key member).2
    _ = keys := List.flatMap_singleton' keys

/-! ## The route of a lookup -/

theorem after?_append (beginning text : List Char) :
    after? beginning (beginning ++ text) = some text := by
  induction beginning with
  | nil => rfl
  | cons character rest induction => rw [List.cons_append, after?, if_pos rfl, induction]

/-- The path of health has a single slash. -/
theorem ne_health_of_slashes
    {before within after : List Char} :
    before ++ '/' :: (within ++ '/' :: after) ≠ "/health".toList := by
  intro same
  have slashes := congrArg (List.count '/') same
  rw [List.count_append, List.count_cons_self, List.count_append, List.count_cons_self] at slashes
  have single : List.count '/' "/health".toList = 1 := by decide
  omega

/-- Below the prefix of the tables a path leads to the route of its segments. -/
theorem ofPath?_intercalate
    {routePrefix first second : List Char}
    {others : List (List Char)}
    (free : ∀ segment ∈ first :: second :: others, '/' ∉ segment) :
    ofPath? routePrefix
        (routePrefix ++ '/' :: ['/'].intercalate (first :: second :: others)) =
      ofSegments? (first :: second :: others) := by
  have notHealth :
      routePrefix ++ '/' :: ['/'].intercalate (first :: second :: others) ≠
        "/health".toList := by
    rw [List.intercalate_cons_cons, List.append_assoc]
    exact ne_health_of_slashes
  have split :
      (['/'].intercalate (first :: second :: others)).splitOnP (· == '/') =
        first :: second :: others := by
    rw [← List.splitOn_eq_splitOnP]
    exact List.splitOn_intercalate '/' free (List.cons_ne_nil _ _)
  rw [ofPath?, if_neg notHealth, after?_append]
  exact congrArg ofSegments? split

/-- Segments behind the format, of which the first is not empty, are the keys of a lookup. -/
theorem ofSegments?_lookup
    {schema name format key : List Char}
    {keys : List (List Char)}
    (nonempty : key ≠ []) :
    ofSegments? (schema :: name :: "read".toList :: format :: key :: keys) =
      some (.lookup schema name format (['/'].intercalate (key :: keys))) := by
  have joined : (['/'].intercalate (key :: keys)).isEmpty = false := by
    cases keys with
    | nil => simpa using nonempty
    | cons =>
        rw [List.intercalate_cons_cons]
        simp
  rw [ofSegments?, joined]
  · simp
  · simp

end Route

namespace Service

open Url (Encodes)

theorem decoded_of_encodes
    {segment : List Char}
    {text : String}
    (encodes : Encodes segment text) :
    decoded segment = text := by
  rw [decoded, encodes.decodeSegment?_eq, Option.getD_some, String.ofList_toList]

/-- Segments that encode the names of a table, a format and the keys of a lookup. -/
structure LookupSegments (schema name format : String) (keys : List String) where
  schemaSegment : List Char
  nameSegment : List Char
  formatSegment : List Char
  keySegments : List (List Char)
  encodesSchema : Encodes schemaSegment schema
  encodesName : Encodes nameSegment name
  encodesFormat : Encodes formatSegment format
  encodeKeys : List.Forall₂ Encodes keySegments keys

namespace LookupSegments

variable {schema name format : String} {keys : List String}

/-- The segments of a lookup with no more escapes than they need. -/
def standard (schema name format : String) (keys : List String) :
    LookupSegments schema name format keys where
  schemaSegment := Url.encodeSegment schema
  nameSegment := Url.encodeSegment name
  formatSegment := Url.encodeSegment format
  keySegments := keys.map Url.encodeSegment
  encodesSchema := Url.encodes_encodeSegment schema
  encodesName := Url.encodes_encodeSegment name
  encodesFormat := Url.encodes_encodeSegment format
  encodeKeys := List.forall₂_map_left_iff.mpr (List.forall₂_same.mpr fun key _ =>
    Url.encodes_encodeSegment key)

/-- The path of the segments below a prefix. -/
def path (segments : LookupSegments schema name format keys) (routePrefix : String) : List Char :=
  routePrefix.toList ++
    '/' :: ['/'].intercalate
      (segments.schemaSegment :: segments.nameSegment :: "read".toList ::
        segments.formatSegment :: segments.keySegments)

/-- The route of the segments. -/
def route (segments : LookupSegments schema name format keys) : Route :=
  .lookup segments.schemaSegment segments.nameSegment segments.formatSegment
    (['/'].intercalate segments.keySegments)

/-- The path of some keys leads to the route of a lookup. -/
theorem ofPath?_path
    (segments : LookupSegments schema name format keys)
    (present : keys ≠ [])
    (nonempty : ∀ key ∈ keys, key ≠ "")
    (routePrefix : String) :
    Route.ofPath? routePrefix.toList (segments.path routePrefix) = some segments.route := by
  obtain ⟨schemaSegment, nameSegment, formatSegment, keySegments, schemaEncodes, nameEncodes,
    formatEncodes, keysEncode⟩ := segments
  rw [path, Route.ofPath?_intercalate, route]
  · cases keysEncode with
    | nil => exact absurd rfl present
    | cons keyEncodes _ =>
        exact Route.ofSegments?_lookup (keyEncodes.ne_nil (nonempty _ (.head _)))
  · simp only [List.forall_mem_cons]
    exact ⟨schemaEncodes.slash_notMem, nameEncodes.slash_notMem, by decide,
      formatEncodes.slash_notMem, Url.slash_notMem_of_encode keysEncode⟩

/-- Every part of the route can be decoded. -/
theorem undecodable?_route (segments : LookupSegments schema name format keys) :
    segments.route.undecodable? = none := by
  simp [Route.undecodable?, Route.parts, route, segments.encodesSchema.decodeSegment?_eq,
    segments.encodesName.decodeSegment?_eq, segments.encodesFormat.decodeSegment?_eq,
    Url.decodeSegment?_intercalate segments.encodeKeys]

/-- The rest of the path is decoded to the keys, joined by slashes. -/
theorem decoded_rest (segments : LookupSegments schema name format keys) :
    decoded (['/'].intercalate segments.keySegments) = "/".intercalate keys := by
  rw [decoded, Url.decodeSegment?_intercalate segments.encodeKeys, Option.getD_some,
    ← String.toList_inj, String.toList_ofList, String.toList_intercalate]
  rfl

end LookupSegments

variable
  {schema name format : String}
  {keys : List String}
  {request : Request}

/-- A request for the path of some keys looks up the keys in the texts joined by slashes. -/
theorem answer_lookup
    (service : Service)
    (segments : LookupSegments schema name format keys)
    (present : keys ≠ [])
    (nonempty : ∀ key ∈ keys, key ≠ "")
    (isGet : request.method = .get)
    (asked : Url.path request.address = segments.path service.configuration.routePrefix) :
    service.answer request =
      respond (service.lookup schema name format
        (Route.keysOf ("/".intercalate keys).toList)) := by
  have route := segments.ofPath?_path present nonempty service.configuration.routePrefix
  have accepted : segments.route.accepts .get = true := rfl
  rw [answer, isGet, asked, route]
  dsimp only
  rw [answerOn, isGet, accepted, segments.undecodable?_route, if_neg (by decide)]
  dsimp only
  rw [if_neg (by decide), LookupSegments.route, answerRoute,
    decoded_of_encodes segments.encodesSchema, decoded_of_encodes segments.encodesName,
    decoded_of_encodes segments.encodesFormat, segments.decoded_rest]

/-! ## Looking up keys -/

/--
A request for the path of some keys looks up the keys that stand between slashes in
the decoded rest of the path, which is the texts joined by slashes.  These are the
given keys exactly if no key has a slash in it; and there is no rest of a path at all
in which a key with a slash stands.
-/
theorem keys_addressed_iff
    (service : Service)
    (segments : LookupSegments schema name format keys)
    (present : keys ≠ [])
    (nonempty : ∀ key ∈ keys, key ≠ "")
    (isGet : request.method = .get)
    (asked : Url.path request.address = segments.path service.configuration.routePrefix) :
    decoded (['/'].intercalate segments.keySegments) = "/".intercalate keys ∧
    service.answer request =
      respond (service.lookup schema name format
        (Route.keysOf ("/".intercalate keys).toList)) ∧
    (Route.keysOf ("/".intercalate keys).toList = keys ↔ ∀ key ∈ keys, '/' ∉ key.toList) ∧
    ∀ rest, Route.keysOf rest = keys → ∀ key ∈ keys, '/' ∉ key.toList := by
  have apart (rest : List Char) (taken : Route.keysOf rest = keys) :
      ∀ key ∈ keys, '/' ∉ key.toList := by
    intro key member
    rw [← taken] at member
    exact (Route.key_of_mem_keysOf member).2
  refine ⟨segments.decoded_rest, answer_lookup service segments present nonempty isGet asked,
    ⟨apart _, fun free => ?_⟩, apart⟩
  rw [Route.keysOf_toList_intercalate]
  exact Route.flatMap_keysOf_eq_self fun key member => ⟨nonempty key member, free key member⟩

/-- A table of places, whose key is a text. -/
def places : TableDeclaration where
  schema := "public"
  name := "places"
  columns := [
    { name := "path", typeText := "TEXT", nullable := false, isKey := true,
      foreignKeys := [], initial := none, srid := none, header := none }]
  relationships := []

/-- The service of a single place, with a slash in its key. -/
def placesService : Service where
  configuration := .standard
  registry := Registry.empty.register places
  store := (MemoryStore.empty.insert ⟨"public", "places"⟩
    (.ofFields [("path", .string "north/lake")])).served
  sorter := .insertion

theorem keys_addressed_iff_blank :
    placesService.answer ⟨.get, "/api/public/places/read/json/50%20%25".toList, []⟩ =
      respond (placesService.lookup "public" "places" "json" ["50 %"]) := by
  let segments : LookupSegments "public" "places" "json" ["50 %"] := .standard _ _ _ _
  let request : Request := ⟨.get, "/api/public/places/read/json/50%20%25".toList, []⟩
  have asked :
      Url.path request.address = segments.path placesService.configuration.routePrefix := by
    decide +kernel
  obtain ⟨_, answered, same, _⟩ :=
    keys_addressed_iff placesService segments (by decide) (by decide) rfl asked
  rw [same.mpr (by decide)] at answered
  exact answered

/-- Not every key can be looked up: one with a slash is taken for two, and the answer is that
    these are too many and not the record that has the key. -/
theorem keys_not_addressed :
    ¬ ∀ (service : Service) (request : Request) (schema name format : String)
        (keys : List String) (segments : LookupSegments schema name format keys),
        keys ≠ [] →
        (∀ key ∈ keys, key ≠ "") →
        request.method = .get →
        Url.path request.address = segments.path service.configuration.routePrefix →
        service.answer request = respond (service.lookup schema name format keys) := by
  intro addressed
  let segments : LookupSegments "public" "places" "json" ["north/lake"] := .standard _ _ _ _
  let request : Request := ⟨.get, segments.path "/api", []⟩
  have asked :
      Url.path request.address = segments.path placesService.configuration.routePrefix := by
    decide +kernel
  have claimed := addressed placesService request _ _ _ _ segments (by decide) (by decide) rfl asked
  rw [answer_lookup placesService segments (by decide) (by decide) rfl asked] at claimed
  have found :
      (respond (placesService.lookup "public" "places" "json" ["north/lake"])).status = 200 := by
    decide +kernel
  have refused :
      (respond (placesService.lookup "public" "places" "json"
        (Route.keysOf ("/".intercalate ["north/lake"]).toList))).status = 400 := by
    decide +kernel
  rw [claimed, found] at refused
  cases refused

end Service

end GeoTables
