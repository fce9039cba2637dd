import GeoTables.Service.Url

/-!
# Routes

A path leads to a route by its shape alone.  Below the prefix of the tables it
starts with the names of a schema and a table, which may be empty; what it ends
with may not.  Parts are decoded only after the path has been split, so an
encoded slash does not separate segments.
-/

namespace GeoTables

/-- Where a path leads to; its parts are still encoded. -/
inductive Route where
  | health
  | read (schema table format : List Char)
  | lookup (schema table format keys : List Char)
  | count (schema table : List Char)
  | model (schema table format : List Char)
  deriving DecidableEq, Repr

/-- The method of a request. -/
inductive Method where
  | get
  | head
  | post
  | options
  | other
  deriving DecidableEq, Repr

namespace Method

/-- The method of a name. -/
def ofName (name : String) : Method :=
  if name = "GET" then
    .get
  else if name = "HEAD" then
    .head
  else if name = "POST" then
    .post
  else if name = "OPTIONS" then
    .options
  else
    .other

end Method

namespace Route

/-- The route of the segments below the prefix. -/
def ofSegments? : List (List Char) → Option Route
  | [schema, table, word] =>
      if word = "count".toList then some (.count schema table) else none
  | [schema, table, word, format] =>
      if format.isEmpty then
        none
      else if word = "read".toList then
        some (.read schema table format)
      else if word = "model".toList then
        some (.model schema table format)
      else
        none
  | schema :: table :: word :: format :: keys =>
      let joined := ['/'].intercalate keys
      if word = "read".toList ∧ ¬ joined.isEmpty then
        some (.lookup schema table format joined)
      else
        none
  | _ => none

/-- The text after a beginning, if it begins so. -/
def after? : List Char → List Char → Option (List Char)
  | [], text => some text
  | expected :: rest, character :: text =>
      if expected = character then after? rest text else none
  | _ :: _, [] => none

/-- The route of a path. -/
def ofPath? (routePrefix path : List Char) : Option Route :=
  if path = "/health".toList then
    some .health
  else
    match after? routePrefix path with
    | some ('/' :: below) => ofSegments? (below.splitOnP (· == '/'))
    | _ => none

/-- The route answers requests of a method. -/
def accepts (route : Route) (method : Method) : Bool :=
  match route, method with
  | _, .get | _, .head => true
  | .read _ _ _, .post | .count _ _, .post => true
  | _, _ => false

/-- The encoded parts of a route with their names, in their order. -/
def parts : Route → List (String × List Char)
  | .health => []
  | .read schema table format | .model schema table format =>
      [("schema", schema), ("table", table), ("format", format)]
  | .lookup schema table format keys =>
      [("schema", schema), ("table", table), ("format", format), ("primary_keys", keys)]
  | .count schema table => [("schema", schema), ("table", table)]

/-- The first part that is not UTF-8 after decoding. -/
def undecodable? (route : Route) : Option String :=
  (route.parts.find? fun part => (Url.decodeSegment? part.2).isNone).map Prod.fst

/-- The keys in the decoded rest of a path; empty ones do not count. -/
def keysOf (decoded : List Char) : List String :=
  ((decoded.splitOnP (· == '/')).filter fun key => !key.isEmpty).map String.ofList

end Route

end GeoTables
