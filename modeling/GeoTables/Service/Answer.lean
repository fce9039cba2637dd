import GeoTables.Catalog.Registry
import GeoTables.Filter.Compilation
import GeoTables.Output.Writing
import GeoTables.Query.Execution
import GeoTables.Service.Configuration
import GeoTables.Service.Response
import GeoTables.Service.Route
import GeoTables.Store.Memory

/-!
# The service

A request is led to its route, and the parts of the path, the query and the
body are read in this order; only then is the format looked at, the table
looked up and the filter compiled.  Rows are read within a session that has to
be committed before the answer counts.
-/

namespace GeoTables

/-- A store as the service uses it. -/
structure ServedStore where
  backend : String
  session : Except Failure Session
  commit : Except Failure Unit

/-- A store of rows as it is at present. -/
def RowStore.served (store : RowStore) : ServedStore where
  backend := "sled"
  session := .ok ⟨store.opened.scan store⟩
  commit := .ok ()

/-- A store in memory as it is at present. -/
def MemoryStore.served (store : MemoryStore) : ServedStore where
  backend := "memory"
  session := .ok ⟨store.opened.scan store⟩
  commit := .ok ()

/-- What the service answers requests from, and how it sorts rows. -/
structure Service where
  configuration : Configuration
  registry : Registry
  store : ServedStore
  sorter : Sorter

/-- A request with its method, its address and its body. -/
structure Request where
  method : Method
  address : List Char
  body : List Char

/-- The parameters of a read. -/
structure ReadParameters where
  orderBy : Option String
  direction : Option String
  offset : Option String
  limit : Option String
  deriving DecidableEq, Repr

namespace ReadParameters

/-- The names of the parameters. -/
def names : List String := ["order_by", "direction", "offset", "limit"]

/-- The first of the known names that occurs again. -/
def repeated? (seen : List String) : List (String × String) → Option String
  | [] => none
  | (name, _) :: rest =>
      if !names.contains name then
        repeated? seen rest
      else if seen.contains name then
        some name
      else
        repeated? (name :: seen) rest

/-- The parameters in a query, or the one that it repeats. -/
def ofQuery (query : List Char) : Except String ReadParameters :=
  let given := Url.parameters query
  let value? := fun (name : String) => given.lookup name
  match repeated? [] given with
  | some name => .error name
  | none => .ok {
      orderBy := value? "order_by"
      direction := value? "direction"
      offset := value? "offset"
      limit := value? "limit" }

end ReadParameters

namespace Service

/-- The version that the service reports. -/
def version : String := "0.1.0"

/-- The table of a name. -/
def table (service : Service) (schema name : String) : Except Failure Table :=
  (service.registry.table ⟨schema, name⟩).1

/-- The format of a name. -/
def format (name : String) : Except Failure Format :=
  match Format.ofName? name with
  | some format => .ok format
  | none => .error (.unknownFormat name)

/-- Work within a session, which is committed once the work is done. -/
def inSession
    {α : Type}
    (service : Service)
    (work : Session → Except Failure α) :
    Except Failure α := do
  let session ← service.store.session
  let result ← work session
  service.store.commit
  return result

/-- The predicate of an optional filter. -/
def predicate (table : Table) : Option Filter → Except Failure (Option Predicate)
  | some filter => filter.compile .standard table
  | none => .ok none

/-- The filter in the body of a request, which only a posted one may have. -/
def bodyFilter (request : Request) : Except Failure (Option Filter) :=
  match request.method with
  | .post => (Filter.ofBody request.body).mapError .filter
  | _ => .ok none

/-- The records of a query; a sort that gives up interrupts the work. -/
def finished : Option (List Record) → Except Failure (List Record)
  | some records => .ok records
  | none => .error .interrupted

/-- Read the records of a table. -/
def read
    (service : Service)
    (schema name formatName : String)
    (parameters : ReadParameters)
    (filter : Option Filter) :
    Except Failure Response := do
  let format ← format formatName
  let table ← service.table schema name
  let predicate ← predicate table filter
  let sort ← SortKey.ofParameters table parameters.orderBy parameters.direction
  let paging ← Paging.ofParameters parameters.offset parameters.limit
  let query : ReadQuery := {
    predicate := predicate
    sort := sort
    paging := service.configuration.capPaging paging }
  let body ← service.inSession fun session => do
    let records ← finished (← Query.execute service.sorter session table query)
    serialize table format records
  return .formatted format body

/-- Look up the record of a key. -/
def lookup
    (service : Service)
    (schema name formatName : String)
    (keys : List String) :
    Except Failure Response := do
  let format ← format formatName
  let table ← service.table schema name
  let body ← service.inSession fun session => do
    serialize table format [← Query.findByKey session table keys]
  return .formatted format body

/-- Count the records of a table. -/
def count
    (service : Service)
    (schema name : String)
    (filter : Option Filter) :
    Except Failure Response := do
  let table ← service.table schema name
  let predicate ← predicate table filter
  let counted ← service.inSession fun session => Query.count session table predicate
  return .formatted .json (serializeCount counted)

/-- Describe a table. -/
def model (service : Service) (schema name formatName : String) : Except Failure Response := do
  let format ← format formatName
  let table ← service.table schema name
  return .formatted format (← serializeTable table format)

/-- Report how the service is. -/
def health (service : Service) : Response :=
  let status := match service.store.session with
    | .ok _ => "healthy"
    | .error _ => "degraded"
  .formatted .json (Json.objectOf [
    Json.entry "status" (Json.quoted status),
    Json.entry "version" (Json.quoted version),
    Json.entry "backend" (Json.quoted service.store.backend),
    Json.entry "tables" (Text.natDigits service.registry.size)])

/-- The text of an encoded part of a path that can be decoded. -/
def decoded (encoded : List Char) : String :=
  String.ofList ((Url.decodeSegment? encoded).getD [])

/-- The outcome of a request as a response. -/
def respond : Except Failure Response → Response
  | .ok response => response
  | .error failure => .ofFailure failure

/-- Answer a read. -/
def answerRead (service : Service) (request : Request) (schema name format : String) : Response :=
  match ReadParameters.ofQuery (Url.query request.address) with
  | .error repeated =>
      .plainText 400
        ("Failed to deserialize query string: duplicate field `" ++ repeated ++ "`")
  | .ok parameters =>
      respond do
        let filter ← bodyFilter request
        service.read schema name format parameters filter

/-- Answer a request on a route whose parts can be decoded. -/
def answerRoute (service : Service) (request : Request) : Route → Response
  | .health => service.health
  | .read schema name format =>
      service.answerRead request (decoded schema) (decoded name) (decoded format)
  | .lookup schema name format keys =>
      respond <| service.lookup (decoded schema) (decoded name) (decoded format)
        (Route.keysOf (decoded keys).toList)
  | .count schema name =>
      respond do
        let filter ← bodyFilter request
        service.count (decoded schema) (decoded name) filter
  | .model schema name format =>
      respond (service.model (decoded schema) (decoded name) (decoded format))

/-- Answer a request on a route. -/
def answerOn (service : Service) (request : Request) (route : Route) : Response :=
  if !route.accepts request.method then
    .bare 405
  else
    match route.undecodable? with
    | some part =>
        .plainText 400 ("Invalid URL: Invalid UTF-8 in `" ++ part ++ "`")
    | none => service.answerRoute request route

/-- Answer a request. -/
def answer (service : Service) (request : Request) : Response :=
  let routePrefix := service.configuration.routePrefix.toList
  match request.method with
  | .options => .bare 200
  | method =>
      let response := match Route.ofPath? routePrefix (Url.path request.address) with
        | some route => service.answerOn request route
        | none => .bare 404
      if method = .head then response.withoutBody else response

end Service

end GeoTables
