import GeoTables.Query.Order

/-!
# Configuration

What the service is told when it starts.  The tables are served below a name,
or at the root if the name is empty; slashes around it do not count.
-/

namespace GeoTables

/-- A text without the slashes around it. -/
def Text.withoutSlashes (text : String) : String :=
  let isSlash := fun (character : Char) => character == '/'
  let left := text.toList.dropWhile isSlash
  String.ofList (left.reverse.dropWhile isSlash).reverse

/-- What the service is told when it starts. -/
structure Configuration where
  listen : String
  dataDirectory : String
  tablesPath : Option String
  apiName : String
  timeoutMilliseconds : Nat
  maxLimit : Option Nat
  cacheCapacity : Nat
  deriving DecidableEq, Repr

namespace Configuration

/-- The configuration of a service that is told nothing. -/
def standard : Configuration where
  listen := "0.0.0.0:8080"
  dataDirectory := "./georest-data"
  tablesPath := none
  apiName := "api"
  timeoutMilliseconds := 30000
  maxLimit := none
  cacheCapacity := 256 * 1024 * 1024

/-- The path below which the tables are served, empty for the root. -/
def routePrefix (configuration : Configuration) : String :=
  let name := Text.withoutSlashes configuration.apiName
  if name.isEmpty then "" else "/" ++ name

/-- The range of a read within the bound on the number of its records. -/
def capPaging (configuration : Configuration) (paging : Option Paging) : Option Paging :=
  Paging.capped paging configuration.maxLimit

end Configuration

end GeoTables
