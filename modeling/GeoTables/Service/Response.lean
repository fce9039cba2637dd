import GeoTables.Failure
import GeoTables.Json.Printing
import GeoTables.Output.Format

/-!
# Responses

A response has a status, the media type of its body, if it has one, and the
body.  A failure is answered by its kind: what a client got wrong is explained,
what went wrong in the service is not.
-/

namespace GeoTables

/-- The answer to a request. -/
structure Response where
  status : Nat
  contentType : Option String
  body : List Char
  deriving DecidableEq, Repr

namespace Response

/-- A response without a body. -/
def bare (status : Nat) : Response where
  status := status
  contentType := none
  body := []

/-- A plain text. -/
def plainText (status : Nat) (text : String) : Response where
  status := status
  contentType := some "text/plain; charset=utf-8"
  body := text.toList

/-- A text in a format. -/
def formatted (format : Format) (body : List Char) : Response where
  status := 200
  contentType := some format.contentType
  body := body

/-- A failure with its code and its explanation. -/
def explained (status : Nat) (code message : String) : Response where
  status := status
  contentType := some Format.json.contentType
  body := Json.objectOf [
    Json.entry "error" "true".toList,
    Json.entry "code" (Json.quoted code),
    Json.entry "message" (Json.quoted message)]

/-- The answer to a request that failed. -/
def ofFailure (failure : Failure) : Response :=
  match failure with
  | .timedOut => explained 504 "TIMEOUT" failure.message
  | failure =>
      match failure.kind with
      | .client => explained 400 "BAD_REQUEST" failure.message
      | .notFound => explained 404 "NOT_FOUND" failure.message
      | .server => explained 500 "INTERNAL_ERROR" "internal server error"

/-- The response without its body. -/
def withoutBody (response : Response) : Response :=
  { response with body := [] }

end Response

end GeoTables
