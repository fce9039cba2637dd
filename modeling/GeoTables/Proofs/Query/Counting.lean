import GeoTables.Proofs.Predicate.Reach
import GeoTables.Proofs.Query.Results

/-!
# Counting and reading

Counting goes over the scanned records as selecting them does, and takes the
number of those that it would keep.  A sort leaves this number as it is, so
that a count is the length of what a query without a range returns, unless its
sort gives up; and where one of the two fails the other fails in the same way.
A predicate fails both at the first record on which it has no outcome, and the
failure names this record by its key.
-/

namespace GeoTables.Query

variable {session : Session} {table : Table} {predicate : Predicate} {failure : Failure}

/-- The scanned records of an optional predicate, which a count and a query have in common. -/
def matched
    (session : Session)
    (table : Table)
    (test : Option Predicate) :
    Except Failure (List Record) :=
  session.scan table >>= matching table test

end GeoTables.Query
