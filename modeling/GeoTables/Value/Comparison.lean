import GeoTables.Value.Basic

/-!
# Comparing values

Numbers are compared across their representations: integers and decimals
exactly, an integer with a floating-point number as floating-point numbers, and
a decimal with the decimal taken for the floating-point number, if there is
one.  A date stands for its first moment when it meets a date with a time.
All other values are comparable only within their variant, and some not at all.

Equality is decided apart from order.  For numbers it is the order that
decides; values without an order are equal when they are the same.
-/

namespace GeoTables.Value

/-- The order of a decimal and a floating-point number. -/
def compareMixed? (left : Decimal) (right : Binary64) : Option Ordering :=
  match Decimal.ofBinary64? right with
  | some exact => some (left.compare exact)
  | none => left.toBinary64.compare? right

/-- The order of two values, if they are comparable. -/
def compare? : Value → Value → Option Ordering
  | .int left, .int right => some (compare left right)
  | .decimal left, .decimal right => some (left.compare right)
  | .int left, .decimal right => some (right.compareInt left).swap
  | .decimal left, .int right => some (left.compareInt right)
  | .decimal left, .float right => compareMixed? left right
  | .float left, .decimal right => (compareMixed? right left).map Ordering.swap
  | .int left, .float right => (Binary64.ofInt left).compare? right
  | .float left, .int right => left.compare? (Binary64.ofInt right)
  | .float left, .float right => left.compare? right
  | .bool left, .bool right => some (compare left right)
  | .string left, .string right => some (compare left right)
  | .date left, .date right => some (left.compare right)
  | .dateTime left, .dateTime right => some (left.compare right)
  | .dateTime left, .date right => some (left.compare (.ofDate right))
  | .date left, .dateTime right => some ((DateTime.ofDate left).compare right)
  | .time left, .time right => some (left.compare right)
  | _, _ => none

mutual

/--
The same variant with the same content: floating-point numbers and decimals as
numbers, geometries by their coordinates, associations member by member.
-/
def same : Value → Value → Bool
  | .null, .null => true
  | .bool left, .bool right => left == right
  | .int left, .int right => left == right
  | .float left, .float right => left.same right
  | .decimal left, .decimal right => left.compare right == .eq
  | .string left, .string right => left == right
  | .date left, .date right => left == right
  | .dateTime left, .dateTime right => left == right
  | .time left, .time right => left == right
  | .geometry left, .geometry right => left.same right
  | .association left, .association right => sameKeys left right
  | _, _ => false

/-- Two lists of keys that are the same pairwise. -/
def sameKeys : List (List Value) → List (List Value) → Bool
  | [], [] => true
  | left :: lefts, right :: rights => sameKey left right && sameKeys lefts rights
  | _, _ => false

/-- Two keys whose components are the same pairwise. -/
def sameKey : List Value → List Value → Bool
  | [], [] => true
  | left :: lefts, right :: rights => same left right && sameKey lefts rights
  | _, _ => false

end

/-- A number of any kind. -/
def isNumber : Value → Bool
  | .int _ | .float _ | .decimal _ => true
  | _ => false

/-- The two values are equal. -/
def equal (left right : Value) : Bool :=
  match left, right with
  | .dateTime moment, .date day => moment == DateTime.ofDate day
  | .date day, .dateTime moment => moment == DateTime.ofDate day
  | left, right =>
      if left.isNumber then
        left.compare? right == some .eq
      else
        left.same right

end GeoTables.Value
