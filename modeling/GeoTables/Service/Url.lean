import GeoTables.Text.Utf8

/-!
# Addresses

The address of a request is a path and a query.  Octets that may not stand in
it are written as a percent sign with two hexadecimal digits; any other percent
sign stands for itself.  In a query a plus sign is a blank.

A path has to be UTF-8 after decoding; in a query, faults are replaced.
-/

namespace GeoTables

/-- The value of a hexadecimal digit. -/
def Text.hexValue? (digit : Char) : Option Nat :=
  if digit.isDigit then
    some (digit.toNat - 48)
  else if 'a' ≤ digit && digit ≤ 'f' then
    some (digit.toNat - 87)
  else if 'A' ≤ digit && digit ≤ 'F' then
    some (digit.toNat - 55)
  else
    none

namespace Url

/-- The octet that two digits after a percent sign stand for. -/
def escaped? (high low : Char) : Option UInt8 := do
  return ((← Text.hexValue? high) * 16 + (← Text.hexValue? low)).toUInt8

/-- The octets of an encoded text. -/
def octets : List Char → List UInt8
  | '%' :: high :: low :: rest =>
      match escaped? high low with
      | some octet => octet :: octets rest
      | none => '%'.toUInt8 :: octets (high :: low :: rest)
  | character :: rest => String.utf8EncodeChar character ++ octets rest
  | [] => []

/-- The text of an encoded part of a path. -/
def decodeSegment? (encoded : List Char) : Option (List Char) :=
  Text.decodeUtf8? (octets encoded)

/-- The text of an encoded part of a query. -/
def decodeQueryPart (encoded : List Char) : String :=
  let blanks := encoded.map fun character => if character = '+' then ' ' else character
  String.ofList (Text.decodeUtf8Lossy (octets blanks))

/-- A parameter of a query; one without an equals sign is empty. -/
def parameter (encoded : List Char) : String × String :=
  (decodeQueryPart (encoded.takeWhile (· != '=')),
    decodeQueryPart ((encoded.dropWhile (· != '=')).drop 1))

/-- The parameters of a query. -/
def parameters (query : List Char) : List (String × String) :=
  ((query.splitOnP (· == '&')).filter fun part => !part.isEmpty).map parameter

/-- An address without what follows a number sign. -/
def withoutFragment (address : List Char) : List Char :=
  address.takeWhile (· != '#')

/-- The path of an address. -/
def path (address : List Char) : List Char :=
  (withoutFragment address).takeWhile (· != '?')

/-- The query of an address. -/
def query (address : List Char) : List Char :=
  ((withoutFragment address).dropWhile (· != '?')).drop 1

end Url

end GeoTables
