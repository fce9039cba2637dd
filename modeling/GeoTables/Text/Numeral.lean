/-!
# Decimal numerals

Digits are ASCII digits.  A numeral is a non-empty run of them; a signed one
may start with `+` or `-`.  Values are read exactly and compared with the
bounds of the type that is to hold them, so nothing wraps or saturates.
-/

namespace GeoTables.Text

-- Powers are those of the core library.
attribute [local instance (high)] instPowNat

/-- The value of an ASCII digit. -/
def digitValue (digit : Char) : Nat :=
  digit.toNat - 48

/-- The value of a run of digits that continues a number read so far. -/
def digitsValue (soFar : Nat) (digits : List Char) : Nat :=
  digits.foldl (fun value digit => 10 * value + digitValue digit) soFar

/-- The value of a non-empty run of digits, and `none` for any other text. -/
def numeral? (characters : List Char) : Option Nat :=
  if !characters.isEmpty && characters.all Char.isDigit then
    some (digitsValue 0 characters)
  else
    none

/-- The value of a numeral that may carry a plus sign. -/
def unsigned? : List Char → Option Nat
  | '+' :: digits => numeral? digits
  | digits => numeral? digits

/-- The value of a numeral that may carry a sign. -/
def signed? : List Char → Option Int
  | '+' :: digits => (numeral? digits).map Int.ofNat
  | '-' :: digits => (numeral? digits).map fun value => -Int.ofNat value
  | digits => (numeral? digits).map Int.ofNat

/-- An unsigned integer of at most `bits` bits. -/
def unsignedWithin? (bits : Nat) (characters : List Char) : Option Nat :=
  (unsigned? characters).filter fun value => value < 2 ^ bits

/-- A signed integer of at most `bits` bits in two's complement. -/
def signedWithin? (bits : Nat) (characters : List Char) : Option Int :=
  (signed? characters).filter fun value =>
    -(2 ^ (bits - 1) : Int) ≤ value && value < (2 ^ (bits - 1) : Int)

/-- The decimal digits of a number, without leading zeros. -/
def natDigits (value : Nat) : List Char :=
  Nat.toDigits 10 value

/-- The decimal digits of an integer after its sign, if it is negative. -/
def intDigits : Int → List Char
  | .ofNat value => natDigits value
  | .negSucc value => '-' :: natDigits (value + 1)

/-- The decimal numeral of a number. -/
def natText (value : Nat) : String :=
  String.ofList (natDigits value)

/-- The decimal numeral of an integer. -/
def intText (value : Int) : String :=
  String.ofList (intDigits value)

/-- A number written with at least `width` digits. -/
def paddedDigits (width value : Nat) : List Char :=
  let digits := natDigits value
  List.replicate (width - digits.length) '0' ++ digits

end GeoTables.Text
