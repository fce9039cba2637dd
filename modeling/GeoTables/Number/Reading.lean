import GeoTables.Number.Binary64
import GeoTables.Text.Ascii

/-!
# Reading floating-point numbers

The text of a floating-point number is an optional sign followed by `inf`,
`infinity` or `nan` in any letter case, or by decimal digits with at most one
point and an optional exponent.  At least one digit stands before the
exponent, and at least one in it.  The value is the number nearest to the
decimal that the text denotes.
-/

namespace GeoTables.Binary64

-- Powers are those of the core library.
attribute [local instance (high)] instPowNat

/--
The number nearest to `digits * 10 ^ exponent`.  Far outside the range of the
format the answer is infinity or zero without any power being formed.
-/
def ofDecimal
    (negative : Bool)
    (digits : Nat)
    (exponent : Int) :
    Binary64 :=
  let leading := exponent + (Text.natDigits digits).length
  if digits = 0 || leading < -400 then
    ofRank negative 0
  else if leading > 400 then
    infinity negative
  else
    ofRatio negative (digits * 10 ^ exponent.toNat) (10 ^ (-exponent).toNat)

/-- The exponent part of a number, zero if there is none. -/
def exponentPart? : List Char → Option Int
  | [] => some 0
  | letter :: rest =>
      if letter == 'e' || letter == 'E' then Text.signed? rest else none

/-- The magnitude denoted by digits, a point, digits and an exponent. -/
def magnitude? (negative : Bool) (text : List Char) : Option Binary64 := do
  let whole := text.takeWhile Char.isDigit
  let afterWhole := text.dropWhile Char.isDigit
  let (fraction, afterFraction) :=
    match afterWhole with
    | '.' :: rest => (rest.takeWhile Char.isDigit, rest.dropWhile Char.isDigit)
    | rest => ([], rest)
  if whole.isEmpty && fraction.isEmpty then
    none
  else
    let exponent ← exponentPart? afterFraction
    let digits := Text.digitsValue 0 (whole ++ fraction)
    return ofDecimal negative digits (exponent - fraction.length)

/-- The value of a text after its sign. -/
def unsigned? (negative : Bool) (text : List Char) : Option Binary64 :=
  let folded := text.map Char.toLower
  if folded = "inf".toList || folded = "infinity".toList then
    some (infinity negative)
  else if folded = "nan".toList then
    some .nan
  else
    magnitude? negative text

/-- The number that a text denotes. -/
def ofText? : List Char → Option Binary64
  | '-' :: rest => unsigned? true rest
  | '+' :: rest => unsigned? false rest
  | text => unsigned? false text

end GeoTables.Binary64
