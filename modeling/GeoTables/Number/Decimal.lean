import GeoTables.Number.Shortest

/-!
# Exact decimals

A `Decimal` is an integer coefficient of at most 96 bits with a scale from 0
to 28, the number of its digits after the point.  The scale belongs to the
written form and not to the value: `1.5` and `1.50` are two decimals that
compare equal.

Text is read digit by digit.  Digits that do not fit, be it for the scale or
for the coefficient, are rounded half up by the first of them; an integer part
that does not fit is refused.  Numbers with an exponent are read by moving the
point of the part before it.
-/

namespace GeoTables

-- Powers are those of the core library.
attribute [local instance (high)] instPowNat

/-- The first magnitude that is too great for a coefficient. -/
def Decimal.coefficientBound : Nat := 2 ^ (96 : Nat)

/-- The greatest number of digits after the point. -/
def Decimal.maxScale : Nat := 28

/-- A decimal `coefficient / 10 ^ scale`. -/
structure Decimal where
  coefficient : Int
  scale : Nat
  coefficient_lt : coefficient.natAbs < Decimal.coefficientBound
  scale_le : scale ≤ Decimal.maxScale
  deriving DecidableEq

namespace Decimal

/-- The decimal of a coefficient and a scale that are within their bounds. -/
def ofParts? (coefficient : Int) (scale : Nat) : Option Decimal :=
  if bounds : coefficient.natAbs < coefficientBound ∧ scale ≤ maxScale then
    some ⟨coefficient, scale, bounds.1, bounds.2⟩
  else
    none

/-- The decimal zero without digits after the point. -/
def zero : Decimal := ⟨0, 0, by decide, by decide⟩

instance : Inhabited Decimal := ⟨zero⟩

/-- Compare two decimals by value, whatever their scales. -/
def compare (left right : Decimal) : Ordering :=
  Ord.compare
    (left.coefficient * 10 ^ right.scale)
    (right.coefficient * 10 ^ left.scale)

/-- Compare a decimal with an integer by value. -/
def compareInt (left : Decimal) (right : Int) : Ordering :=
  Ord.compare left.coefficient (right * 10 ^ left.scale)

/-- A coefficient and scale rounded half up by the digit that follows them. -/
def roundBy
    (value scale : Nat)
    (next : Char) :
    Option (Nat × Nat) :=
  if next.isDigit || next == '_' || next == '.' then
    if next.isDigit && Text.digitValue next ≥ 5 then
      if value + 1 < coefficientBound then
        some (value + 1, scale)
      else if scale = 0 then
        none
      else
        some ((value + 5) / 10, scale - 1)
    else
      some (value, scale)
  else
    none

/--
The coefficient and scale of an unsigned text.  `pointed` tells whether the
point was read, `started` whether a digit was.  Underscores may follow the
first digit, and nothing is looked at beyond the digit that rounds.
-/
def readUnsigned
    (pointed started : Bool)
    (value scale : Nat) :
    List Char → Option (Nat × Nat)
  | [] => if started then some (value, scale) else none
  | character :: rest =>
      if character.isDigit then
        let longer := 10 * value + Text.digitValue character
        let longerScale := if pointed then scale + 1 else scale
        if longer < coefficientBound then
          if pointed && longerScale ≥ maxScale then
            match rest with
            | [] => some (longer, longerScale)
            | next :: _ => roundBy longer longerScale next
          else
            readUnsigned pointed true longer longerScale rest
        else if pointed then
          roundBy value scale character
        else
          none
      else if character == '.' && !pointed then
        readUnsigned true started value scale rest
      else if character == '_' && started then
        readUnsigned pointed started value scale rest
      else
        none

/-- The decimal that a signed text without an exponent denotes. -/
def ofPlainText? (text : List Char) : Option Decimal := do
  let (negative, digits) :=
    match text with
    | '-' :: rest => (true, rest)
    | '+' :: rest => (false, rest)
    | rest => (false, rest)
  let (value, scale) ← readUnsigned false false 0 0 digits
  ofParts? (if negative then -(value : Int) else value) scale

/-- Strip one zero after the point as long as there is one. -/
def stripZeros (coefficient : Int) : Nat → Int × Nat
  | 0 => (coefficient, 0)
  | scale + 1 =>
      if coefficient % 10 = 0 then
        stripZeros (coefficient / 10) scale
      else
        (coefficient, scale + 1)

/-- Move the point of a decimal to the right, dropping zeros once it is passed. -/
def shiftRight? (base : Decimal) (places : Nat) : Option Decimal :=
  if places ≤ base.scale then
    ofParts? base.coefficient (base.scale - places)
  else if places ≤ maxScale then
    ofParts? (base.coefficient * 10 ^ (places - base.scale)) 0
  else
    none

/-- Move the point of a decimal to the left. -/
def shiftLeft? (base : Decimal) (places : Nat) : Option Decimal :=
  ofParts? base.coefficient (base.scale + places)

/-- The decimal that a text with an exponent denotes. -/
def ofScientificText? (text : List Char) : Option Decimal := do
  let isMark := fun (character : Char) => character == 'e' || character == 'E'
  let base ← ofPlainText? (text.takeWhile (!isMark ·))
  match text.dropWhile (!isMark ·) with
  | [] => none
  | _ :: '-' :: exponent => shiftLeft? base (← Text.unsignedWithin? 32 exponent)
  | _ :: exponent => shiftRight? base (← Text.unsignedWithin? 32 exponent)

/-- The decimal that a text denotes, with or without an exponent. -/
def ofText? (text : List Char) : Option Decimal :=
  ofPlainText? text <|> ofScientificText? text

/-- The written form, with as many digits after the point as the scale says. -/
def text (value : Decimal) : List Char :=
  let digits := Text.paddedDigits (value.scale + 1) value.coefficient.natAbs
  let (whole, fraction) := digits.splitAt (digits.length - value.scale)
  Binary64.signed (value.coefficient < 0) <|
    if fraction.isEmpty then whole else whole ++ '.' :: fraction

/--
The binary number of a decimal.  Its whole part and its fraction are converted
on their own, added, and the sum is rounded at the decimal's own scale.
-/
def toBinary64 (value : Decimal) : Binary64 :=
  let magnitude := value.coefficient.natAbs
  let result :=
    if value.scale = 0 then
      Binary64.ofNat magnitude
    else
      let power := 10 ^ value.scale
      let precision := Binary64.ofNat power
      let whole := Binary64.ofNat (magnitude / power)
      let fraction := Binary64.ofNat (magnitude % power) / precision
      if fraction.isZero then
        whole
      else
        ((whole + fraction) * precision).round / precision
  if value.coefficient < 0 then -result else result

/-! ## Decimals of binary numbers -/

/--
Divide a mantissa by `2 ^ count`, each halving that is not exact turned into a
multiplication by five while the mantissa has room.  The second component is
the decimal exponent that goes with the first.
-/
def halve (mantissa : Nat) (exponent : Int) : Nat → Nat × Int
  | 0 => (mantissa, exponent)
  | count + 1 =>
      if mantissa % 2 = 0 then
        halve (mantissa / 2) (exponent + 1) count
      else if mantissa * 5 < coefficientBound then
        halve (mantissa * 5) exponent count
      else
        halve (mantissa / 2) (exponent + 1) count

/--
Multiply a mantissa by `2 ^ count`, by doubling while there is room and then
by moving the decimal exponent and dividing by five.
-/
def double (mantissa : Nat) (exponent : Int) : Nat → Nat × Int
  | 0 => (mantissa, exponent)
  | count + 1 =>
      if mantissa < coefficientBound / 2 then
        double (mantissa * 2) (exponent - 1) count
      else
        double (mantissa / 5) exponent count

/-- Divide by ten, rounding half up. -/
def tenth (mantissa : Nat) : Nat :=
  if mantissa % 10 ≥ 5 then mantissa / 10 + 1 else mantissa / 10

/-- Cut a mantissa by `count` tenths; one that vanishes has no scale. -/
def cutTenths (mantissa : Nat) : Nat → Nat
  | 0 => mantissa
  | count + 1 =>
      if mantissa / 10 = 0 then 0 else cutTenths (tenth mantissa) count

/-- Cut a mantissa by tenths until it has the precision of a binary number. -/
def cutPrecision (mantissa : Nat) : Nat → Nat × Nat
  | 0 => (mantissa, 0)
  | scale + 1 =>
      if mantissa < 2 ^ (52 : Nat) then
        (mantissa, scale + 1)
      else
        cutPrecision (tenth mantissa) scale

/-- The decimal of a mantissa and a decimal exponent. -/
def ofMantissa?
    (negative : Bool)
    (mantissa : Nat)
    (exponent : Int) :
    Option Decimal :=
  let withSign := fun (value : Nat) => if negative then -(value : Int) else value
  match exponent with
  | .ofNat zeros => ofParts? (withSign (mantissa * 10 ^ zeros)) 0
  | .negSucc places =>
      let excess := places + 1 - maxScale
      let kept := cutTenths mantissa excess
      let (cut, scale) := cutPrecision kept (min (places + 1) maxScale)
      let (coefficient, scale) := stripZeros (withSign cut) scale
      ofParts? coefficient scale

/--
The decimal taken for a binary number in comparisons: the exact value, cut to
the precision that a binary number carries.
-/
def ofBinary64? : Binary64 → Option Decimal
  | .nan => none
  | .number negative rank =>
      if rank.val = Binary64.infiniteRank then
        none
      else
        let block := rank.val / 2 ^ (52 : Nat)
        let fraction := rank.val % 2 ^ (52 : Nat)
        let mantissa := if block = 0 then fraction else 2 ^ (52 : Nat) + fraction
        let exponent : Int := (max block 1 : Nat) - 1075
        let (mantissa, exponent) :=
          match exponent with
          | .ofNat count => double mantissa exponent count
          | .negSucc count => halve mantissa exponent (count + 1)
        ofMantissa? negative mantissa exponent

end Decimal

end GeoTables
