import GeoTables.Number.Binary64

/-!
# Shortest decimal digits

Every real number that rounds to a given binary number lies in an interval
around it, whose ends belong to it exactly when the number's rank is even.
The decimal text of the number has the fewest digits that denote a point of
this interval, and among those the nearest to the number.

The search runs over decimal grids from coarse to fine.  On each grid only the
two neighbours of the number matter: if any grid point lies in the interval,
one of these two does.
-/

namespace GeoTables

-- Powers are those of the core library.
attribute [local instance (high)] instPowNat

/-- A decimal number `digits * 10 ^ exponent`. -/
structure DecimalDigits where
  digits : Nat
  exponent : Int
  deriving DecidableEq, Repr

namespace Binary64

/-- The rounding interval of a positive finite rank, in halves of a unit. -/
structure Interval where
  low : Nat
  high : Nat
  closed : Bool

/-- The reals that round to the magnitude of a rank. -/
def intervalOfRank (rank : Nat) : Interval where
  low := unitsOfRank (rank - 1) + unitsOfRank rank
  high := unitsOfRank rank + unitsOfRank (rank + 1)
  closed := rank % 2 == 0

/-- A point of the interval, all three given on one scale. -/
def Interval.holds
    (interval : Interval)
    (scale point : Nat) :
    Bool :=
  let low := interval.low * scale
  let high := interval.high * scale
  if interval.closed then
    low ≤ point && point ≤ high
  else
    low < point && point < high

/--
The multiple of `10 ^ exponent` that lies in the rounding interval of the rank,
the nearer one if both neighbours of the magnitude do.
-/
def gridPoint? (rank : Nat) (exponent : Int) : Option DecimalDigits :=
  let scale := 10 ^ (-exponent).toNat
  let step := 2 * unitsInOne * 10 ^ exponent.toNat
  let value := 2 * unitsOfRank rank * scale
  let below := value / step
  let above := below + 1
  let interval := intervalOfRank rank
  let belowFits := interval.holds scale (below * step)
  let aboveFits := interval.holds scale (above * step)
  let belowDistance := value - below * step
  let aboveDistance := above * step - value
  let belowNearer :=
    belowDistance < aboveDistance ||
      (belowDistance == aboveDistance && below % 2 == 0)
  if belowFits && (belowNearer || !aboveFits) then
    some ⟨below, exponent⟩
  else if aboveFits then
    some ⟨above, exponent⟩
  else
    none

/-- A decimal exponent whose power of ten is at least the magnitude of the rank. -/
def coarsestExponent (rank : Nat) : Int :=
  ((Nat.log2 (unitsOfRank rank) : Int) - 1074) * 30103 / 100000 + 1

end Binary64

/-- The same number with the trailing zeros of its digits in the exponent. -/
def DecimalDigits.stripZeros (number : DecimalDigits) : DecimalDigits :=
  let zeros := (Text.natDigits number.digits).reverse.takeWhile (· == '0')
  if number.digits = 0 then
    number
  else
    ⟨number.digits / 10 ^ zeros.length, number.exponent + zeros.length⟩

/-- The fewest digits that round to the magnitude of a positive finite rank. -/
def Binary64.shortest (rank : Nat) : DecimalDigits :=
  let coarsest := coarsestExponent rank
  let found :=
    (List.range 19).findSome? fun (finer : Nat) =>
      gridPoint? rank (coarsest - finer)
  (found.getD ⟨0, 0⟩).stripZeros

namespace DecimalDigits

/-- The digits of a number, most significant first. -/
def figures (number : DecimalDigits) : List Char :=
  Text.natDigits number.digits

/-- The exponent of the power of ten that the first digit counts. -/
def leadingExponent (number : DecimalDigits) : Int :=
  number.exponent + number.figures.length - 1

/--
The number in positional form: the digits before the point and those after
it, the latter empty for a whole number.
-/
def positional (number : DecimalDigits) : List Char × List Char :=
  let figures := number.figures
  match number.exponent with
  | .ofNat zeros => (figures ++ List.replicate zeros '0', [])
  | .negSucc places =>
      let places := places + 1
      if figures.length ≤ places then
        (['0'], List.replicate (places - figures.length) '0' ++ figures)
      else
        figures.splitAt (figures.length - places)

end DecimalDigits

namespace Binary64

/-- A sign followed by a text. -/
def signed (negative : Bool) (text : List Char) : List Char :=
  if negative then '-' :: text else text

/--
The number in positional form with its fewest digits, never with an exponent:
`100`, `0.0000001`, `-0`.  The other values are `NaN`, `inf` and `-inf`.
-/
def plainText : Binary64 → List Char
  | .nan => "NaN".toList
  | .number negative rank =>
      signed negative <|
        if rank.val = infiniteRank then
          "inf".toList
        else if rank.val = 0 then
          ['0']
        else
          match (shortest rank.val).positional with
          | (whole, []) => whole
          | (whole, fraction) => whole ++ '.' :: fraction

end Binary64

end GeoTables
