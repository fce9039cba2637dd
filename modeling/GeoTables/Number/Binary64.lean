import GeoTables.Text.Numeral

/-!
# Binary floating-point numbers

A `Binary64` is a value of the IEEE 754 format of that name.  Apart from the
one not-a-number value it is a sign and a *rank*: the number of magnitudes of
the format below its own.  Zero has rank zero, the least subnormal number rank
one, and infinity the last rank.  Ranks make the order of magnitudes the order
of natural numbers, and rounding up a step of one.

Every finite magnitude is a whole number of units of `2 ^ -1074`.  Arithmetic
is done exactly on units or on ratios of natural numbers and rounded once, to
the nearest magnitude, a tie going to the even rank.
-/

namespace GeoTables

-- Powers are those of the core library.
attribute [local instance (high)] instPowNat

/-- The rank of infinity, one above the rank of the greatest finite magnitude. -/
def Binary64.infiniteRank : Nat := 9218868437227405312

/-- A number of the IEEE 754 format binary64. -/
inductive Binary64 where
  /-- The value that is not a number. -/
  | nan
  /-- A signed magnitude, given by its rank among all magnitudes. -/
  | number (negative : Bool) (rank : Fin (Binary64.infiniteRank + 1))
  deriving DecidableEq, Repr

namespace Binary64

/-- The signed magnitude of a rank; ranks beyond infinity are infinity. -/
def ofRank (negative : Bool) (rank : Nat) : Binary64 :=
  .number negative ⟨min rank infiniteRank, by omega⟩

/-- Positive zero. -/
def zero : Binary64 := ofRank false 0

instance : Inhabited Binary64 := ⟨zero⟩

/-- Infinity of the given sign. -/
def infinity (negative : Bool) : Binary64 := ofRank negative infiniteRank

/-- Neither infinite nor the value that is not a number. -/
def isFinite : Binary64 → Bool
  | .nan => false
  | .number _ rank => rank.val < infiniteRank

/-- The value with its sign turned round. -/
def neg : Binary64 → Binary64
  | .nan => .nan
  | .number negative rank => .number (!negative) rank

/--
The magnitude of a rank in units of `2 ^ -1074`.  Below rank `2 ^ 53` ranks
and units coincide; above, every block of `2 ^ 52` ranks doubles the step.
-/
def unitsOfRank (rank : Nat) : Nat :=
  if rank < 2 ^ (53 : Nat) then
    rank
  else
    (2 ^ (52 : Nat) + rank % 2 ^ (52 : Nat)) * 2 ^ (rank / 2 ^ (52 : Nat) - 1)

/-- The number of units in one. -/
def unitsInOne : Nat := 2 ^ (1074 : Nat)

/-- The rank nearest to a ratio of units, a tie going to the even rank. -/
def rankNearest (numerator denominator : Nat) : Nat :=
  let step := Nat.log2 (numerator / denominator) - 52
  let grid := denominator * 2 ^ step
  let quotient := numerator / grid
  let remainder := numerator % grid
  let rounded :=
    if 2 * remainder > grid || (2 * remainder == grid && quotient % 2 == 1) then
      quotient + 1
    else
      quotient
  step * 2 ^ (52 : Nat) + rounded

/-- The number nearest to a signed ratio of natural numbers. -/
def ofRatio
    (negative : Bool)
    (numerator denominator : Nat) :
    Binary64 :=
  ofRank negative (rankNearest (numerator * unitsInOne) denominator)

/-- The number nearest to a natural number. -/
def ofNat (value : Nat) : Binary64 := ofRatio false value 1

/-- The number nearest to an integer. -/
def ofInt (value : Int) : Binary64 :=
  ofRatio (value < 0) value.natAbs 1

/-- The value of a finite number in units of `2 ^ -1074`. -/
def units? : Binary64 → Option Int
  | .nan => none
  | .number negative rank =>
      if rank.val < infiniteRank then
        some (if negative then -(unitsOfRank rank.val : Int) else unitsOfRank rank.val)
      else
        none

/-- The sign of the value, `false` for the value that is not a number. -/
def isNegative : Binary64 → Bool
  | .nan => false
  | .number negative _ => negative

/-- Either zero. -/
def isZero : Binary64 → Bool
  | .nan => false
  | .number _ rank => rank.val == 0

/--
Where a number stands in the order of the reals with both infinities: the
two zeros share their place.
-/
def place? : Binary64 → Option Int
  | .nan => none
  | .number negative rank =>
      some (if negative then -(rank.val : Int) else rank.val)

/-- The order of two numbers, unless one of them is not a number. -/
def compare? (left right : Binary64) : Option Ordering := do
  return compare (← left.place?) (← right.place?)

/-- The two values are numbers and equal; the two zeros are equal. -/
def same (left right : Binary64) : Bool :=
  left.compare? right == some .eq

/--
The number nearest to a signed number of units.  A zero result takes the sign
that is given for it.
-/
def ofUnits (negativeZero : Bool) (units : Int) : Binary64 :=
  let negative := if units = 0 then negativeZero else units < 0
  ofRank negative (rankNearest units.natAbs 1)

/-- The sum, rounded once. -/
def add (left right : Binary64) : Binary64 :=
  match left.units?, right.units? with
  | some leftUnits, some rightUnits =>
      ofUnits (left.isNegative && right.isNegative) (leftUnits + rightUnits)
  | some _, none => right
  | none, some _ => left
  | none, none => if left = right then left else .nan

/-- The product, rounded once. -/
def mul (left right : Binary64) : Binary64 :=
  let negative := left.isNegative != right.isNegative
  match left.units?, right.units? with
  | some leftUnits, some rightUnits =>
      ofRank negative
        (rankNearest (leftUnits.natAbs * rightUnits.natAbs) unitsInOne)
  | _, _ =>
      if left = .nan || right = .nan || left.isZero || right.isZero then
        .nan
      else
        infinity negative

/-- The quotient, rounded once. -/
def div (left right : Binary64) : Binary64 :=
  let negative := left.isNegative != right.isNegative
  match left.units?, right.units? with
  | some leftUnits, some rightUnits =>
      if rightUnits = 0 then
        if leftUnits = 0 then .nan else infinity negative
      else
        ofRatio negative leftUnits.natAbs rightUnits.natAbs
  | none, some _ => if left = .nan then .nan else infinity negative
  | some _, none => if right = .nan then .nan else ofRank negative 0
  | none, none => .nan

/-- The nearest whole number, a half going away from zero. -/
def round (value : Binary64) : Binary64 :=
  match value.units? with
  | some units =>
      let whole := (2 * units.natAbs + unitsInOne) / (2 * unitsInOne)
      ofRatio value.isNegative whole 1
  | none => value

/-- The integer that a number is, if it is one. -/
def integer? (value : Binary64) : Option Int := do
  let units ← value.units?
  if units % unitsInOne = 0 then some (units / unitsInOne) else none

instance : Add Binary64 := ⟨add⟩
instance : Mul Binary64 := ⟨mul⟩
instance : Div Binary64 := ⟨div⟩
instance : Neg Binary64 := ⟨neg⟩

@[simp]
theorem place?_nan : place? .nan = none := rfl

/-- Two numbers are comparable unless one of them is not a number. -/
theorem compare?_isSome_iff
    (left right : Binary64) :
    (left.compare? right).isSome ↔ left ≠ .nan ∧ right ≠ .nan := by
  cases left <;> cases right <;> simp [compare?, place?]

end Binary64

end GeoTables
