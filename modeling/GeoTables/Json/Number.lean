import GeoTables.Json.Basic
import GeoTables.Number.Shortest

/-!
# Spellings of JSON numbers

A number without point and exponent is an integer if it fits 64 bits, unsigned
or signed; every other number is a floating-point number, the integer zero
with a minus sign among them.

A floating-point number is formed from the leading digits that fit 64 bits and
a power of ten, with one rounding for each of the two and one for each product
or quotient.  This is not always the number nearest to the text.  Numbers
beyond the range of the format are refused.

Floating-point numbers are written with their fewest digits and never look
like integers; an exponent is used from `1e+16` up and below `1e-5`.
-/

namespace GeoTables.Json

-- Powers are those of the core library.
attribute [local instance (high)] instPowNat

/-- The parts of a number as it is spelled. -/
structure NumberText where
  negative : Bool
  whole : List Char
  fraction : Option (List Char)
  exponent : Option (Bool × List Char)
  deriving DecidableEq, Repr

namespace NumberText

/-- The exponent part after its letter: its sign and its digits. -/
def exponentOf? (text : List Char) : Option (Bool × List Char) :=
  let (negative, digits) :=
    match text with
    | '-' :: rest => (true, rest)
    | '+' :: rest => (false, rest)
    | rest => (false, rest)
  if !digits.isEmpty && digits.all Char.isDigit then some (negative, digits) else none

/-- The parts of a run of number characters, if it is spelled as a number. -/
def ofRun? (run : List Char) : Option NumberText := do
  let (negative, unsigned) :=
    match run with
    | '-' :: rest => (true, rest)
    | rest => (false, rest)
  let whole := unsigned.takeWhile Char.isDigit
  if whole.isEmpty || (whole.head? == some '0' && whole.length > 1) then none
  let afterWhole := unsigned.dropWhile Char.isDigit
  let (fraction, afterFraction) :=
    match afterWhole with
    | '.' :: rest =>
        (some (rest.takeWhile Char.isDigit), rest.dropWhile Char.isDigit)
    | rest => (none, rest)
  if fraction == some [] then none
  match afterFraction with
  | [] => return ⟨negative, whole, fraction, none⟩
  | letter :: rest =>
      if letter == 'e' || letter == 'E' then
        return ⟨negative, whole, fraction, some (← exponentOf? rest)⟩
      else
        none

end NumberText

/-- The first number that does not fit 64 bits. -/
def unsignedBound : Nat := 2 ^ (64 : Nat)

/--
Append digits to a significand while it fits 64 bits.  The second component
counts the digits that were appended, the third those that were left out.
-/
def appendDigits (significand taken : Nat) : List Char → Nat × Nat × Nat
  | [] => (significand, taken, 0)
  | digit :: rest =>
      let longer := 10 * significand + Text.digitValue digit
      if longer < unsignedBound then
        appendDigits longer (taken + 1) rest
      else
        (significand, taken, rest.length + 1)

/-- The greatest exponent whose power of ten is used in one step. -/
def greatestStep : Nat := 308

/-- A power of ten as a floating-point number. -/
def powerOfTen (exponent : Nat) : Binary64 :=
  Binary64.ofNat (10 ^ exponent)

/-- Divide a number by the greatest step `count` times; zero stays as it is. -/
def divideRepeatedly (value : Binary64) : Nat → Binary64
  | 0 => value
  | count + 1 =>
      if value.isZero then
        value
      else
        divideRepeatedly (value / powerOfTen greatestStep) count

/-- Divide by a power of ten, in steps of the greatest one and a last smaller step. -/
def scaleDown (value : Binary64) (exponent : Nat) : Binary64 :=
  let steps := (exponent - 1) / greatestStep
  divideRepeatedly value steps / powerOfTen (exponent - greatestStep * steps)

/-- Multiply by a power of ten, unless the result is not finite. -/
def scaleUp? (value : Binary64) (exponent : Nat) : Option Binary64 :=
  if exponent ≤ greatestStep then
    let product := value * powerOfTen exponent
    if product.isFinite then some product else none
  else if value.isZero then
    some value
  else
    none

/-- The exponents that are kept as they are; beyond them a number is zero or too great. -/
def exponentBound : Nat := 2 ^ (31 : Nat)

/-- The floating-point number that a number text denotes. -/
def NumberText.float? (text : NumberText) : Option Binary64 := do
  let (wholeDigits, _, wholeLeft) := appendDigits 0 0 text.whole
  let (significand, fractionTaken, _) :=
    appendDigits wholeDigits 0 (text.fraction.getD [])
  let start : Int := wholeLeft - fractionTaken
  let value := Binary64.ofNat significand
  let magnitude ←
    match text.exponent with
    | none =>
        match start with
        | .ofNat exponent => scaleUp? value exponent
        | .negSucc exponent => some (scaleDown value (exponent + 1))
    | some (down, digits) =>
        let given := Text.digitsValue 0 digits
        if given ≥ exponentBound then
          if significand = 0 || down then some Binary64.zero else none
        else
          match if down then start - given else start + given with
          | .ofNat exponent => scaleUp? value exponent
          | .negSucc exponent => some (scaleDown value (exponent + 1))
  return if text.negative then -magnitude else magnitude

/-- The number that a number text denotes. -/
def NumberText.value? (text : NumberText) : Option Number :=
  let magnitude := Text.digitsValue 0 text.whole
  let isInteger :=
    text.fraction.isNone && text.exponent.isNone &&
      if text.negative then
        0 < magnitude && magnitude ≤ 2 ^ (63 : Nat)
      else
        magnitude < unsignedBound
  if isInteger then
    some (.integer (if text.negative then -(magnitude : Int) else magnitude))
  else
    text.float?.map .float

/-! ## Writing -/

/-- Exponents of the first digit that are written out in positional form. -/
def isPositional (leading : Int) : Bool :=
  -5 ≤ leading && leading < 16

/-- Digits with a point after the first and an exponent with its sign. -/
def scientific (digits : DecimalDigits) : List Char :=
  let leading := digits.leadingExponent
  let mantissa :=
    match digits.figures with
    | [] => []
    | [figure] => [figure]
    | figure :: rest => figure :: '.' :: rest
  let sign := if leading < 0 then '-' else '+'
  mantissa ++ 'e' :: sign :: Text.natDigits leading.natAbs

/-- Digits in positional form, always with a point. -/
def pointed (digits : DecimalDigits) : List Char :=
  match digits.positional with
  | (whole, []) => whole ++ ['.', '0']
  | (whole, fraction) => whole ++ '.' :: fraction

/-- The spelling of a finite floating-point number. -/
def floatText : Binary64 → List Char
  | .nan => "null".toList
  | .number negative rank =>
      if rank.val = Binary64.infiniteRank then
        "null".toList
      else if rank.val = 0 then
        Binary64.signed negative ['0', '.', '0']
      else
        let digits := Binary64.shortest rank.val
        Binary64.signed negative <|
          if isPositional digits.leadingExponent then pointed digits else scientific digits

/-- The spelling of a number. -/
def Number.characters : Number → List Char
  | .integer value => Text.intDigits value
  | .float value => floatText value

end GeoTables.Json
