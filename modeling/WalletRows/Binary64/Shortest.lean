import WalletRows.Binary64
import WalletRows.Text.Decimal

/-!
# Shortest decimals

A binary64 number is written with the fewest decimal digits that still read
back as the same number, and of several such decimals with the nearest one.  Who
asks for it says which of two equally near ones is meant.
The search goes from the coarsest decimal grid to finer ones and tries on each
the two neighbours of the number; the first grid with a neighbour that reads
back has the fewest digits.
-/

namespace WalletRows

/-- The decimal `coefficient * 10 ^ exponent`. -/
structure ScaledDecimal where
  /-- The digits as a number. -/
  coefficient : Nat
  /-- The power of ten. -/
  exponent : Int
deriving DecidableEq

namespace ScaledDecimal

def toRatio (decimal : ScaledDecimal) : Ratio :=
  (Ratio.ofNat decimal.coefficient).scale 10 decimal.exponent

def toMagnitude (decimal : ScaledDecimal) : Magnitude :=
  .nearest decimal.toRatio

def readsBackAs (decimal : ScaledDecimal) (magnitude : Magnitude) : Bool :=
  decimal.toMagnitude = magnitude

/-- The digits without an exponent or a needless point: zeros are added where
the last digit stands left of the units, and a point where it stands right. -/
def positional (decimal : ScaledDecimal) : List Char :=
  if 0 ≤ decimal.exponent then
    Decimal.digits decimal.toRatio.numerator
  else
    let places := (-decimal.exponent).toNat
    Decimal.digits (decimal.coefficient / Nat.pow 10 places) ++
      '.' :: Decimal.padded places (decimal.coefficient % Nat.pow 10 places)

/-- The digits as one digit before the point and the others behind it, with the
power of ten written out with its sign. -/
def scientific (decimal : ScaledDecimal) : List Char :=
  let digits := Decimal.digits decimal.coefficient
  let power := decimal.exponent + (digits.length - 1 : Nat)
  let sign := if power < 0 then '-' else '+'
  let written :=
    match digits with
    | lead :: next :: rest => lead :: '.' :: next :: rest
    | short => short
  written ++ 'e' :: sign :: Decimal.digits power.natAbs

end ScaledDecimal

namespace Magnitude

/-- A magnitude in units of a power of ten. -/
def inUnits (magnitude : Magnitude) (exponent : Int) : Ratio :=
  magnitude.toRatio.scale 10 (-exponent)

/-- The multiple of a power of ten just below a magnitude. -/
def floorOn (magnitude : Magnitude) (exponent : Int) : Nat :=
  (magnitude.inUnits exponent).floor

/-- Whether the upper neighbour on a decimal grid is chosen before the lower
one. -/
def prefersUpper (magnitude : Magnitude) (tie : Tie) (exponent : Int) : Bool :=
  (magnitude.inUnits exponent).round tie ≠ magnitude.floorOn exponent

/-- The neighbour of a magnitude on a decimal grid that reads back as it. -/
def onGrid? (magnitude : Magnitude) (tie : Tie) (exponent : Int) :
    Option ScaledDecimal :=
  let lower : ScaledDecimal := ⟨magnitude.floorOn exponent, exponent⟩
  let upper : ScaledDecimal := ⟨magnitude.floorOn exponent + 1, exponent⟩
  if lower.readsBackAs magnitude then
    if upper.readsBackAs magnitude && magnitude.prefersUpper tie exponent then
      some upper
    else
      some lower
  else if upper.readsBackAs magnitude then
    some upper
  else
    none

/-- Search the grids from an exponent downwards. -/
def searchGrids (magnitude : Magnitude) (tie : Tie) :
    Nat → Int → ScaledDecimal
  | 0, exponent => ⟨magnitude.floorOn exponent, exponent⟩
  | grids + 1, exponent =>
      match magnitude.onGrid? tie exponent with
      | some decimal => decimal
      | none => searchGrids magnitude tie grids (exponent - 1)

/-- A power of ten that is not below the leading digit of a magnitude and at
most one step above it. -/
def leadingPower (magnitude : Magnitude) : Int :=
  ((Decimal.digits magnitude.toRatio.numerator).length : Int) -
    (Decimal.digits magnitude.toRatio.denominator).length

/-- Seventeen digits always read back, so the search needs one grid for each of
them and two above the leading digit. -/
def gridCount : Nat := 19

/-- The shortest decimal that reads back as a magnitude, and the nearest of
several. -/
def shortest (magnitude : Magnitude) (tie : Tie) : ScaledDecimal :=
  if magnitude.isZero then
    ⟨0, 0⟩
  else
    magnitude.searchGrids tie gridCount (magnitude.leadingPower + 1)

end Magnitude

namespace Binary64

/-- Put a minus sign before the text of a negative number. -/
def signed (number : Binary64) (text : List Char) : List Char :=
  if number.negative then '-' :: text else text

/-- The shortest decimal, the greater of two equally near, without an exponent
and without a point if it is whole. -/
def plainText (number : Binary64) : List Char :=
  number.signed (number.magnitude.shortest .upward).positional

def hundredthsText (number : Binary64) : List Char :=
  let hundredths := number.magnitude.hundredths
  number.signed
    (Decimal.digits (hundredths / 100) ++
      '.' :: Decimal.padded 2 (hundredths % 100))

/-- The shortest decimal, the even one of two equally near, as error messages
quote it: whole numbers keep a zero behind the point, and an exponent is used
where the leading digit stands more than five places behind the point or more
than sixteen before it. -/
def quotedText (number : Binary64) : List Char :=
  let decimal := number.magnitude.shortest .toEven
  let power :=
    decimal.exponent + ((Decimal.digits decimal.coefficient).length - 1 : Nat)
  number.signed <|
    if -5 ≤ power ∧ power ≤ 15 then
      if 0 ≤ decimal.exponent then decimal.positional ++ ['.', '0']
      else decimal.positional
    else
      decimal.scientific

end Binary64

end WalletRows
