import WalletRows.Ratio

/-!
# Binary64 numbers

Coin values are numbers of the IEEE binary64 format.  They are held exactly, as
a sign and a magnitude `mantissa * 2 ^ exponent`, and every operation is one
exact ratio of naturals that is rounded once, to the nearest number of the
format and to the even mantissa on a tie.
-/

namespace WalletRows

/-- The magnitude `mantissa * 2 ^ exponent` of a binary64 number. -/
structure Magnitude where
  /-- The digits; below `2 ^ 53`. -/
  mantissa : Nat
  /-- The power of two; at least `-1074`. -/
  exponent : Int
deriving DecidableEq

namespace Magnitude

/-- The number of digits behind the leading one. -/
def fractionWidth : Nat := 52

/-- The least mantissa with all digits. -/
def leastNormal : Nat := Nat.pow 2 fractionWidth

def minExponent : Int := -1074

def maxExponent : Int := 971

def zero : Magnitude := ⟨0, minExponent⟩

def toRatio (magnitude : Magnitude) : Ratio :=
  (Ratio.ofNat magnitude.mantissa).scale 2 magnitude.exponent

/-- The magnitude nearest to a ratio, as if exponents had no upper end.  A
mantissa that rounds up to one digit more is the least one of the next power. -/
def nearest (ratio : Ratio) : Magnitude :=
  if ratio.numerator = 0 then
    zero
  else
    let exponent := max (ratio.binade - fractionWidth) minExponent
    let mantissa := (ratio.scale 2 (-exponent)).round .toEven
    if mantissa = 2 * leastNormal then
      ⟨leastNormal, exponent + 1⟩
    else
      ⟨mantissa, exponent⟩

/-- The magnitude nearest to a natural number. -/
def ofNat (number : Nat) : Magnitude :=
  nearest (.ofNat number)

/-- Whether a magnitude lies below the infinite end of the format. -/
def isFinite (magnitude : Magnitude) : Bool :=
  magnitude.exponent ≤ maxExponent

def isZero (magnitude : Magnitude) : Bool :=
  magnitude.mantissa = 0

/-- The rounded product. -/
def mul (left right : Magnitude) : Magnitude :=
  nearest (left.toRatio.mul right.toRatio)

/-- The rounded quotient. -/
def div (left right : Magnitude) : Magnitude :=
  nearest (left.toRatio.div right.toRatio)

/-- The number of hundredths nearest to a magnitude. -/
def hundredths (magnitude : Magnitude) : Nat :=
  (magnitude.toRatio.scale 10 2).round .toEven

/-- The exponent and mantissa fields of the encoding. -/
def bits (magnitude : Magnitude) : Nat :=
  if magnitude.mantissa < leastNormal then
    magnitude.mantissa
  else
    (magnitude.exponent - minExponent + 1).toNat * leastNormal +
      (magnitude.mantissa - leastNormal)

end Magnitude

/-- A finite binary64 number.  Zero has two signs. -/
structure Binary64 where
  /-- Whether the number is written with a minus sign. -/
  negative : Bool
  /-- Its distance from zero. -/
  magnitude : Magnitude
deriving DecidableEq

namespace Binary64

def ofInt (number : Int) : Binary64 :=
  ⟨number < 0, .ofNat number.natAbs⟩

/-- The nearest number to a quotient by a positive natural. -/
def divNat (number : Binary64) (divisor : Nat) : Binary64 :=
  ⟨number.negative, number.magnitude.div (.ofNat divisor)⟩

def isPositive (number : Binary64) : Bool :=
  !number.negative && !number.magnitude.isZero

/-- The place of the sign in the encoding. -/
def signBit : Nat := Nat.pow 2 63

def bits (number : Binary64) : Nat :=
  (if number.negative then signBit else 0) + number.magnitude.bits

end Binary64

end WalletRows
