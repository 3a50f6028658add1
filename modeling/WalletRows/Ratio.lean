/-!
# Ratios

A ratio of natural numbers is kept as it arises and never reduced.  It can be
scaled by powers of a base, cut to its whole part, and rounded.
-/

namespace WalletRows

/-- Which of two equally near numbers is chosen. -/
inductive Tie where
  | toEven
  | upward
deriving DecidableEq

/-- A quotient of natural numbers. -/
structure Ratio where
  numerator : Nat
  denominator : Nat

namespace Ratio

def ofNat (number : Nat) : Ratio :=
  ⟨number, 1⟩

def mul (left right : Ratio) : Ratio :=
  ⟨left.numerator * right.numerator, left.denominator * right.denominator⟩

def div (left right : Ratio) : Ratio :=
  ⟨left.numerator * right.denominator, left.denominator * right.numerator⟩

/-- The product with a power of a base. -/
def scale (ratio : Ratio) (base : Nat) (exponent : Int) : Ratio :=
  ⟨ratio.numerator * Nat.pow base exponent.toNat,
    ratio.denominator * Nat.pow base (-exponent).toNat⟩

/-- Whether the ratio is less than one. -/
def isProper (ratio : Ratio) : Bool :=
  ratio.numerator < ratio.denominator

def floor (ratio : Ratio) : Nat :=
  ratio.numerator / ratio.denominator

/-- The natural number nearest to the ratio. -/
def round (ratio : Ratio) (tie : Tie) : Nat :=
  let rest := ratio.numerator % ratio.denominator
  if 2 * rest < ratio.denominator then ratio.floor
  else if ratio.denominator < 2 * rest then ratio.floor + 1
  else
    match tie with
    | .toEven => ratio.floor + ratio.floor % 2
    | .upward => ratio.floor + 1

/-- The exponent of the greatest power of two that is at most a positive ratio. -/
def binade (ratio : Ratio) : Int :=
  let estimate : Int := (ratio.numerator.log2 : Int) - ratio.denominator.log2
  if (ratio.scale 2 (-estimate)).isProper then estimate - 1 else estimate

end Ratio

end WalletRows
