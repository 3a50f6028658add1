/-!
# Decimal numerals

Numbers are written with the digits `0` to `9`, most significant first and
without leading zeros.  Reading is stricter than core's: a numeral has an
optional plus sign, at least one digit, and a value up to a given limit, and a
refused numeral says why it was refused.
-/

namespace WalletRows

namespace Decimal

/-- The character of a digit below ten. -/
def digitChar (digit : Nat) : Char :=
  Char.ofNat ('0'.toNat + digit)

/-- The digits of a number, most significant first. -/
def digits (number : Nat) : List Char :=
  if number < 10 then
    [digitChar number]
  else
    digits (number / 10) ++ [digitChar (number % 10)]

def digitValue (digit : Char) : Nat :=
  digit.toNat - '0'.toNat

def value (digits : List Char) : Nat :=
  digits.foldl (fun total digit => 10 * total + digitValue digit) 0

/-- The digits of a number, filled up with zeros on the left to a width. -/
def padded (width number : Nat) : List Char :=
  let written := digits number
  List.replicate (width - written.length) '0' ++ written

/-- The digits of an integer, after a minus sign if it is negative. -/
def signed : Int → List Char
  | .ofNat number => digits number
  | .negSucc number => '-' :: digits (number + 1)

/-- The number a character stands for as a digit of a base up to sixteen. -/
def digit? (base : Nat) (character : Char) : Option Nat :=
  let code := character.toNat
  let number :=
    if '0'.toNat ≤ code ∧ code ≤ '9'.toNat then code - '0'.toNat
    else if 'a'.toNat ≤ code ∧ code ≤ 'f'.toNat then code - 'a'.toNat + 10
    else if 'A'.toNat ≤ code ∧ code ≤ 'F'.toNat then code - 'A'.toNat + 10
    else base
  if number < base then some number else none

/-- Why a text is not a numeral. -/
inductive Fault where
  | empty
  /-- A character is no digit, or no digit follows the sign. -/
  | invalidDigit
  /-- The digits read so far already exceed the limit. -/
  | tooLarge
deriving DecidableEq

def Fault.message : Fault → String
  | .empty => "cannot parse integer from empty string"
  | .invalidDigit => "invalid digit found in string"
  | .tooLarge => "number too large to fit in target type"

/-- Continue a numeral whose digits so far stand for `total`. -/
def readDigits (base limit : Nat) : Nat → List Char → Except Fault Nat
  | total, [] => .ok total
  | total, character :: rest =>
      match digit? base character with
      | none => .error .invalidDigit
      | some digit =>
          if limit < base * total + digit then
            .error .tooLarge
          else
            readDigits base limit (base * total + digit) rest

/-- Read an unsigned numeral up to a limit; a plus sign may stand first. -/
def read (base limit : Nat) : List Char → Except Fault Nat
  | [] => .error .empty
  | ['+'] => .error .invalidDigit
  | '+' :: rest => readDigits base limit 0 rest
  | text => readDigits base limit 0 text

def maxUInt64 : Nat := UInt64.size - 1

end Decimal

end WalletRows
