import WalletRows.Json.Reader

/-!
# JSON numbers

A number is read in two steps.  The first follows the grammar and keeps the
digits; the second gives them a meaning: an integer if the literal has neither
a fraction nor an exponent and fits 64 bits, and else a binary64 number.
-/

namespace WalletRows

namespace Json

/-- The parts of a number as it is written. -/
structure NumberLiteral where
  /-- Whether a minus sign stands first. -/
  negative : Bool
  /-- The digits before the point. -/
  whole : List Char
  /-- The digits behind the point; none if there is no point. -/
  fraction : List Char
  /-- The sign and the digits of the exponent. -/
  exponent : Option (Bool × List Char)

inductive Number where
  | integer (value : Int)
  | float (value : Binary64)

/-- Split a text behind the digits at its front. -/
def digitRun (text : List Char) : List Char × List Char :=
  (text.takeWhile Char.isDigit, text.dropWhile Char.isDigit)

theorem length_digitRun_le (text : List Char) :
    (digitRun text).2.length ≤ text.length := by
  induction text with
  | nil => simp [digitRun]
  | cons character rest ih =>
      by_cases digit : character.isDigit
      · simp [digitRun, digit] at ih ⊢
        omega
      · simp [digitRun, digit]

/-- Read at least one digit; `early` is the error at the end of the text. -/
def someDigits (early : Error) (text : List Char) :
    Except Error (List Char × Tail text) :=
  match digitRun text, length_digitRun_le text with
  | ([], []), _ => .error early
  | ([], _ :: _), _ => .error (.malformed .invalidNumber)
  | (digits, rest), within => .ok (digits, ⟨rest, within⟩)

/-- Read the digits before the point: a zero alone, or a run that starts with
another digit. -/
def wholeDigits (early : Error) : Reader (List Char)
  | [] => .error early
  | '0' :: rest =>
      match rest with
      | [] => .ok (['0'], .behind '0' [])
      | next :: later =>
          if next.isDigit then
            .error (.malformed .invalidNumber)
          else
            .ok (['0'], .behind '0' (next :: later))
  | digit :: rest =>
      if digit.isDigit then
        .ok (digit :: (digitRun rest).1,
          ⟨(digitRun rest).2, Nat.lt_succ_of_le (length_digitRun_le rest)⟩)
      else
        .error (.malformed .invalidNumber)

/-- Read a point and the digits behind it, if there is a point. -/
def fractionDigits (early : Error) :
    (text : List Char) → Except Error (List Char × Tail text)
  | '.' :: rest =>
      match someDigits early rest with
      | .error error => .error error
      | .ok (digits, final) => .ok (digits, final.behind '.')
  | text => .ok ([], .all text)

/-- The sign of an exponent, and the text behind it. -/
def exponentSign : List Char → Bool × List Char
  | '+' :: rest => (false, rest)
  | '-' :: rest => (true, rest)
  | text => (false, text)

theorem length_exponentSign_le (text : List Char) :
    (exponentSign text).2.length ≤ text.length := by
  unfold exponentSign
  split <;> simp

/-- Read an exponent, if there is one. -/
def exponentDigits (early : Error) :
    (text : List Char) → Except Error (Option (Bool × List Char) × Tail text)
  | [] => .ok (none, .all [])
  | mark :: rest =>
      if mark = 'e' || mark = 'E' then
        match someDigits early (exponentSign rest).2 with
        | .error error => .error error
        | .ok (digits, ⟨final, within⟩) =>
            .ok (some ((exponentSign rest).1, digits),
              ⟨final, Nat.le_succ_of_le
                (Nat.le_trans within (length_exponentSign_le rest))⟩)
      else
        .ok (none, .all (mark :: rest))

/-- Read a number behind its sign. -/
def unsignedLiteral (early : Error) (negative : Bool) : Reader NumberLiteral :=
  fun text =>
    match wholeDigits early text with
    | .error error => .error error
    | .ok (whole, ⟨afterWhole, within⟩) =>
        match fractionDigits early afterWhole with
        | .error error => .error error
        | .ok (fraction, ⟨afterFraction, within'⟩) =>
            match exponentDigits early afterFraction with
            | .error error => .error error
            | .ok (exponent, ⟨final, within''⟩) =>
                .ok (⟨negative, whole, fraction, exponent⟩,
                  ⟨final, by omega⟩)

/-- Read a number as it is written; `early` is the error at the end of the
text. -/
def numberLiteral (early : Error) : Reader NumberLiteral
  | '-' :: rest => behind (unsignedLiteral early true rest)
  | text => unsignedLiteral early false text

namespace NumberLiteral

/-- The bound of the significand: digits that would reach it are left out. -/
def significandBound : Nat := UInt64.size

/-- Append digits to a significand while it stays below its bound.  Returns it
with the digits that were left out. -/
def absorb : Nat → List Char → Nat × List Char
  | significand, [] => (significand, [])
  | significand, digit :: rest =>
      let extended := 10 * significand + Decimal.digitValue digit
      if extended < significandBound then
        absorb extended rest
      else
        (significand, digit :: rest)

/-- The greatest power of ten that the format can hold. -/
def maxPower : Nat := 308

/-- Divide by a power of ten in steps that the format can hold; a number that
has become zero stays zero. -/
def scaleDown (power : Nat) (magnitude : Magnitude) : Magnitude :=
  if magnitude.isZero then
    magnitude
  else if power ≤ maxPower then
    magnitude.div (.ofNat (Nat.pow 10 power))
  else
    scaleDown (power - maxPower)
      (magnitude.div (.ofNat (Nat.pow 10 maxPower)))
termination_by power
decreasing_by
  unfold maxPower at *
  omega

/-- Multiply by a power of ten, if the format can hold the product. -/
def scaleUp? (power : Nat) (magnitude : Magnitude) : Option Magnitude :=
  if magnitude.isZero then
    some magnitude
  else if power ≤ maxPower then
    let product := magnitude.mul (.ofNat (Nat.pow 10 power))
    if product.isFinite then some product else none
  else
    none

/-- The binary64 magnitude of a literal: its first digits as a significand,
rounded, and then scaled by one power of ten, rounded again. -/
def magnitude? (number : NumberLiteral) : Option Magnitude :=
  let (wholePart, dropped) := absorb 0 number.whole
  let (significand, left) := absorb wholePart number.fraction
  let taken : Int := (number.fraction.length : Int) - left.length
  let exponent : Int :=
    match number.exponent with
    | none => 0
    | some (true, digits) => -(Decimal.value digits : Int)
    | some (false, digits) => Decimal.value digits
  let power := (dropped.length : Int) - taken + exponent
  let rounded := Magnitude.ofNat significand
  if 0 ≤ power then
    scaleUp? power.toNat rounded
  else
    some (scaleDown (-power).toNat rounded)

def isIntegral (number : NumberLiteral) : Bool :=
  number.fraction.isEmpty && number.exponent.isNone

def integer (number : NumberLiteral) : Int :=
  let whole : Int := Decimal.value number.whole
  if number.negative then -whole else whole

/-- Whether 64 bits hold the integer of an integral literal.  A zero with a
minus sign is no integer. -/
def fitsInteger (number : NumberLiteral) : Bool :=
  if number.negative then
    number.integer < 0 && Int64.minValue.toInt ≤ number.integer
  else
    number.integer < UInt64.size

def number (number : NumberLiteral) : Except Error Number :=
  if number.isIntegral && number.fitsInteger then
    .ok (.integer number.integer)
  else
    match number.magnitude? with
    | some magnitude => .ok (.float ⟨number.negative, magnitude⟩)
    | none => .error (.malformed .numberOutOfRange)

end NumberLiteral

def readNumber : Reader Number :=
  fun text => checkValue NumberLiteral.number (numberLiteral (.unfinished .value) text)

end Json

end WalletRows
