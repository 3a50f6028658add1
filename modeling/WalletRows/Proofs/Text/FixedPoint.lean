import Mathlib.Algebra.Field.Rat
import Mathlib.Data.List.DropRight
import Mathlib.Data.Rat.Cast.Order
import Mathlib.Tactic.FieldSimp
import Mathlib.Tactic.Linarith
import Mathlib.Tactic.Ring
import WalletRows.Proofs.Text.Numerals

/-!
# Decimals with a point

A number of parts, of which a unit has a power of ten, is written in units: the
whole units, and behind a point the digits of the other parts without the zeros
at their end.  The text stands for the exact quotient.
-/

namespace WalletRows

namespace Decimal

/-- The point and the digits behind it, if some of them are not zero. -/
def fraction (places rest : Nat) : List Char :=
  if rest = 0 then []
  else '.' :: (padded places rest).rdropWhile (· = '0')

/-- The text of a number of parts, in units of `10 ^ places` parts. -/
def unsignedFixedPoint (places parts : Nat) : List Char :=
  digits (parts / 10 ^ places) ++ fraction places (parts % 10 ^ places)

/-- The text of an integral number of parts. -/
def fixedPoint (places : Nat) (parts : Int) : List Char :=
  (if parts < 0 then ['-'] else []) ++ unsignedFixedPoint places parts.natAbs

/-- The number that digits stand for, which may have a point among them. -/
def unsignedRational (text : List Char) : ℚ :=
  let whole := text.takeWhile (· ≠ '.')
  let behind := (text.dropWhile (· ≠ '.')).drop 1
  value whole + value behind / 10 ^ behind.length

/-- The number that a decimal text stands for. -/
def rational : List Char → ℚ
  | '-' :: text => -unsignedRational text
  | text => unsignedRational text

/-! ## Digits up to a width -/

theorem digits_eq_concat (number : Nat) :
    ∃ front, digits number = front ++ [digitChar (number % 10)] := by
  by_cases small : number < 10
  · refine ⟨[], ?_⟩
    rw [digits_of_lt small, Nat.mod_eq_of_lt small, List.nil_append]
  · exact ⟨digits (number / 10), digits_of_ge small⟩

theorem padded_succ {places : Nat} (positive : 0 < places) (number : Nat) :
    padded (places + 1) number =
      padded places (number / 10) ++ [digitChar (number % 10)] := by
  by_cases small : number < 10
  · obtain ⟨more, rfl⟩ := Nat.exists_eq_succ_of_ne_zero positive.ne'
    have zero : number / 10 = 0 := Nat.div_eq_of_lt small
    have zeros : digits 0 = ['0'] := digits_of_lt (by norm_num)
    simp only [padded, zero, zeros, digits_of_lt small, Nat.mod_eq_of_lt small,
      List.length_singleton, Nat.succ_eq_add_one, Nat.add_sub_cancel,
      ← List.replicate_succ']
  · have length : (digits number).length = (digits (number / 10)).length + 1 := by
      rw [digits_of_ge small, List.length_append, List.length_singleton]
    rw [padded, length, Nat.add_sub_add_right, digits_of_ge small, padded,
      List.append_assoc]

theorem length_padded {places number : Nat} (positive : 0 < places)
    (small : number < 10 ^ places) : (padded places number).length = places := by
  induction places, positive using Nat.le_induction generalizing number with
  | base =>
      rw [padded, digits_of_lt small]
      rfl
  | succ places positive ih =>
      have small' : number / 10 < 10 ^ places := by
        rw [Nat.pow_succ] at small
        omega
      rw [padded_succ positive, List.length_append, ih small']
      rfl

theorem value_padded (places number : Nat) :
    value (padded places number) = number := by
  have zeros (count : Nat) :
      value (List.replicate count '0' ++ digits number) = number := by
    induction count with
    | zero => exact value_digits number
    | succ count ih => exact ih
  exact zeros _

theorem isDigit_of_mem_padded {width number : Nat} {character : Char}
    (member : character ∈ padded width number) : character.isDigit = true := by
  rcases List.mem_append.mp member with zero | digit
  · rw [List.eq_of_mem_replicate zero]
    rfl
  · exact isDigit_of_mem_digits digit

/-- Digits of a fixed width can be told from a text that they begin. -/
theorem padded_append_inj {places first second : Nat} {rest others : List Char}
    (positive : 0 < places) (small : first < 10 ^ places)
    (small' : second < 10 ^ places)
    (same : padded places first ++ rest = padded places second ++ others) :
    first = second ∧ rest = others := by
  obtain ⟨digits, behind⟩ := List.append_inj same
    ((length_padded positive small).trans (length_padded positive small').symm)
  refine ⟨?_, behind⟩
  rw [← value_padded places first, digits, value_padded]

/-- Zeros at the end of a number are zeros at the end of its digits. -/
theorem padded_mul_pow {places : Nat} (positive : 0 < places)
    (number zeros : Nat) :
    padded (places + zeros) (number * 10 ^ zeros) =
      padded places number ++ List.replicate zeros '0' := by
  induction zeros with
  | zero => simp
  | succ zeros ih =>
      have next : number * 10 ^ (zeros + 1) = number * 10 ^ zeros * 10 := by
        rw [Nat.pow_succ, Nat.mul_assoc]
      rw [← Nat.add_assoc, padded_succ (by omega), next,
        Nat.mul_div_cancel _ (by norm_num), ih, Nat.mul_mod_left,
        List.append_assoc, List.replicate_succ']
      rfl

/-! ## Zeros at the end -/

theorem rdropWhile_append_zeros (text : List Char) (zeros : Nat) :
    (text ++ List.replicate zeros '0').rdropWhile (· = '0') =
      text.rdropWhile (· = '0') := by
  induction zeros with
  | zero => simp
  | succ zeros ih =>
      rw [List.replicate_succ', ← List.append_assoc,
        List.rdropWhile_concat_pos _ _ _ (by decide), ih]

theorem rdropWhile_padded (places : Nat) {number : Nat}
    (nonzero : number % 10 ≠ 0) :
    (padded places number).rdropWhile (· = '0') = padded places number := by
  obtain ⟨front, written⟩ := digits_eq_concat number
  have last : ¬ digitChar (number % 10) = '0' := by
    intro zero
    exact nonzero (digitChar_eq_zero (Nat.mod_lt _ (by norm_num)) zero)
  rw [padded, written, ← List.append_assoc,
    List.rdropWhile_concat_neg _ _ _ (by simpa using last)]

theorem value_rdropWhile_div (text : List Char) :
    (value (text.rdropWhile (· = '0')) : ℚ) /
        10 ^ (text.rdropWhile (· = '0')).length =
      value text / 10 ^ text.length := by
  induction text using List.reverseRecOn with
  | nil => simp
  | append_singleton front last ih =>
      by_cases zero : last = '0'
      · subst zero
        have digit : digitValue '0' = 0 := by decide
        rw [List.rdropWhile_concat_pos _ _ _ (by decide), ih, value_append,
          digit, List.length_append, List.length_singleton, pow_succ]
        push_cast
        field_simp
        rw [add_zero]
      · rw [List.rdropWhile_concat_neg _ _ _ (by simpa using zero)]

/-! ## The number that is written -/

section Reading

variable {whole behind : List Char}
  (digits : ∀ digit ∈ whole, digit.isDigit = true)

include digits

theorem ne_point_of_digits : ∀ digit ∈ whole, decide (digit ≠ '.') = true := by
  intro digit member
  rw [decide_eq_true_eq]
  rintro rfl
  exact absurd (digits _ member) (by decide)

theorem unsignedRational_of_whole : unsignedRational whole = value whole := by
  have points := ne_point_of_digits digits
  have front : whole.takeWhile (fun digit => decide (digit ≠ '.')) = whole :=
    List.takeWhile_eq_self_iff.mpr points
  have none : whole.dropWhile (fun digit => decide (digit ≠ '.')) = [] :=
    List.dropWhile_eq_nil_iff.mpr points
  simp only [unsignedRational, front, none]
  simp [value]

theorem unsignedRational_of_point :
    unsignedRational (whole ++ '.' :: behind) =
      value whole + value behind / 10 ^ behind.length := by
  have points := ne_point_of_digits digits
  simp only [unsignedRational, List.takeWhile_append_of_pos points,
    List.dropWhile_append_of_pos points]
  simp

end Reading

theorem unsignedRational_fixedPoint {places : Nat} (positive : 0 < places)
    (parts : Nat) :
    unsignedRational (unsignedFixedPoint places parts) = parts / 10 ^ places := by
  have digits : ∀ digit ∈ digits (parts / 10 ^ places), digit.isDigit = true :=
    fun _ member => isDigit_of_mem_digits member
  have unit : (10 : ℚ) ^ places ≠ 0 := by positivity
  have split : (10 : ℚ) ^ places * (parts / 10 ^ places : Nat) +
      (parts % 10 ^ places : Nat) = parts := by
    exact_mod_cast Nat.div_add_mod parts (10 ^ places)
  have small : parts % 10 ^ places < 10 ^ places :=
    Nat.mod_lt _ (by positivity)
  rw [eq_div_iff unit, unsignedFixedPoint, fraction]
  split_ifs with none
  · rw [List.append_nil, unsignedRational_of_whole digits, value_digits]
    rw [none] at split
    push_cast at split
    linarith
  · rw [unsignedRational_of_point digits, value_digits, value_rdropWhile_div,
      value_padded, length_padded positive small, add_mul, div_mul_cancel₀ _ unit]
    linarith

theorem rational_digits_append (number : Nat) (rest : List Char) :
    rational (digits number ++ rest) = unsignedRational (digits number ++ rest) := by
  rw [rational]
  exact digits_append_ne_cons rfl number rest

/-- A number of parts is written as what it is in units. -/
theorem rational_fixedPoint {places : Nat} (positive : 0 < places)
    (parts : Int) : rational (fixedPoint places parts) = parts / 10 ^ places := by
  have magnitude := unsignedRational_fixedPoint positive parts.natAbs
  rw [fixedPoint]
  split_ifs with negative
  · have sign : (parts.natAbs : ℚ) = -(parts : ℚ) := by
      rw [Nat.cast_natAbs, abs_of_neg negative, Int.cast_neg]
    rw [List.cons_append, List.nil_append, rational, magnitude, sign]
    ring
  · have sign : (parts.natAbs : ℚ) = parts := by
      rw [Nat.cast_natAbs, abs_of_nonneg (not_lt.mp negative)]
    rw [List.nil_append, unsignedFixedPoint, rational_digits_append,
      ← unsignedFixedPoint, magnitude, sign]

end Decimal

end WalletRows
