import WalletRows.Binary64.Shortest
import WalletRows.Proofs.Binary64.Nearest
import WalletRows.Proofs.Text.Numerals

/-!
# Shortest decimals

The search for a shortest decimal starts above the leading digit and goes to
finer grids.  A decimal next to a magnitude that alone reads back as it, on its
own grid and on every coarser one, is where the search ends.
-/

namespace WalletRows

/-! ## Decimals as rational numbers -/

namespace ScaledDecimal

def toRat (decimal : ScaledDecimal) : ℚ :=
  decimal.toRatio.toRat

theorem toRat_eq (decimal : ScaledDecimal) :
    decimal.toRat = decimal.coefficient * 10 ^ decimal.exponent := by
  rw [toRat, toRatio, Ratio.toRat_scale _ (by norm_num), Ratio.toRat_ofNat]
  norm_num

theorem isPositive_toRatio {decimal : ScaledDecimal}
    (positive : 0 < decimal.coefficient) : decimal.toRatio.IsPositive :=
  (Ratio.isPositive_ofNat positive).scale (by norm_num) _

end ScaledDecimal

/-! ## The leading digit -/

namespace Decimal

theorem length_digits_pos (number : Nat) : 0 < (digits number).length := by
  obtain ⟨first, rest, written, -⟩ := digits_eq_cons number
  rw [written]
  exact Nat.succ_pos _

theorem lt_pow_length_digits (number : Nat) :
    number < 10 ^ (digits number).length := by
  induction number using digits.induct with
  | case1 number small =>
      rw [digits_of_lt small]
      exact small
  | case2 number large ih =>
      rw [digits_of_ge large, List.length_append, List.length_singleton,
        Nat.pow_succ]
      omega

theorem pow_length_digits_le {number : Nat} (positive : 0 < number) :
    10 ^ ((digits number).length - 1) ≤ number := by
  induction number using digits.induct with
  | case1 number small =>
      rw [digits_of_lt small]
      exact positive
  | case2 number large ih =>
      have leading := ih (by omega)
      obtain ⟨places, length⟩ :=
        Nat.exists_eq_succ_of_ne_zero (length_digits_pos (number / 10)).ne'
      rw [length, Nat.succ_sub_one] at leading
      rw [digits_of_ge large, List.length_append, List.length_singleton, length,
        Nat.add_sub_cancel, Nat.pow_succ]
      omega

end Decimal

namespace Magnitude

variable {magnitude : Magnitude}

/-- A magnitude is less than one power of ten away from its leading power. -/
theorem leadingPower_spec (positive : 0 < magnitude.mantissa) :
    (10 : ℚ) ^ (magnitude.leadingPower - 1) < magnitude.toRat ∧
      magnitude.toRat < 10 ^ (magnitude.leadingPower + 1) := by
  obtain ⟨numerator, denominator⟩ := isPositive_toRatio positive
  let above := (Decimal.digits magnitude.toRatio.numerator).length
  let below := (Decimal.digits magnitude.toRatio.denominator).length
  have ten : (10 : ℚ) ≠ 0 := by norm_num
  have leading : magnitude.leadingPower = (above : ℤ) - below := rfl
  have aboveDigit : 0 < above := Decimal.length_digits_pos _
  have belowDigit : 0 < below := Decimal.length_digits_pos _
  have denominator' : (0 : ℚ) < magnitude.toRatio.denominator := by
    exact_mod_cast denominator
  have numeratorLow :
      (10 : ℚ) ^ ((above : ℤ) - 1) ≤ magnitude.toRatio.numerator := by
    rw [← Nat.cast_pred aboveDigit, zpow_natCast]
    exact_mod_cast Decimal.pow_length_digits_le numerator
  have numeratorHigh :
      (magnitude.toRatio.numerator : ℚ) < 10 ^ (above : ℤ) := by
    rw [zpow_natCast]
    exact_mod_cast Decimal.lt_pow_length_digits _
  have denominatorLow :
      (10 : ℚ) ^ ((below : ℤ) - 1) ≤ magnitude.toRatio.denominator := by
    rw [← Nat.cast_pred belowDigit, zpow_natCast]
    exact_mod_cast Decimal.pow_length_digits_le denominator
  have denominatorHigh :
      (magnitude.toRatio.denominator : ℚ) < 10 ^ (below : ℤ) := by
    rw [zpow_natCast]
    exact_mod_cast Decimal.lt_pow_length_digits _
  rw [toRat, Ratio.toRat, lt_div_iff₀ denominator', div_lt_iff₀ denominator',
    leading]
  constructor
  · calc (10 : ℚ) ^ ((above : ℤ) - below - 1) * magnitude.toRatio.denominator
        < 10 ^ ((above : ℤ) - below - 1) * 10 ^ (below : ℤ) := by gcongr
      _ = 10 ^ ((above : ℤ) - 1) := by
          rw [← zpow_add₀ ten]
          congr 1
          omega
      _ ≤ magnitude.toRatio.numerator := numeratorLow
  · calc (magnitude.toRatio.numerator : ℚ) < 10 ^ (above : ℤ) := numeratorHigh
      _ = 10 ^ ((above : ℤ) - below + 1) * 10 ^ ((below : ℤ) - 1) := by
          rw [← zpow_add₀ ten]
          congr 1
          omega
      _ ≤ 10 ^ ((above : ℤ) - below + 1) * magnitude.toRatio.denominator := by
          gcongr

/-! ## The search -/

theorem toRat_inUnits (magnitude : Magnitude) (exponent : ℤ) :
    (magnitude.inUnits exponent).toRat = magnitude.toRat * 10 ^ (-exponent) := by
  rw [inUnits, Ratio.toRat_scale _ (by norm_num), toRat]
  norm_num

/-- A decimal that is less than a unit of its grid away is one of the two
neighbours on it. -/
theorem floorOn_of_near {decimal : ScaledDecimal}
    (near : |magnitude.toRat - decimal.toRat| < 10 ^ decimal.exponent) :
    magnitude.floorOn decimal.exponent = decimal.coefficient ∨
      magnitude.floorOn decimal.exponent + 1 = decimal.coefficient := by
  let scaled := magnitude.toRat * 10 ^ (-decimal.exponent)
  have unit : (0 : ℚ) < 10 ^ (-decimal.exponent) := by positivity
  have whole : (10 : ℚ) ^ decimal.exponent * 10 ^ (-decimal.exponent) = 1 := by
    rw [← zpow_add₀ (by norm_num), add_neg_cancel, zpow_zero]
  have coefficient :
      decimal.toRat * 10 ^ (-decimal.exponent) = decimal.coefficient := by
    rw [ScaledDecimal.toRat_eq, mul_assoc, whole, mul_one]
  obtain ⟨low, high⟩ := abs_lt.mp near
  have low' : (decimal.coefficient : ℚ) - 1 < scaled := by
    have := mul_lt_mul_of_pos_right low unit
    rw [sub_mul, coefficient, neg_mul, whole] at this
    linarith
  have high' : scaled < decimal.coefficient + 1 := by
    have := mul_lt_mul_of_pos_right high unit
    rw [sub_mul, coefficient, whole] at this
    linarith
  have nonnegative : 0 ≤ scaled := by
    have := toRat_nonneg magnitude
    positivity
  have floor : magnitude.floorOn decimal.exponent = ⌊scaled⌋₊ := by
    rw [floorOn, Ratio.floor_eq, toRat_inUnits]
  have least : (⌊scaled⌋₊ : ℚ) < decimal.coefficient + 1 :=
    (Nat.floor_le nonnegative).trans_lt high'
  have most : (decimal.coefficient : ℚ) < ⌊scaled⌋₊ + 2 := by
    have := Nat.lt_floor_add_one scaled
    linarith
  have least' : ⌊scaled⌋₊ < decimal.coefficient + 1 := by exact_mod_cast least
  have most' : decimal.coefficient < ⌊scaled⌋₊ + 2 := by exact_mod_cast most
  rw [floor]
  omega

/-- A decimal is the only one that reads back on its grid and on the coarser
ones. -/
def ReadsBackAlone (decimal : ScaledDecimal) (magnitude : Magnitude) : Prop :=
  decimal.readsBackAs magnitude = true ∧
    ∀ other : ScaledDecimal, decimal.exponent ≤ other.exponent →
      other.readsBackAs magnitude = true → other = decimal

variable {decimal : ScaledDecimal} (alone : ReadsBackAlone decimal magnitude)
  (near : |magnitude.toRat - decimal.toRat| < 10 ^ decimal.exponent) (tie : Tie)

include alone

theorem onGrid?_of_coarser {exponent : ℤ}
    (coarser : decimal.exponent < exponent) :
    magnitude.onGrid? tie exponent = none := by
  have refused : ∀ coefficient : Nat,
      ¬ (ScaledDecimal.mk coefficient exponent).readsBackAs magnitude = true := by
    intro coefficient reads
    have same := alone.2 _ coarser.le reads
    have : exponent = decimal.exponent :=
      congrArg ScaledDecimal.exponent same
    omega
  rw [onGrid?]
  simp only [refused, Bool.false_eq_true, if_false]

include near

theorem onGrid?_own : magnitude.onGrid? tie decimal.exponent = some decimal := by
  have refused : ∀ coefficient : Nat, coefficient ≠ decimal.coefficient →
      ¬ (ScaledDecimal.mk coefficient decimal.exponent).readsBackAs magnitude =
        true := by
    intro coefficient different reads
    have same := alone.2 ⟨coefficient, decimal.exponent⟩ le_rfl reads
    exact different (congrArg ScaledDecimal.coefficient same)
  have reads : (ScaledDecimal.mk decimal.coefficient
      decimal.exponent).readsBackAs magnitude = true :=
    alone.1
  rw [onGrid?]
  rcases floorOn_of_near near with lower | upper
  · have above := refused (decimal.coefficient + 1) (by omega)
    simp only [lower, reads, above, Bool.false_and, Bool.false_eq_true,
      if_true, if_false]
  · have below := refused (magnitude.floorOn decimal.exponent) (by omega)
    simp only [upper, reads, below, Bool.false_eq_true, if_true, if_false]

/-- The search passes the coarser grids. -/
theorem searchGrids_eq {grids : Nat} {exponent : ℤ}
    (first : decimal.exponent ≤ exponent)
    (last : exponent < decimal.exponent + grids) :
    magnitude.searchGrids tie grids exponent = decimal := by
  induction grids generalizing exponent with
  | zero =>
      push_cast at last
      omega
  | succ grids ih =>
      rw [searchGrids]
      rcases first.lt_or_eq with coarser | own
      · rw [onGrid?_of_coarser alone tie coarser]
        exact ih (by omega) (by push_cast at last; omega)
      · rw [← own, onGrid?_own alone near tie]

/-- A decimal that reads back alone is the shortest one. -/
theorem shortest_eq (positive : 0 < magnitude.mantissa)
    (first : decimal.exponent ≤ magnitude.leadingPower + 1)
    (last : magnitude.leadingPower + 1 < decimal.exponent + gridCount) :
    magnitude.shortest tie = decimal := by
  have nonzero : magnitude.isZero = false := by
    rw [isZero, decide_eq_false_iff_not]
    exact positive.ne'
  rw [shortest, nonzero]
  exact searchGrids_eq alone near tie first last

end Magnitude

end WalletRows
