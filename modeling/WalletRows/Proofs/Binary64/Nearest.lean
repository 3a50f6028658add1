import WalletRows.Binary64
import WalletRows.Proofs.Ratio

/-!
# The nearest number of the format

Rounding a positive number takes the nearest multiple of a unit, which is fixed
by the binade of the number.  Unless the number is too small for all digits, it
is rounded inside its binade, by at most half of that unit; and natural numbers
of 53 digits are numbers of the format.
-/

namespace WalletRows

namespace Magnitude

def toRat (magnitude : Magnitude) : ℚ :=
  magnitude.toRatio.toRat

theorem toRat_eq (magnitude : Magnitude) :
    magnitude.toRat = magnitude.mantissa * 2 ^ magnitude.exponent := by
  rw [toRat, toRatio, Ratio.toRat_scale _ Nat.two_pos, Ratio.toRat_ofNat]
  norm_num

theorem toRat_nonneg (magnitude : Magnitude) : 0 ≤ magnitude.toRat := by
  rw [toRat_eq]
  positivity

theorem toRat_zero : zero.toRat = 0 := by
  rw [toRat_eq, zero, Nat.cast_zero, zero_mul]

theorem isPositive_toRatio {magnitude : Magnitude}
    (positive : 0 < magnitude.mantissa) : magnitude.toRatio.IsPositive :=
  (Ratio.isPositive_ofNat positive).scale Nat.two_pos _

/-- The exponent of the unit to whose multiples a ratio is rounded. -/
def unitExponent (ratio : Ratio) : ℤ :=
  max (ratio.binade - fractionWidth) minExponent

def inUnit (ratio : Ratio) : Ratio :=
  ratio.scale 2 (-unitExponent ratio)

variable {ratio other : Ratio}

theorem toRat_inUnit (ratio : Ratio) :
    (inUnit ratio).toRat = ratio.toRat * 2 ^ (-unitExponent ratio) := by
  rw [inUnit, Ratio.toRat_scale _ Nat.two_pos, Nat.cast_ofNat]

theorem toRat_eq_inUnit_mul (ratio : Ratio) :
    ratio.toRat = (inUnit ratio).toRat * 2 ^ unitExponent ratio := by
  rw [toRat_inUnit, mul_assoc, ← zpow_add₀ two_ne_zero, neg_add_cancel, zpow_zero,
    mul_one]

theorem nearest_of_zero (none : ratio.numerator = 0) : nearest ratio = zero :=
  if_pos none

/-- The magnitude nearest to a positive ratio is a multiple of its unit. -/
theorem toRat_nearest (positive : ratio.IsPositive) :
    (nearest ratio).toRat =
      (inUnit ratio).round .toEven * 2 ^ unitExponent ratio := by
  have nonzero : ratio.numerator ≠ 0 := positive.numerator.ne'
  rw [nearest, if_neg nonzero]
  simp only
  split
  · rename_i carried
    rw [toRat_eq, zpow_add₀ two_ne_zero]
    have carried : (inUnit ratio).round .toEven = 2 * leastNormal := carried
    rw [carried, unitExponent]
    push_cast
    ring
  · rw [toRat_eq]
    rfl

theorem nearest_congr (positive : ratio.IsPositive)
    (positive' : other.IsPositive) (same : ratio.toRat = other.toRat) :
    nearest ratio = nearest other := by
  have binade : ratio.binade = other.binade :=
    Ratio.binade_congr positive positive' same
  have unit : unitExponent ratio = unitExponent other := by
    rw [unitExponent, unitExponent, binade]
  have units : (inUnit ratio).toRat = (inUnit other).toRat := by
    rw [toRat_inUnit, toRat_inUnit, same, unit]
  have rounded : (inUnit ratio).round .toEven = (inUnit other).round .toEven :=
    Ratio.round_congr (positive.scale Nat.two_pos _).denominator
      (positive'.scale Nat.two_pos _).denominator units .toEven
  unfold inUnit unitExponent at rounded
  rw [binade] at rounded
  simp only [nearest, positive.numerator.ne', positive'.numerator.ne', if_false,
    binade, rounded]

theorem abs_toRat_nearest_sub_le (positive : ratio.IsPositive) :
    |(nearest ratio).toRat - ratio.toRat| ≤ 2 ^ (unitExponent ratio - 1) := by
  have near : |((inUnit ratio).round .toEven : ℚ) - (inUnit ratio).toRat| ≤
      1 / 2 :=
    Ratio.abs_round_sub_le (positive.scale Nat.two_pos _).denominator _
  have unit : (0 : ℚ) < 2 ^ unitExponent ratio := by positivity
  rw [toRat_nearest positive, toRat_eq_inUnit_mul ratio, ← sub_mul, abs_mul,
    abs_of_pos unit, zpow_sub_one₀ two_ne_zero]
  calc _ ≤ 1 / 2 * (2 : ℚ) ^ unitExponent ratio := by gcongr
    _ = 2 ^ unitExponent ratio * 2⁻¹ := by ring

/-! ## Powers of two -/

theorem zpow_eq_mul_unit {exponent : ℤ} (above : unitExponent ratio ≤ exponent) :
    (2 : ℚ) ^ exponent =
      (2 ^ (exponent - unitExponent ratio).toNat : Nat) *
        2 ^ unitExponent ratio := by
  have places : ((exponent - unitExponent ratio).toNat : ℤ) =
      exponent - unitExponent ratio := by omega
  rw [Nat.cast_pow, Nat.cast_ofNat, ← zpow_natCast, places,
    ← zpow_add₀ two_ne_zero, sub_add_cancel]

section Powers

variable (positive : ratio.IsPositive) {exponent : ℤ}
  (above : unitExponent ratio ≤ exponent)

include positive above

theorem toRat_nearest_le_zpow (most : ratio.toRat ≤ 2 ^ exponent) :
    (nearest ratio).toRat ≤ 2 ^ exponent := by
  have unit : (0 : ℚ) < 2 ^ unitExponent ratio := by positivity
  rw [toRat_eq_inUnit_mul ratio, zpow_eq_mul_unit above,
    mul_le_mul_iff_left₀ unit] at most
  rw [toRat_nearest positive, zpow_eq_mul_unit above, mul_le_mul_iff_left₀ unit]
  exact_mod_cast Ratio.round_le (positive.scale Nat.two_pos _).denominator most _

theorem zpow_le_toRat_nearest (least : 2 ^ exponent ≤ ratio.toRat) :
    2 ^ exponent ≤ (nearest ratio).toRat := by
  have unit : (0 : ℚ) < 2 ^ unitExponent ratio := by positivity
  rw [toRat_eq_inUnit_mul ratio, zpow_eq_mul_unit above,
    mul_le_mul_iff_left₀ unit] at least
  rw [toRat_nearest positive, zpow_eq_mul_unit above, mul_le_mul_iff_left₀ unit]
  exact_mod_cast Ratio.le_round (positive.scale Nat.two_pos _).denominator least _

end Powers

/-- A greater ratio is not rounded to less.  Ratios with one unit are rounded to
its multiples; else a power of two that both units divide lies between them. -/
theorem toRat_nearest_mono (positive : ratio.IsPositive)
    (positive' : other.IsPositive) (le : ratio.toRat ≤ other.toRat) :
    (nearest ratio).toRat ≤ (nearest other).toRat := by
  obtain ⟨low, high⟩ := Ratio.binade_spec positive
  obtain ⟨low', -⟩ := Ratio.binade_spec positive'
  have binades : ratio.binade ≤ other.binade :=
    (Ratio.le_binade_iff positive').mpr (low.trans le)
  have units : unitExponent ratio ≤ unitExponent other := by
    unfold unitExponent
    omega
  rcases units.lt_or_eq with less | same
  · have between : ratio.binade + 1 ≤ other.binade ∧
        unitExponent other ≤ other.binade := by
      unfold unitExponent fractionWidth minExponent at *
      omega
    calc (nearest ratio).toRat ≤ 2 ^ other.binade :=
          toRat_nearest_le_zpow positive (units.trans between.2)
            (high.le.trans (zpow_le_zpow_right₀ one_le_two between.1))
      _ ≤ (nearest other).toRat :=
          zpow_le_toRat_nearest positive' between.2 low'
  · have inUnits : (inUnit ratio).toRat ≤ (inUnit other).toRat := by
      rw [toRat_inUnit, toRat_inUnit, same]
      gcongr
    have rounded := Ratio.round_mono (positive.scale Nat.two_pos _).denominator
      (positive'.scale Nat.two_pos _).denominator inUnits .toEven
    rw [toRat_nearest positive, toRat_nearest positive', same]
    gcongr
    exact rounded

section Normal

variable (positive : ratio.IsPositive) (normal : -1022 ≤ ratio.binade)

include normal

theorem unitExponent_of_normal : unitExponent ratio = ratio.binade - 52 := by
  unfold unitExponent minExponent fractionWidth
  omega

include positive

/-- Rounding does not leave the binade, but for its upper end. -/
theorem toRat_nearest_mem_of_normal :
    (2 : ℚ) ^ ratio.binade ≤ (nearest ratio).toRat ∧
      (nearest ratio).toRat ≤ 2 ^ (ratio.binade + 1) := by
  obtain ⟨low, high⟩ := Ratio.binade_spec positive
  have unit := unitExponent_of_normal normal
  exact ⟨zpow_le_toRat_nearest positive (by omega) low,
    toRat_nearest_le_zpow positive (by omega) high.le⟩

theorem mantissa_nearest_pos : 0 < (nearest ratio).mantissa := by
  obtain ⟨low, -⟩ := toRat_nearest_mem_of_normal positive normal
  apply Nat.pos_of_ne_zero
  intro zero
  rw [toRat_eq, zero, Nat.cast_zero, zero_mul] at low
  exact absurd low (not_le.mpr (by positivity))

end Normal

theorem toRat_nearest_of_multiple (positive : ratio.IsPositive) {count : Nat}
    (multiple : ratio.toRat = count * 2 ^ unitExponent ratio) :
    (nearest ratio).toRat = ratio.toRat := by
  have unit : (2 : ℚ) ^ unitExponent ratio ≠ 0 := by positivity
  have units : (inUnit ratio).toRat = count := by
    rw [toRat_eq_inUnit_mul] at multiple
    exact mul_right_cancel₀ unit multiple
  have rounded : (inUnit ratio).round .toEven = count :=
    Ratio.round_of_toRat_eq (positive.scale Nat.two_pos _).denominator units _
  rw [toRat_nearest positive, rounded, multiple]

/-! ## Natural numbers -/

theorem binade_ofNat_nonneg {number : Nat} (positive : 0 < number) :
    0 ≤ (Ratio.ofNat number).binade := by
  rw [Ratio.le_binade_iff (Ratio.isPositive_ofNat positive), zpow_zero,
    Ratio.toRat_ofNat]
  exact_mod_cast positive

/-- A natural number of 53 digits, or the first one behind them, is rounded to
itself. -/
theorem toRat_ofNat {number : Nat} (positive : 0 < number)
    (small : number ≤ 2 ^ 53) : (ofNat number).toRat = number := by
  have isPositive : (Ratio.ofNat number).IsPositive :=
    Ratio.isPositive_ofNat positive
  have least := binade_ofNat_nonneg positive
  have exponents : unitExponent (Ratio.ofNat number) =
      (Ratio.ofNat number).binade - 52 :=
    unitExponent_of_normal (by omega)
  rw [ofNat, ← Ratio.toRat_ofNat number]
  rcases small.lt_or_eq with less | rfl
  · have most : (Ratio.ofNat number).binade < 53 := by
      rw [Ratio.binade_lt_iff isPositive, Ratio.toRat_ofNat]
      exact_mod_cast less
    -- A unit of at most one goes into every natural number.
    have ones := zpow_eq_mul_unit
      (show unitExponent (Ratio.ofNat number) ≤ 0 by omega)
    apply toRat_nearest_of_multiple isPositive
    rw [Ratio.toRat_ofNat, Nat.cast_mul, mul_assoc, ← ones, zpow_zero, mul_one]
  · have binade : (Ratio.ofNat (2 ^ 53)).binade = 53 := by
      apply Ratio.binade_eq_of_mem isPositive
      all_goals norm_num
    have whole := zpow_eq_mul_unit
      (show unitExponent (Ratio.ofNat (2 ^ 53)) ≤ 53 by omega)
    apply toRat_nearest_of_multiple isPositive
    rw [← whole, Ratio.toRat_ofNat]
    norm_num

theorem mantissa_ofNat_pos {number : Nat} (positive : 0 < number) :
    0 < (ofNat number).mantissa :=
  mantissa_nearest_pos (Ratio.isPositive_ofNat positive)
    ((binade_ofNat_nonneg positive).trans' (by norm_num))

end Magnitude

end WalletRows
