import Mathlib.Tactic.GCongr
import WalletRows.Asset
import WalletRows.Proofs.Binary64.Nearest

/-!
# Coin values

A coin value has the sign of its atoms, and it is rounded twice: the number of
atoms to a number of the format, and the quotient of that.  Both roundings keep
the order of amounts.  Up to `2 ^ 53` atoms the first one changes nothing, so the
coin value is the number nearest to the exact one and less than an atom away.
-/

namespace WalletRows

namespace Asset

open Magnitude

def coinValue (atoms : Nat) : Magnitude :=
  (Magnitude.ofNat atoms).div (.ofNat atomsPerCoin)

theorem negative_toCoin (asset : Asset) (atoms : Int64) :
    (asset.toCoin atoms).negative = decide (atoms.toInt < 0) :=
  rfl

theorem magnitude_toCoin (asset : Asset) (atoms : Int64) :
    (asset.toCoin atoms).magnitude = coinValue atoms.toInt.natAbs :=
  rfl

/-- What is rounded to a coin value. -/
def quotient (atoms : Nat) : Ratio :=
  (Magnitude.ofNat atoms).toRatio.div (Magnitude.ofNat atomsPerCoin).toRatio

theorem coinValue_eq (atoms : Nat) : coinValue atoms = nearest (quotient atoms) :=
  rfl

theorem toRat_quotient (atoms : Nat) :
    (quotient atoms).toRat = (Magnitude.ofNat atoms).toRat / 10 ^ 8 := by
  have coin : (Magnitude.ofNat atomsPerCoin).toRat = 10 ^ 8 := by
    rw [toRat_ofNat (by decide) (by decide), atomsPerCoin]
    norm_num
  rw [quotient, Ratio.toRat_div, ← coin]
  rfl

theorem isPositive_quotient {atoms : Nat} (positive : 0 < atoms) :
    (quotient atoms).IsPositive :=
  (isPositive_toRatio (mantissa_ofNat_pos positive)).div
    (isPositive_toRatio (mantissa_ofNat_pos (by decide)))

theorem coinValue_zero : coinValue 0 = zero := by
  have none : (Magnitude.ofNat 0).toRatio.numerator = 0 := rfl
  rw [coinValue_eq]
  exact nearest_of_zero (Nat.mul_eq_zero.mpr (.inl none))

/-! ## The order of coin values -/

theorem toRat_coinValue_mono {atoms other : Nat} (le : atoms ≤ other) :
    (coinValue atoms).toRat ≤ (coinValue other).toRat := by
  rcases Nat.eq_zero_or_pos atoms with rfl | positive
  · rw [coinValue_zero, toRat_zero]
    exact toRat_nonneg _
  · have positive' : 0 < other := positive.trans_le le
    have whole : (Magnitude.ofNat atoms).toRat ≤ (Magnitude.ofNat other).toRat := by
      apply toRat_nearest_mono (Ratio.isPositive_ofNat positive)
        (Ratio.isPositive_ofNat positive')
      rw [Ratio.toRat_ofNat, Ratio.toRat_ofNat]
      exact_mod_cast le
    apply toRat_nearest_mono (isPositive_quotient positive)
      (isPositive_quotient positive')
    rw [toRat_quotient, toRat_quotient]
    gcongr

/-! ## The exact number of coins -/

/-- The exact number of coins. -/
def coins (atoms : Nat) : Ratio :=
  ⟨atoms, atomsPerCoin⟩

theorem toRat_coins (atoms : Nat) : (coins atoms).toRat = atoms / 10 ^ 8 := by
  rw [Ratio.toRat, coins, atomsPerCoin]
  norm_num

section Rounding

variable {atoms : Nat} (positive : 0 < atoms)

include positive

theorem isPositive_coins : (coins atoms).IsPositive :=
  ⟨positive, show 0 < atomsPerCoin by decide⟩

/-- No amount is so small that digits are lost. -/
theorem normal_coins : -1022 ≤ (coins atoms).binade := by
  have one : (1 : ℚ) ≤ atoms := by exact_mod_cast positive
  have least : (-27 : ℤ) ≤ (coins atoms).binade := by
    rw [Ratio.le_binade_iff (isPositive_coins positive), toRat_coins]
    calc (2 : ℚ) ^ (-27 : ℤ) ≤ 1 / 10 ^ 8 := by norm_num
      _ ≤ atoms / 10 ^ 8 := by gcongr
  omega

theorem nearest_coins_pos : 0 < (nearest (coins atoms)).mantissa :=
  mantissa_nearest_pos (isPositive_coins positive) (normal_coins positive)

end Rounding

section Small

variable {atoms : Nat} (small : atoms ≤ 2 ^ 53)

include small

/-- The atoms are an integer of the format, so that a coin value is rounded
once. -/
theorem coinValue_eq_nearest : coinValue atoms = nearest (coins atoms) := by
  rcases Nat.eq_zero_or_pos atoms with rfl | positive
  · rw [coinValue_zero, nearest_of_zero rfl]
  · rw [coinValue_eq]
    apply nearest_congr (isPositive_quotient positive)
      (isPositive_coins positive)
    rw [toRat_quotient, toRat_ofNat positive small, toRat_coins]

theorem abs_toRat_coinValue_sub_lt :
    |(coinValue atoms).toRat - atoms / 10 ^ 8| < 1 / 10 ^ 8 := by
  rcases Nat.eq_zero_or_pos atoms with rfl | positive
  · rw [coinValue_zero, toRat_zero]
    norm_num
  · have isPositive := isPositive_coins positive
    have bound : (atoms : ℚ) ≤ 2 ^ 53 := by exact_mod_cast small
    have most : (coins atoms).binade < 27 := by
      rw [Ratio.binade_lt_iff isPositive, toRat_coins,
        div_lt_iff₀ (by positivity)]
      norm_num at bound ⊢
      linarith
    have unit := unitExponent_of_normal (normal_coins positive)
    rw [coinValue_eq_nearest small, ← toRat_coins]
    calc _ ≤ (2 : ℚ) ^ (unitExponent (coins atoms) - 1) :=
          abs_toRat_nearest_sub_le isPositive
      _ ≤ 2 ^ (-27 : ℤ) := zpow_le_zpow_right₀ one_le_two (by omega)
      _ < 1 / 10 ^ 8 := by norm_num

end Small

theorem mantissa_coinValue_pos {atoms : Nat} (positive : 0 < atoms) :
    0 < (coinValue atoms).mantissa := by
  have one : (coinValue 1).toRat ≤ (coinValue atoms).toRat :=
    toRat_coinValue_mono positive
  have near := (abs_lt.mp (abs_toRat_coinValue_sub_lt
    (show 1 ≤ 2 ^ 53 by norm_num))).1
  apply Nat.pos_of_ne_zero
  intro none
  rw [toRat_eq (coinValue atoms), none] at one
  norm_num at near one
  linarith

end Asset

end WalletRows
