import Mathlib.Algebra.Order.Floor.Semifield
import Mathlib.Algebra.Order.Field.Power
import Mathlib.Data.Nat.Log
import Mathlib.Data.Rat.Floor
import Mathlib.Tactic.FieldSimp
import Mathlib.Tactic.Linarith
import Mathlib.Tactic.Positivity
import WalletRows.Ratio

/-!
# Ratios as rational numbers

Ratios are not reduced, so one number has many ratios.  What is computed from a
ratio depends on the number only: its floor, the nearest natural number, and the
binade that it lies in.
-/

namespace WalletRows

namespace Ratio

def toRat (ratio : Ratio) : ℚ :=
  ratio.numerator / ratio.denominator

structure IsPositive (ratio : Ratio) : Prop where
  numerator : 0 < ratio.numerator
  denominator : 0 < ratio.denominator

variable {ratio other : Ratio}

@[simp]
theorem toRat_ofNat (number : Nat) : (ofNat number).toRat = number := by
  simp [toRat, ofNat]

theorem toRat_div (left right : Ratio) :
    (left.div right).toRat = left.toRat / right.toRat := by
  simp only [toRat, div, Nat.cast_mul]
  rw [div_div_div_eq]

theorem zpow_eq_div (base : Nat) (positive : 0 < base) (exponent : ℤ) :
    (base : ℚ) ^ exponent =
      (base : ℚ) ^ exponent.toNat / (base : ℚ) ^ (-exponent).toNat := by
  have nonzero : (base : ℚ) ≠ 0 := by exact_mod_cast positive.ne'
  rw [← zpow_natCast, ← zpow_natCast, ← zpow_sub₀ nonzero]
  congr 1
  omega

theorem toRat_scale (ratio : Ratio) {base : Nat} (positive : 0 < base)
    (exponent : ℤ) :
    (ratio.scale base exponent).toRat =
      ratio.toRat * (base : ℚ) ^ exponent := by
  rw [zpow_eq_div base positive]
  simp only [toRat, scale, Nat.pow_eq, Nat.cast_mul, Nat.cast_pow]
  rw [mul_div_mul_comm]

theorem IsPositive.scale (positive : ratio.IsPositive) {base : Nat}
    (above : 0 < base) (exponent : ℤ) :
    (ratio.scale base exponent).IsPositive where
  numerator := Nat.mul_pos positive.numerator (Nat.pow_pos above)
  denominator := Nat.mul_pos positive.denominator (Nat.pow_pos above)

theorem IsPositive.div (positive : ratio.IsPositive)
    (positive' : other.IsPositive) : (ratio.div other).IsPositive where
  numerator := Nat.mul_pos positive.numerator positive'.denominator
  denominator := Nat.mul_pos positive.denominator positive'.numerator

theorem isPositive_ofNat {number : Nat} (positive : 0 < number) :
    (ofNat number).IsPositive :=
  ⟨positive, Nat.one_pos⟩

/-! ## Floors and nearest numbers -/

theorem floor_eq (ratio : Ratio) : ratio.floor = ⌊ratio.toRat⌋₊ := by
  rw [floor, toRat, Nat.floor_div_eq_div]

/-- A rounded ratio, by how far its number is above its floor. -/
theorem round_eq (denominator : 0 < ratio.denominator) (tie : Tie) :
    ratio.round tie =
      if 2 * (ratio.toRat - ⌊ratio.toRat⌋₊) < 1 then ⌊ratio.toRat⌋₊
      else if 1 < 2 * (ratio.toRat - ⌊ratio.toRat⌋₊) then ⌊ratio.toRat⌋₊ + 1
      else
        match tie with
        | .toEven => ⌊ratio.toRat⌋₊ + ⌊ratio.toRat⌋₊ % 2
        | .upward => ⌊ratio.toRat⌋₊ + 1 := by
  have below : (0 : ℚ) < ratio.denominator := by exact_mod_cast denominator
  -- The remainder is the part above the floor, in units of the denominator.
  have rest : ratio.toRat - ⌊ratio.toRat⌋₊ =
      (ratio.numerator % ratio.denominator : Nat) / ratio.denominator := by
    have parts : ratio.denominator * (ratio.numerator / ratio.denominator) +
        ratio.numerator % ratio.denominator = ratio.numerator :=
      Nat.div_add_mod _ _
    have parts' : (ratio.denominator : ℚ) *
        (ratio.numerator / ratio.denominator : Nat) +
          (ratio.numerator % ratio.denominator : Nat) = ratio.numerator := by
      exact_mod_cast parts
    rw [← floor_eq, floor, toRat, eq_div_iff below.ne', sub_mul,
      div_mul_cancel₀ _ below.ne']
    linarith
  have less : 2 * (ratio.numerator % ratio.denominator) < ratio.denominator ↔
      2 * (ratio.toRat - ⌊ratio.toRat⌋₊) < 1 := by
    rw [rest, ← mul_div_assoc, div_lt_one below]
    exact_mod_cast Iff.rfl
  have greater : ratio.denominator < 2 * (ratio.numerator % ratio.denominator) ↔
      1 < 2 * (ratio.toRat - ⌊ratio.toRat⌋₊) := by
    rw [rest, ← mul_div_assoc, one_lt_div below]
    exact_mod_cast Iff.rfl
  cases tie <;> simp only [round, less, greater, floor_eq]

theorem round_congr (denominator : 0 < ratio.denominator)
    (denominator' : 0 < other.denominator) (same : ratio.toRat = other.toRat)
    (tie : Tie) : ratio.round tie = other.round tie := by
  rw [round_eq denominator, round_eq denominator', same]

theorem abs_round_sub_le (denominator : 0 < ratio.denominator) (tie : Tie) :
    |(ratio.round tie : ℚ) - ratio.toRat| ≤ 1 / 2 := by
  have nonnegative : 0 ≤ ratio.toRat := by
    unfold toRat
    positivity
  have low : (⌊ratio.toRat⌋₊ : ℚ) ≤ ratio.toRat := Nat.floor_le nonnegative
  have high : ratio.toRat < ⌊ratio.toRat⌋₊ + 1 := Nat.lt_floor_add_one _
  rw [round_eq denominator, abs_le]
  split
  · constructor <;> linarith
  · split
    · push_cast
      constructor <;> linarith
    · cases tie with
      | upward =>
          push_cast
          constructor <;> linarith
      | toEven =>
          have parity : ⌊ratio.toRat⌋₊ % 2 ≤ 1 := by omega
          have parity' : ((⌊ratio.toRat⌋₊ % 2 : Nat) : ℚ) ≤ 1 := by
            exact_mod_cast parity
          have positive : (0 : ℚ) ≤ (⌊ratio.toRat⌋₊ % 2 : Nat) := by positivity
          push_cast at parity' positive ⊢
          constructor <;> linarith

theorem round_le {number : Nat} (denominator : 0 < ratio.denominator)
    (most : ratio.toRat ≤ number) (tie : Tie) : ratio.round tie ≤ number := by
  have near := (abs_le.mp (abs_round_sub_le denominator tie)).2
  have below : (ratio.round tie : ℚ) < (number + 1 : Nat) := by
    push_cast
    linarith
  exact Nat.lt_succ_iff.mp (Nat.cast_lt.mp below)

theorem le_round {number : Nat} (denominator : 0 < ratio.denominator)
    (least : number ≤ ratio.toRat) (tie : Tie) : number ≤ ratio.round tie := by
  have near := (abs_le.mp (abs_round_sub_le denominator tie)).1
  have below : (number : ℚ) < (ratio.round tie + 1 : Nat) := by
    push_cast
    linarith
  exact Nat.lt_succ_iff.mp (Nat.cast_lt.mp below)

/-- A greater ratio is not rounded to less.  If it were, both would be half a
unit from what they are rounded to, so they would be equal. -/
theorem round_mono (denominator : 0 < ratio.denominator)
    (denominator' : 0 < other.denominator) (le : ratio.toRat ≤ other.toRat)
    (tie : Tie) : ratio.round tie ≤ other.round tie := by
  by_contra less
  have less : other.round tie + 1 ≤ ratio.round tie := not_le.mp less
  have apart : (other.round tie : ℚ) + 1 ≤ ratio.round tie := by
    exact_mod_cast less
  have high := (abs_le.mp (abs_round_sub_le denominator tie)).2
  have low := (abs_le.mp (abs_round_sub_le denominator' tie)).1
  have same : ratio.toRat = other.toRat := le_antisymm le (by linarith)
  rw [round_congr denominator denominator' same] at less
  omega

theorem round_of_toRat_eq {number : Nat} (denominator : 0 < ratio.denominator)
    (same : ratio.toRat = number) (tie : Tie) : ratio.round tie = number := by
  rw [round_eq denominator, same, Nat.floor_natCast]
  simp

/-! ## Binades -/

theorem isProper_iff (denominator : 0 < ratio.denominator) :
    ratio.isProper = true ↔ ratio.toRat < 1 := by
  have below : (0 : ℚ) < ratio.denominator := by exact_mod_cast denominator
  rw [isProper, decide_eq_true_eq, toRat, div_lt_one below]
  exact_mod_cast Iff.rfl

theorem binade_spec (positive : ratio.IsPositive) :
    (2 : ℚ) ^ ratio.binade ≤ ratio.toRat ∧
      ratio.toRat < 2 ^ (ratio.binade + 1) := by
  obtain ⟨numerator, denominator⟩ := positive
  have below : (0 : ℚ) < ratio.denominator := by exact_mod_cast denominator
  have two : (2 : ℚ) ≠ 0 := by norm_num
  let estimate : ℤ := (ratio.numerator.log2 : ℤ) - ratio.denominator.log2
  have numeratorLow : (2 : ℚ) ^ (ratio.numerator.log2 : ℤ) ≤ ratio.numerator := by
    rw [zpow_natCast]
    exact_mod_cast Nat.log2_self_le numerator.ne'
  have numeratorHigh :
      (ratio.numerator : ℚ) < 2 ^ ((ratio.numerator.log2 : ℤ) + 1) := by
    rw [← Nat.cast_succ, zpow_natCast]
    exact_mod_cast Nat.lt_log2_self
  have denominatorLow :
      (2 : ℚ) ^ (ratio.denominator.log2 : ℤ) ≤ ratio.denominator := by
    rw [zpow_natCast]
    exact_mod_cast Nat.log2_self_le denominator.ne'
  have denominatorHigh :
      (ratio.denominator : ℚ) < 2 ^ ((ratio.denominator.log2 : ℤ) + 1) := by
    rw [← Nat.cast_succ, zpow_natCast]
    exact_mod_cast Nat.lt_log2_self
  have low : (2 : ℚ) ^ (estimate - 1) ≤ ratio.toRat := by
    rw [toRat, le_div_iff₀ below]
    calc (2 : ℚ) ^ (estimate - 1) * ratio.denominator
        ≤ 2 ^ (estimate - 1) * 2 ^ ((ratio.denominator.log2 : ℤ) + 1) := by
          gcongr
      _ = 2 ^ (ratio.numerator.log2 : ℤ) := by
          rw [← zpow_add₀ two]
          congr 1
          omega
      _ ≤ ratio.numerator := numeratorLow
  have high : ratio.toRat < 2 ^ (estimate + 1) := by
    rw [toRat, div_lt_iff₀ below]
    calc (ratio.numerator : ℚ) < 2 ^ ((ratio.numerator.log2 : ℤ) + 1) :=
          numeratorHigh
      _ = 2 ^ (estimate + 1) * 2 ^ (ratio.denominator.log2 : ℤ) := by
          rw [← zpow_add₀ two]
          congr 1
          omega
      _ ≤ 2 ^ (estimate + 1) * ratio.denominator := by gcongr
  have scaled : (ratio.scale 2 (-estimate)).isProper = true ↔
      ratio.toRat < 2 ^ estimate := by
    rw [isProper_iff (Nat.mul_pos denominator (Nat.pow_pos Nat.two_pos)),
      toRat_scale ratio Nat.two_pos, Nat.cast_ofNat, zpow_neg,
      ← div_eq_mul_inv, div_lt_one (by positivity)]
  unfold binade
  simp only
  split
  · rename_i proper
    refine ⟨low, ?_⟩
    rw [sub_add_cancel]
    exact scaled.mp proper
  · rename_i improper
    exact ⟨not_lt.mp fun less => improper (scaled.mpr less), high⟩

/-- A power of two that is at most a ratio is at most the one of its binade. -/
theorem le_binade_iff {exponent : ℤ} (positive : ratio.IsPositive) :
    exponent ≤ ratio.binade ↔ (2 : ℚ) ^ exponent ≤ ratio.toRat := by
  obtain ⟨low, high⟩ := binade_spec positive
  have two : (1 : ℚ) < 2 := by norm_num
  constructor
  · exact fun below => (zpow_le_zpow_right₀ two.le below).trans low
  · intro below
    have := (zpow_lt_zpow_iff_right₀ two).mp (below.trans_lt high)
    omega

theorem binade_lt_iff {exponent : ℤ} (positive : ratio.IsPositive) :
    ratio.binade < exponent ↔ ratio.toRat < (2 : ℚ) ^ exponent := by
  rw [← not_le, ← not_le, le_binade_iff positive]

theorem binade_eq_of_mem {exponent : ℤ} (positive : ratio.IsPositive)
    (low : (2 : ℚ) ^ exponent ≤ ratio.toRat)
    (high : ratio.toRat < 2 ^ (exponent + 1)) : ratio.binade = exponent := by
  have above := (le_binade_iff positive).mpr low
  have below := (binade_lt_iff positive).mpr high
  omega

theorem binade_congr (positive : ratio.IsPositive) (positive' : other.IsPositive)
    (same : ratio.toRat = other.toRat) : ratio.binade = other.binade := by
  obtain ⟨low, high⟩ := binade_spec positive'
  exact binade_eq_of_mem positive (same ▸ low) (same ▸ high)

end Ratio

end WalletRows
