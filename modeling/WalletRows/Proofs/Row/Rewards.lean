import WalletRows.Proofs.Asset.CoinValues
import WalletRows.Proofs.Binary64.Shortest
import WalletRows.Proofs.Text.FixedPoint
import WalletRows.Row.Amount

/-!
# Rewards in hundredths of a coin

What a vote earned is written in hundredths of its coin value, with its sign.
Rounding to hundredths keeps the order of rewards, as rounding to the coin value
does.  Up to `2 ^ 53` atoms the coin value is less than one atom away from the
exact reward, and a reward that is not itself halfway between two hundredths is
at least one atom away from there.  So rounding twice ends at a hundredth that
no other is nearer than.
-/

namespace WalletRows

/-! ## Texts with two places -/

namespace Decimal

/-- The number that a decimal text with a sign of either kind stands for. -/
def signedRational : List Char → ℚ
  | '+' :: text => rational text
  | text => rational text

/-- The text of a number of hundredths, in whole units and two places. -/
def hundredthsDigits (count : Nat) : List Char :=
  digits (count / 100) ++ '.' :: padded 2 (count % 100)

variable (count : Nat)

theorem length_places : (padded 2 (count % 100)).length = 2 :=
  length_padded (by norm_num) (Nat.mod_lt _ (by norm_num))

theorem unsignedRational_hundredthsDigits :
    unsignedRational (hundredthsDigits count) = count / 100 := by
  have split : (100 : ℚ) * (count / 100 : Nat) + (count % 100 : Nat) = count := by
    exact_mod_cast Nat.div_add_mod count 100
  rw [hundredthsDigits, unsignedRational_of_point
    fun _ => isDigit_of_mem_digits, value_digits, value_padded, length_places,
    ← split]
  ring

theorem rational_hundredthsDigits :
    rational (hundredthsDigits count) = count / 100 := by
  rw [hundredthsDigits, rational_digits_append, ← hundredthsDigits,
    unsignedRational_hundredthsDigits]

theorem signedRational_hundredthsDigits :
    signedRational (hundredthsDigits count) = count / 100 := by
  rw [← rational_hundredthsDigits, hundredthsDigits, signedRational]
  exact digits_append_ne_cons rfl (count / 100) _

/-- The sign of an integer, which zero does not have. -/
def signOf (number : Int) : List Char :=
  if 0 < number then ['+'] else if number < 0 then ['-'] else []

theorem signedRational_signOf_append (number : Int) :
    signedRational (signOf number ++ hundredthsDigits count) =
      (if number < 0 then -count else count : Int) / 100 := by
  rcases lt_trichotomy number 0 with negative | rfl | positive
  · rw [signOf, if_neg negative.le.not_gt, if_pos negative, if_pos negative,
      List.cons_append, List.nil_append, signedRational, rational,
      unsignedRational_hundredthsDigits]
    · push_cast
      ring
    · simp
  · rw [signOf, if_neg (lt_irrefl 0), if_neg (lt_irrefl 0),
      if_neg (lt_irrefl 0), List.nil_append, signedRational_hundredthsDigits]
    rfl
  · rw [signOf, if_pos positive, if_neg positive.le.not_gt, List.cons_append,
      List.nil_append, signedRational, rational_hundredthsDigits]
    rfl

end Decimal

theorem Binary64.hundredthsText_eq (number : Binary64) :
    number.hundredthsText =
      number.signed (Decimal.hundredthsDigits number.magnitude.hundredths) :=
  rfl

/-! ## Rounding to hundredths -/

namespace Magnitude

variable {magnitude other : Magnitude}

theorem denominator_hundredths_pos (magnitude : Magnitude) :
    0 < (magnitude.toRatio.scale 10 2).denominator :=
  Nat.mul_pos (Nat.mul_pos Nat.one_pos (Nat.pow_pos Nat.two_pos))
    (Nat.pow_pos (by norm_num))

theorem toRat_hundredths (magnitude : Magnitude) :
    (magnitude.toRatio.scale 10 2).toRat = magnitude.toRat * 100 := by
  rw [Ratio.toRat_scale _ (by norm_num), toRat]
  norm_num

theorem abs_hundredths_sub_le (magnitude : Magnitude) :
    |(magnitude.hundredths : ℚ) - magnitude.toRat * 100| ≤ 1 / 2 := by
  rw [← toRat_hundredths]
  exact Ratio.abs_round_sub_le (denominator_hundredths_pos magnitude) _

theorem hundredths_mono (le : magnitude.toRat ≤ other.toRat) :
    magnitude.hundredths ≤ other.hundredths := by
  apply Ratio.round_mono (denominator_hundredths_pos _)
    (denominator_hundredths_pos _)
  rw [toRat_hundredths, toRat_hundredths]
  gcongr

end Magnitude

/-- A number is a hundredth, and no hundredth is nearer to another number. -/
structure IsNearestHundredth (number exact : ℚ) : Prop where
  hundredths : ∃ count : ℤ, number = count / 100
  nearest : ∀ count : ℤ, |number - exact| ≤ |count / 100 - exact|

theorem abs_hundredths_sub_atoms (count atoms : ℤ) :
    |(count / 100 - atoms / 10 ^ 8 : ℚ)| =
      (count * 1000000 - atoms).natAbs / 10 ^ 8 := by
  have scaled : (count / 100 - atoms / 10 ^ 8 : ℚ) =
      (count * 1000000 - atoms : ℤ) / 10 ^ 8 := by
    push_cast
    ring
  rw [scaled, abs_div, Nat.cast_natAbs, Int.cast_abs,
    abs_of_pos (by positivity : (0 : ℚ) < 10 ^ 8)]

/-- A hundredth of a coin is nearest to an amount if it is at most half of one
away. -/
theorem isNearestHundredth_iff {count atoms : ℤ} :
    IsNearestHundredth (count / 100) (atoms / 10 ^ 8) ↔
      (count * 1000000 - atoms).natAbs ≤ 500000 := by
  have compare (other : ℤ) :
      |(count / 100 - atoms / 10 ^ 8 : ℚ)| ≤ |(other / 100 - atoms / 10 ^ 8 : ℚ)| ↔
        (count * 1000000 - atoms).natAbs ≤ (other * 1000000 - atoms).natAbs := by
    rw [abs_hundredths_sub_atoms, abs_hundredths_sub_atoms,
      div_le_div_iff_of_pos_right (by positivity), Nat.cast_le]
  constructor
  · intro isNearest
    -- Its two neighbours are a whole hundredth away from it.
    have above := (compare (count + 1)).mp (isNearest.nearest _)
    have below := (compare (count - 1)).mp (isNearest.nearest _)
    omega
  · intro near
    refine ⟨⟨count, rfl⟩, fun other => (compare other).mpr ?_⟩
    rcases eq_or_ne other count with rfl | different
    · exact le_rfl
    · omega

theorem eq_of_near {count other atoms : ℤ}
    (near : (count * 1000000 - atoms).natAbs ≤ 500000)
    (near' : (other * 1000000 - atoms).natAbs ≤ 500000)
    (notMiddle : ¬ ∃ below : ℤ, atoms = (2 * below + 1) * 500000) :
    other = count := by
  by_contra different
  exact notMiddle ⟨min other count, by omega⟩

/-! ## Rewards -/

def rewardHundredths (atoms : Int) : Int :=
  let count : Int := (Asset.coinValue atoms.natAbs).hundredths
  if atoms < 0 then -count else count

theorem rewardHundredths_mono {less more : Int} (le : less ≤ more) :
    rewardHundredths less ≤ rewardHundredths more := by
  have counts {fewer others : Nat} (le : fewer ≤ others) :
      (Asset.coinValue fewer).hundredths ≤
        (Asset.coinValue others).hundredths :=
    Magnitude.hundredths_mono (Asset.toRat_coinValue_mono le)
  unfold rewardHundredths
  simp only
  split_ifs with negative negative'
  · have := counts (show more.natAbs ≤ less.natAbs by omega)
    omega
  · omega
  · omega
  · have := counts (show less.natAbs ≤ more.natAbs by omega)
    omega

/-- Together both roundings move a reward by at most half a hundredth. -/
theorem natAbs_rewardHundredths_sub_le {atoms : Int}
    (small : atoms.natAbs ≤ 2 ^ 53) :
    (rewardHundredths atoms * 1000000 - atoms).natAbs ≤ 500000 := by
  have coins := abs_lt.mp (Asset.abs_toRat_coinValue_sub_lt small)
  have rounded := abs_le.mp (Asset.coinValue atoms.natAbs).abs_hundredths_sub_le
  have below : (((Asset.coinValue atoms.natAbs).hundredths * 1000000 : Nat) : ℚ) <
      (atoms.natAbs + 500001 : Nat) := by
    push_cast
    linarith
  have above : ((atoms.natAbs : Nat) : ℚ) <
      ((Asset.coinValue atoms.natAbs).hundredths * 1000000 + 500001 : Nat) := by
    push_cast
    linarith
  have below := Nat.cast_lt.mp below
  have above := Nat.cast_lt.mp above
  unfold rewardHundredths
  simp only
  split_ifs
  · omega
  · omega

theorem Asset.isPositive_toCoin (asset : Asset) (atoms : Int64) :
    (asset.toCoin atoms).isPositive = true ↔ 0 < atoms.toInt := by
  have zero : (Asset.coinValue atoms.toInt.natAbs).mantissa = 0 ↔
      atoms.toInt.natAbs = 0 := by
    constructor
    · intro none
      by_contra some
      have := mantissa_coinValue_pos (Nat.pos_of_ne_zero some)
      omega
    · intro none
      rw [none, coinValue_zero, Magnitude.zero]
  simp only [Binary64.isPositive, negative_toCoin, magnitude_toCoin,
    Magnitude.isZero, Bool.and_eq_true, Bool.not_eq_true', decide_eq_false_iff_not,
    zero]
  omega

namespace Wallet

/-- The number of coins that the text of a reward says. -/
def shownReward (wallet : Wallet) (atoms : Int64) : ℚ :=
  Decimal.signedRational (wallet.rewardText atoms).toList

variable {wallet : Wallet} (coins : wallet.toCoin = wallet.asset.toCoin)
  (atoms : Int64)

include coins

theorem toList_rewardText :
    (wallet.rewardText atoms).toList = Decimal.signOf atoms.toInt ++
      Decimal.hundredthsDigits
        (Asset.coinValue atoms.toInt.natAbs).hundredths := by
  have plus : "+".toList = ['+'] := rfl
  simp only [rewardText, coins, Asset.isPositive_toCoin,
    Binary64.hundredthsText_eq, Binary64.signed, Asset.negative_toCoin,
    Asset.magnitude_toCoin, decide_eq_true_eq, Decimal.signOf]
  split_ifs with positive negative
  · exact absurd positive negative.le.not_gt
  · rw [String.toList_append, plus, String.toList_ofList]
  · rw [String.toList_ofList, List.cons_append, List.nil_append]
  · rw [String.toList_ofList, List.nil_append]

theorem shownReward_eq :
    wallet.shownReward atoms = rewardHundredths atoms.toInt / 100 := by
  rw [shownReward, toList_rewardText coins,
    Decimal.signedRational_signOf_append, rewardHundredths]

theorem exists_digits_of_rewardText :
    ∃ whole places,
      (wallet.rewardText atoms).toList =
          Decimal.signOf atoms.toInt ++ whole ++ '.' :: places ∧
        whole ≠ [] ∧ places.length = 2 ∧
        ∀ digit ∈ whole ++ places, digit.isDigit = true := by
  have text := toList_rewardText coins atoms
  rw [Decimal.hundredthsDigits, ← List.append_assoc] at text
  refine ⟨_, _, text, ?_, Decimal.length_places _, ?_⟩
  · exact List.ne_nil_of_length_pos (Decimal.length_digits_pos _)
  · intro digit member
    rcases List.mem_append.mp member with whole | place
    · exact Decimal.isDigit_of_mem_digits whole
    · exact Decimal.isDigit_of_mem_padded place

omit coins

/-- The text of a reward has the sign of the reward, digits, a point and two
digits; a greater reward is not shown as less; and up to `2 ^ 53` atoms a reward
is shown as the hundredth of a coin that is nearest to it.  There is only one
such hundredth but for the rewards in the middle between two, and these are
shown as one of the two. -/
theorem rewardText_is_nearest_hundredth (wallet : Wallet)
    (coins : wallet.toCoin = wallet.asset.toCoin) :
    (∀ atoms : Int64, ∃ whole places,
      (wallet.rewardText atoms).toList =
          Decimal.signOf atoms.toInt ++ whole ++ '.' :: places ∧
        whole ≠ [] ∧ places.length = 2 ∧
        ∀ digit ∈ whole ++ places, digit.isDigit = true) ∧
    (∀ less more : Int64, less.toInt ≤ more.toInt →
      wallet.shownReward less ≤ wallet.shownReward more) ∧
    ∀ atoms : Int64, atoms.toInt.natAbs ≤ 2 ^ 53 →
      IsNearestHundredth (wallet.shownReward atoms) (atoms.toInt / 10 ^ 8) ∧
        ((¬ ∃ count : ℤ, atoms.toInt = (2 * count + 1) * 500000) →
          ∀ number, IsNearestHundredth number (atoms.toInt / 10 ^ 8) →
            number = wallet.shownReward atoms) ∧
        ∀ count : ℤ, atoms.toInt = (2 * count + 1) * 500000 →
          IsNearestHundredth (count / 100) (atoms.toInt / 10 ^ 8) ∧
          IsNearestHundredth ((count + 1 : ℤ) / 100) (atoms.toInt / 10 ^ 8) ∧
          (wallet.shownReward atoms = count / 100 ∨
            wallet.shownReward atoms = (count + 1 : ℤ) / 100) := by
  refine ⟨exists_digits_of_rewardText coins, ?_, ?_⟩
  · intro less more le
    have counts : (rewardHundredths less.toInt : ℚ) ≤
        rewardHundredths more.toInt := by
      exact_mod_cast rewardHundredths_mono le
    rw [shownReward_eq coins, shownReward_eq coins]
    gcongr
  · intro atoms small
    have near := natAbs_rewardHundredths_sub_le small
    rw [shownReward_eq coins]
    refine ⟨isNearestHundredth_iff.mpr near, ?_, ?_⟩
    · rintro notMiddle number isNearest
      obtain ⟨other, rfl⟩ := isNearest.hundredths
      rw [eq_of_near near (isNearestHundredth_iff.mp isNearest) notMiddle]
    · intro count middle
      refine ⟨isNearestHundredth_iff.mpr (by omega),
        isNearestHundredth_iff.mpr (by omega), ?_⟩
      have neighbor : rewardHundredths atoms.toInt = count ∨
          rewardHundredths atoms.toInt = count + 1 := by omega
      rcases neighbor with below | above
      · exact .inl (by rw [below])
      · exact .inr (by rw [above])

/-- The least reward, rewards of one atom, the middle between two hundredths and
the amounts next to it. -/
theorem rewardText_is_nearest_hundredth_around_middle :
    let wallet : Wallet :=
      { name := "w", asset := .dcr, bestHeight := 9, required := 2
        matchesFilter := fun _ _ => false }
    wallet.rewardText Int64.minValue = "-92233720368.55" ∧
      wallet.rewardText 1 = "+0.00" ∧ wallet.rewardText (-1) = "-0.00" ∧
      wallet.shownReward Int64.minValue ≤ wallet.shownReward (-1) ∧
      IsNearestHundredth (wallet.shownReward 1234499999) (1234499999 / 10 ^ 8) ∧
      (wallet.shownReward 1234500000 = 1234 / 100 ∨
        wallet.shownReward 1234500000 = 1235 / 100) := by
  intro wallet
  obtain ⟨-, ordered, nearest⟩ := rewardText_is_nearest_hundredth wallet rfl
  refine ⟨by decide +kernel, by decide +kernel, by decide +kernel,
    ordered _ _ (by decide), ?_, ?_⟩
  · exact (nearest 1234499999 (by decide)).1
  · exact ((nearest 1234500000 (by decide)).2.2 1234 (by decide)).2.2

end Wallet

end WalletRows
