import Mathlib.Data.Nat.Factorization.Basic
import WalletRows.Proofs.Asset.CoinValues
import WalletRows.Proofs.Binary64.Shortest
import WalletRows.Proofs.Text.FixedPoint

/-!
# Amounts are shown exactly

A coin value is rounded, but up to `2 ^ 26` coins by less than half an atom.  So
no two amounts have one coin value, and the decimal that the atoms spell is the
only one on its grid and on the coarser ones that reads back as it.  It is the
one that is shown.
-/

namespace WalletRows

namespace ScaledDecimal

/-- A decimal with zeros fewer than the places has a point. -/
theorem positional_of_lt {coefficient places zeros : Nat}
    (last : coefficient % 10 ≠ 0) (few : zeros < places) :
    (ScaledDecimal.mk coefficient (zeros - places)).positional =
      Decimal.unsignedFixedPoint places (coefficient * 10 ^ zeros) := by
  rw [positional, Decimal.unsignedFixedPoint, Decimal.fraction]
  simp only
  obtain ⟨behind, rfl⟩ := Nat.exists_eq_add_of_le' few.le
  have positive : 0 < behind := by omega
  have pointed : ¬ (0 : ℤ) ≤ (zeros : ℤ) - (behind + zeros : Nat) := by omega
  have width : (-((zeros : ℤ) - (behind + zeros : Nat))).toNat = behind := by
    omega
  have whole : coefficient * 10 ^ zeros / 10 ^ (behind + zeros) =
      coefficient / 10 ^ behind := by
    rw [Nat.pow_add, Nat.mul_div_mul_right _ _ (by positivity)]
  have rest : coefficient * 10 ^ zeros % 10 ^ (behind + zeros) =
      coefficient % 10 ^ behind * 10 ^ zeros := by
    rw [Nat.pow_add, Nat.mul_mod_mul_right]
  have last' : coefficient % 10 ^ behind % 10 ≠ 0 := by
    rw [Nat.mod_mod_of_dvd _ (dvd_pow_self 10 positive.ne')]
    exact last
  have some : coefficient % 10 ^ behind * 10 ^ zeros ≠ 0 := by
    apply Nat.mul_ne_zero
    · intro none
      rw [none] at last'
      exact last' rfl
    · positivity
  rw [if_neg pointed, width, whole, rest, if_neg some,
    Decimal.padded_mul_pow positive, Decimal.rdropWhile_append_zeros,
    Decimal.rdropWhile_padded _ last']
  rfl

/-- A decimal with as many zeros as places is whole. -/
theorem positional_of_le {places zeros : Nat} (coefficient : Nat)
    (many : places ≤ zeros) :
    (ScaledDecimal.mk coefficient (zeros - places)).positional =
      Decimal.unsignedFixedPoint places (coefficient * 10 ^ zeros) := by
  rw [positional, Decimal.unsignedFixedPoint, Decimal.fraction]
  simp only
  obtain ⟨before, rfl⟩ := Nat.exists_eq_add_of_le' many
  have whole : (0 : ℤ) ≤ ((before + places : Nat) : ℤ) - places := by omega
  have power : (((before + places : Nat) : ℤ) - places).toNat = before := by
    omega
  have split : coefficient * 10 ^ (before + places) =
      coefficient * 10 ^ before * 10 ^ places := by
    rw [Nat.pow_add, Nat.mul_assoc]
  rw [if_pos whole, split, Nat.mul_div_cancel _ (by positivity),
    Nat.mul_mod_left, if_pos rfl, List.append_nil, toRatio, Ratio.scale, power]
  rfl

/-- The digits of a decimal that does not end in a zero. -/
theorem positional_eq {coefficient places : Nat}
    (last : coefficient % 10 ≠ 0) (zeros : Nat) :
    (ScaledDecimal.mk coefficient (zeros - places)).positional =
      Decimal.unsignedFixedPoint places (coefficient * 10 ^ zeros) := by
  rcases Nat.lt_or_ge zeros places with few | many
  · exact positional_of_lt last few
  · exact positional_of_le coefficient many

/-- A number without a zero at its end cannot give up zeros to a power. -/
theorem eq_of_mul_pow_eq {coefficient zeros coefficient' shift : Nat}
    (last : coefficient % 10 ≠ 0) (more : zeros ≤ shift)
    (same : coefficient' * 10 ^ shift = coefficient * 10 ^ zeros) :
    coefficient' = coefficient ∧ shift = zeros := by
  obtain ⟨extra, rfl⟩ := Nat.exists_eq_add_of_le more
  have cut : coefficient = coefficient' * 10 ^ extra := by
    apply Nat.eq_of_mul_eq_mul_right (show 0 < 10 ^ zeros by positivity)
    rw [← same, Nat.pow_add, Nat.mul_comm (10 ^ zeros), Nat.mul_assoc]
  have none : extra = 0 := by
    apply Nat.eq_zero_of_not_pos
    intro some
    apply last
    rw [cut]
    exact Nat.mod_eq_zero_of_dvd (Dvd.dvd.mul_left (dvd_pow_self 10 some.ne') _)
  subst none
  rw [pow_zero, mul_one] at cut
  exact ⟨cut.symm, Nat.add_zero zeros⟩

/-- What reads back as a positive magnitude is positive. -/
theorem coefficient_pos_of_toMagnitude {decimal : ScaledDecimal}
    (positive : 0 < decimal.toMagnitude.mantissa) : 0 < decimal.coefficient := by
  apply Nat.pos_of_ne_zero
  intro none
  have zero : decimal.toMagnitude = Magnitude.zero := by
    simp [toMagnitude, toRatio, none, Magnitude.nearest, Ratio.scale,
      Ratio.ofNat]
  rw [zero] at positive
  exact absurd positive (by decide)

end ScaledDecimal

namespace Asset

open Magnitude

/-- The amounts up to here are shown exactly. -/
def mostExact : Nat := 2 ^ 26 * atomsPerCoin

section Rounding

variable {atoms : Nat} (positive : 0 < atoms)

include positive

/-- Up to the bound, the coin value is not above it, and it is off by less than
half of the least distance of two amounts. -/
theorem nearest_coins_of_le (bounded : atoms ≤ mostExact) :
    (nearest (coins atoms)).toRat ≤ 2 ^ 26 ∧
      |(nearest (coins atoms)).toRat - (coins atoms).toRat| ≤ 2 ^ (-28 : ℤ) := by
  have isPositive := isPositive_coins positive
  have normal := normal_coins positive
  rcases bounded.lt_or_eq with below | top
  · have below' : (atoms : ℚ) < 2 ^ 26 * 10 ^ 8 := by exact_mod_cast below
    have binade : (coins atoms).binade < 26 := by
      rw [Ratio.binade_lt_iff isPositive, toRat_coins,
        div_lt_iff₀ (by positivity)]
      exact below'
    have unit := unitExponent_of_normal normal
    obtain ⟨-, most⟩ := toRat_nearest_mem_of_normal isPositive normal
    constructor
    · calc (nearest (coins atoms)).toRat ≤ 2 ^ ((coins atoms).binade + 1) := most
        _ ≤ 2 ^ (26 : ℤ) := zpow_le_zpow_right₀ (by norm_num) (by omega)
        _ = 2 ^ 26 := by norm_num
    · calc _ ≤ (2 : ℚ) ^ (unitExponent (coins atoms) - 1) :=
            abs_toRat_nearest_sub_le isPositive
        _ ≤ 2 ^ (-28 : ℤ) := zpow_le_zpow_right₀ (by norm_num) (by omega)
  · -- The bound itself is a whole number of coins.
    have whole : (coins atoms).toRat = (2 ^ 26 : Nat) := by
      rw [toRat_coins, top, mostExact, atomsPerCoin]
      norm_num
    have same : nearest (coins atoms) = Magnitude.ofNat (2 ^ 26) :=
      nearest_congr isPositive (Ratio.isPositive_ofNat (by norm_num))
        (by rw [whole, Ratio.toRat_ofNat])
    have exact : (nearest (coins atoms)).toRat = (2 ^ 26 : Nat) := by
      rw [same, toRat_ofNat (by norm_num) (by norm_num)]
    rw [exact, whole, sub_self, abs_zero]
    norm_num

/-- Above the bound, the coin value is above it too. -/
theorem lt_nearest_coins (above : mostExact < atoms) :
    2 ^ 26 < (nearest (coins atoms)).toRat := by
  have isPositive := isPositive_coins positive
  have normal := normal_coins positive
  have above' : ((2 ^ 26 * 10 ^ 8 + 1 : Nat) : ℚ) ≤ atoms := by
    exact_mod_cast above
  have low : 2 ^ 26 + 1 / 10 ^ 8 ≤ (coins atoms).toRat := by
    rw [toRat_coins, le_div_iff₀ (by positivity)]
    norm_num at above' ⊢
    exact above'
  have binade : 26 ≤ (coins atoms).binade := by
    rw [Ratio.le_binade_iff isPositive]
    norm_num at low ⊢
    linarith
  rcases binade.lt_or_eq with later | first
  · obtain ⟨least, -⟩ := toRat_nearest_mem_of_normal isPositive normal
    calc (2 : ℚ) ^ 26 < 2 ^ (27 : ℤ) := by norm_num
      _ ≤ 2 ^ (coins atoms).binade :=
          zpow_le_zpow_right₀ (by norm_num) (by omega)
      _ ≤ (nearest (coins atoms)).toRat := least
  · have near := abs_le.mp (abs_toRat_nearest_sub_le isPositive)
    rw [unitExponent_of_normal normal, ← first] at near
    norm_num at near low ⊢
    linarith

end Rounding

/-- Up to the bound, a coin value belongs to one amount. -/
theorem eq_of_nearest_coins_eq {atoms other : Nat} (positive : 0 < atoms)
    (positive' : 0 < other) (bounded : atoms ≤ mostExact)
    (same : nearest (coins other) = nearest (coins atoms)) : other = atoms := by
  obtain ⟨most, near⟩ := nearest_coins_of_le positive bounded
  rcases Nat.lt_or_ge mostExact other with above | bounded'
  · have least := lt_nearest_coins positive' above
    rw [same] at least
    exact absurd most (not_le.mpr least)
  · obtain ⟨-, near'⟩ := nearest_coins_of_le positive' bounded'
    obtain ⟨low, high⟩ := abs_le.mp near
    obtain ⟨low', high'⟩ := abs_le.mp near'
    rw [same, toRat_coins] at low' high'
    rw [toRat_coins] at low high
    -- Two coin values are not both close to one number unless they are equal.
    have less : (other : ℚ) < atoms + 1 := by
      norm_num at high low'
      linarith
    have greater : (atoms : ℚ) < other + 1 := by
      norm_num at low high'
      linarith
    have less' : other < atoms + 1 := by exact_mod_cast less
    have greater' : atoms < other + 1 := by exact_mod_cast greater
    omega

/-! ## The decimal of the atoms -/

theorem toRat_decimal (coefficient zeros : Nat) :
    (ScaledDecimal.mk coefficient (zeros - 8)).toRat =
      (coins (coefficient * 10 ^ zeros)).toRat := by
  rw [ScaledDecimal.toRat_eq, toRat_coins, zpow_sub₀ (by norm_num)]
  push_cast
  rw [mul_div_assoc]
  norm_num

section Shown

variable {coefficient zeros : Nat} (last : coefficient % 10 ≠ 0)

include last

theorem pos_of_last : 0 < coefficient * 10 ^ zeros := by
  have : coefficient ≠ 0 := by
    rintro rfl
    exact last rfl
  positivity

variable (bounded : coefficient * 10 ^ zeros ≤ mostExact)

include bounded

/-- What reads back as the coin value on a coarser grid is another amount. -/
theorem readsBackAlone_coins :
    ReadsBackAlone ⟨coefficient, zeros - 8⟩
      (nearest (coins (coefficient * 10 ^ zeros))) := by
  have positive : 0 < coefficient * 10 ^ zeros := pos_of_last last
  have isPositive := isPositive_coins positive
  constructor
  · have above : 0 < coefficient := Nat.pos_of_mul_pos_right positive
    rw [ScaledDecimal.readsBackAs, decide_eq_true_eq]
    exact nearest_congr (ScaledDecimal.isPositive_toRatio above) isPositive
      (toRat_decimal coefficient zeros)
  · rintro ⟨coefficient', exponent⟩ coarser reads
    rw [ScaledDecimal.readsBackAs, decide_eq_true_eq] at reads
    simp only at coarser
    obtain ⟨shift, rfl⟩ : ∃ shift : Nat, exponent = (shift : ℤ) - 8 :=
      ⟨(exponent + 8).toNat, by omega⟩
    have more : zeros ≤ shift := by omega
    have nonzero : 0 < coefficient' :=
      ScaledDecimal.coefficient_pos_of_toMagnitude
        (reads ▸ nearest_coins_pos positive)
    have positive' : 0 < coefficient' * 10 ^ shift := by positivity
    have same : nearest (coins (coefficient' * 10 ^ shift)) =
        nearest (coins (coefficient * 10 ^ zeros)) := by
      rw [← reads]
      exact nearest_congr (isPositive_coins positive')
        (ScaledDecimal.isPositive_toRatio nonzero)
        (toRat_decimal coefficient' shift).symm
    have amounts : coefficient' * 10 ^ shift = coefficient * 10 ^ zeros :=
      eq_of_nearest_coins_eq positive positive' bounded same
    obtain ⟨rfl, rfl⟩ := ScaledDecimal.eq_of_mul_pow_eq last more amounts
    rfl

theorem shortest_coins (tie : Tie) :
    (nearest (coins (coefficient * 10 ^ zeros))).shortest tie =
      ⟨coefficient, zeros - 8⟩ := by
  have positive : 0 < coefficient * 10 ^ zeros := pos_of_last last
  have nonzero := nearest_coins_pos positive
  obtain ⟨most, near⟩ := nearest_coins_of_le positive bounded
  obtain ⟨above, below⟩ := leadingPower_spec nonzero
  have ten : (1 : ℚ) < 10 := by norm_num
  have least : (10 : ℚ) ^ (-8 : ℤ) ≤ 10 ^ ((zeros : ℤ) - 8) :=
    zpow_le_zpow_right₀ ten.le (by omega)
  apply shortest_eq (readsBackAlone_coins last bounded)
  · calc _ = |(nearest (coins (coefficient * 10 ^ zeros))).toRat -
          (coins (coefficient * 10 ^ zeros)).toRat| := by
          rw [toRat_decimal]
      _ ≤ 2 ^ (-28 : ℤ) := near
      _ < 10 ^ (-8 : ℤ) := by norm_num
      _ ≤ 10 ^ ((zeros : ℤ) - 8) := least
  · exact nonzero
  · -- The coin value is not less than a tenth of its exact decimal.
    have first : (1 : ℚ) ≤ coefficient := by
      exact_mod_cast Nat.pos_of_mul_pos_right positive
    have whole : (10 : ℚ) ^ ((zeros : ℤ) - 8) ≤
        (coins (coefficient * 10 ^ zeros)).toRat := by
      rw [← toRat_decimal, ScaledDecimal.toRat_eq]
      exact le_mul_of_one_le_left (by positivity) first
    have tenth : (10 : ℚ) ^ ((zeros : ℤ) - 8 - 1) =
        10 ^ ((zeros : ℤ) - 8) * (1 / 10) := by
      rw [zpow_sub_one₀ (by norm_num), one_div]
    have leading : (10 : ℚ) ^ ((zeros : ℤ) - 8 - 1) <
        10 ^ ((nearest (coins (coefficient * 10 ^ zeros))).leadingPower + 1) := by
      have low := (abs_le.mp near).1
      refine lt_of_le_of_lt ?_ below
      rw [tenth]
      norm_num at low least ⊢
      linarith
    have := (zpow_lt_zpow_iff_right₀ ten).mp leading
    simp only
    omega
  · have leading : (10 : ℚ) ^
        ((nearest (coins (coefficient * 10 ^ zeros))).leadingPower - 1) <
          10 ^ (8 : ℤ) := by
      refine above.trans_le (most.trans ?_)
      norm_num
    have := (zpow_lt_zpow_iff_right₀ ten).mp leading
    rw [gridCount]
    push_cast
    omega

end Shown

/-- An integer has the digits of a coin value up to the bound. -/
theorem positional_shortest_coins {atoms : Nat} (bounded : atoms ≤ mostExact) :
    ((nearest (coins atoms)).shortest .upward).positional =
      Decimal.unsignedFixedPoint 8 atoms := by
  rcases Nat.eq_zero_or_pos atoms with rfl | positive
  · have none : (nearest (coins 0)).shortest .upward = ⟨0, 0⟩ := rfl
    have units : Decimal.unsignedFixedPoint 8 0 = Decimal.digits 0 :=
      List.append_nil _
    rw [none, units]
    rfl
  · obtain ⟨zeros, coefficient, last, split⟩ :=
      Nat.exists_eq_pow_mul_and_not_dvd positive.ne' 10 (by norm_num)
    have last' : coefficient % 10 ≠ 0 :=
      fun zero => last (Nat.dvd_of_mod_eq_zero zero)
    rw [Nat.mul_comm] at split
    subst split
    rw [shortest_coins last' bounded]
    exact ScaledDecimal.positional_eq last' zeros

/-! ## The shown amount -/

/-- The digits of a coin value, with its sign. -/
theorem plainText_toCoin (asset : Asset) {atoms : Int64}
    (bounded : atoms.toInt.natAbs ≤ mostExact) :
    (asset.toCoin atoms).plainText = Decimal.fixedPoint 8 atoms.toInt := by
  have exact : mostExact ≤ 2 ^ 53 := by decide
  rw [Binary64.plainText, Binary64.signed, negative_toCoin, magnitude_toCoin,
    coinValue_eq_nearest (bounded.trans exact),
    positional_shortest_coins bounded, Decimal.fixedPoint]
  by_cases negative : atoms.toInt < 0
  · simp [negative]
  · simp [negative]

theorem length_symbol (asset : Asset) : asset.symbol.toList.length = 3 := by
  cases asset <;> rfl

theorem formatAmount_eq (asset : Asset) {atoms : Int64}
    (bounded : atoms.toInt.natAbs ≤ mostExact) :
    asset.formatAmount atoms =
      String.ofList (Decimal.fixedPoint 8 atoms.toInt ++
        ' ' :: asset.symbol.toList) := by
  rw [formatAmount, plainText_toCoin asset bounded]
  apply String.toList_inj.mp
  simp

/-- The digits of the atoms say how many coins they are. -/
theorem rational_atoms (atoms : Int64) :
    Decimal.rational (Decimal.fixedPoint 8 atoms.toInt) =
      atoms.toInt / atomsPerCoin := by
  rw [Decimal.rational_fixedPoint (by norm_num), atomsPerCoin]
  norm_num

/-- Up to the bound an amount is shown as what it is in coins, to the last atom,
in front of the ticker symbol, and no other amount is shown as the same text,
not even one of another asset. -/
theorem formatAmount_exact (asset : Asset) {atoms : Int64}
    (bounded : atoms.toInt.natAbs ≤ 2 ^ 26 * atomsPerCoin) :
    asset.formatAmount atoms =
        String.ofList (Decimal.fixedPoint 8 atoms.toInt ++
          ' ' :: asset.symbol.toList) ∧
      Decimal.rational (Decimal.fixedPoint 8 atoms.toInt) =
        atoms.toInt / atomsPerCoin ∧
      ∀ (other : Asset) (amount : Int64),
        amount.toInt.natAbs ≤ 2 ^ 26 * atomsPerCoin →
          other.formatAmount amount = asset.formatAmount atoms →
            amount = atoms := by
  refine ⟨formatAmount_eq asset bounded, rational_atoms atoms, ?_⟩
  intro other amount bounded' same
  rw [formatAmount_eq asset bounded, formatAmount_eq other bounded'] at same
  have same' := String.ofList_inj.mp same
  have digits : Decimal.fixedPoint 8 amount.toInt =
      Decimal.fixedPoint 8 atoms.toInt :=
    List.append_inj_left' same' (by simp [length_symbol])
  have coins : (amount.toInt : ℚ) / atomsPerCoin = atoms.toInt / atomsPerCoin := by
    rw [← rational_atoms amount, ← rational_atoms atoms, digits]
  have coin : (atomsPerCoin : ℚ) ≠ 0 := by norm_num [atomsPerCoin]
  rw [div_left_inj' coin, Int.cast_inj] at coins
  exact Int64.toInt_inj.mp coins

theorem formatAmount_exact_of_debit :
    dcr.formatAmount (-150000010) = "-1.5000001 DCR" ∧
      dcr.formatAmount 6710886400000000 = "67108864 DCR" := by
  have debit := (@formatAmount_exact dcr (-150000010) (by decide)).1
  have most := (@formatAmount_exact dcr 6710886400000000 (by decide)).1
  rw [debit, most]
  decide +kernel

/-- Above the bound two atoms are shown as one. -/
example : dcr.formatAmount 6710886400000002 = "67108864.00000001 DCR" := by
  decide +kernel

end Asset

end WalletRows
