import Mathlib.Tactic.SplitIfs
import WalletRows.Confirmation

/-!
# Exact confirmations

A count of confirmations is made in two steps, each of which stays within 32
bits, and then loses its sign if it is negative.  Together this is one cut of
the exact count, the depth of the transaction, to the range from zero to the
greatest 32-bit number.  As no required count lies beyond that range, the cut
never shows: how far a transaction is confirmed depends on its depth alone, and
it never gets less far when the chain grows.
-/

namespace WalletRows

/-! ## Counts -/

/-- The number of blocks from the one of a transaction to the best one, both
included.  It is not positive where the transaction is above the best block. -/
def Transaction.depth (transaction : Transaction) (best : Int32) : Int :=
  best.toInt - transaction.blockHeight.toInt + 1

theorem toInt_nearestInt32 (number : Int) :
    (nearestInt32 number).toInt =
      max Int32.minValue.toInt (min number Int32.maxValue.toInt) := by
  have least : Int32.minValue.toInt = -2 ^ 31 := Int32.toInt_minValue
  have greatest : Int32.maxValue.toInt = 2 ^ 31 - 1 := Int32.toInt_maxValue
  unfold nearestInt32
  split
  · omega
  · split
    · omega
    · rw [Int32.toInt_ofInt_of_le (by omega) (by omega)]
      omega

theorem toInt_max_zero (number : Int32) :
    (max 0 number).toInt = max 0 number.toInt := by
  have zero : (0 : Int32).toInt = 0 := rfl
  change (if 0 ≤ number then number else 0).toInt = _
  simp only [Int32.le_iff_toInt_le, zero]
  split <;> omega

theorem isMined_iff (transaction : Transaction) :
    transaction.isMined = true ↔ transaction.blockHeight ≠ -1 := by
  rw [Transaction.isMined, decide_eq_true_iff]
  rfl

variable (wallet : Wallet) (transaction : Transaction)

/-- Both steps and the loss of the sign are one cut of the depth. -/
theorem Wallet.toInt_confirmations :
    (wallet.confirmations transaction).toInt =
      if transaction.blockHeight = -1 then 0
      else max 0 (min (transaction.depth wallet.bestHeight)
        Int32.maxValue.toInt) := by
  have least : Int32.minValue.toInt = -2 ^ 31 := Int32.toInt_minValue
  have greatest : Int32.maxValue.toInt = 2 ^ 31 - 1 := Int32.toInt_maxValue
  unfold confirmations
  simp only [isMined_iff, ite_not]
  split
  · rfl
  -- A difference above the range is cut to its end, where the block added to it
  -- is cut as well, and one below the range stays negative.
  · rw [toInt_max_zero, blocksFrom, toInt_nearestInt32, toInt_nearestInt32,
      Transaction.depth]
    omega

/-- A 32-bit number of confirmations is reached exactly if the depth reaches
it. -/
theorem Wallet.le_confirmations_iff {number : Int} (positive : 1 ≤ number)
    (within : number ≤ Int32.maxValue.toInt) :
    number ≤ (wallet.confirmations transaction).toInt ↔
      transaction.blockHeight ≠ -1 ∧
        number ≤ transaction.depth wallet.bestHeight := by
  rw [toInt_confirmations]
  split
  · next unmined =>
    simp only [unmined, ne_eq, not_true_eq_false, false_and, iff_false]
    omega
  · next mined =>
    simp only [mined, ne_eq, not_false_eq_true, true_and]
    omega

/-- A higher best block takes no confirmation away. -/
theorem Wallet.confirmations_mono {higher : Int32}
    (grown : wallet.bestHeight ≤ higher) :
    wallet.confirmations transaction ≤
      ({ wallet with bestHeight := higher } : Wallet).confirmations
        transaction := by
  rw [Int32.le_iff_toInt_le] at grown ⊢
  rw [toInt_confirmations, toInt_confirmations]
  have deeper : transaction.depth wallet.bestHeight ≤
      transaction.depth higher := by
    unfold Transaction.depth
    omega
  split
  · exact Int.le_refl _
  · change _ ≤ max 0 (min (transaction.depth higher) _)
    omega

namespace Confirmation

/-! ## How far a count confirms -/

variable {count more required : Int32}

/-- The place in the order in which a transaction gets confirmed. -/
def rank : Confirmation → Nat
  | .unconfirmed => 0
  | .pending .. => 1
  | .confirmed => 2

theorem ofCounts_eq_unconfirmed_iff :
    ofCounts count required = .unconfirmed ↔ count.toInt < 1 := by
  have one : (1 : Int32).toInt = 1 := rfl
  unfold ofCounts
  simp only [Int32.lt_iff_toInt_lt, one]
  split_ifs <;> simp_all

theorem ofCounts_eq_pending_iff {shown needed : Int32} :
    ofCounts count required = .pending shown needed ↔
      shown = count ∧ needed = required ∧ 1 ≤ count.toInt ∧
        count.toInt < required.toInt := by
  have one : (1 : Int32).toInt = 1 := rfl
  unfold ofCounts
  simp only [Int32.lt_iff_toInt_lt, one]
  split_ifs with none few
  · simp only [false_iff]
    omega
  · simp only [pending.injEq]
    constructor
    · rintro ⟨rfl, rfl⟩
      exact ⟨rfl, rfl, by omega, few⟩
    · rintro ⟨rfl, rfl, -⟩
      exact ⟨rfl, rfl⟩
  · simp only [false_iff]
    omega

theorem ofCounts_eq_confirmed_iff :
    ofCounts count required = .confirmed ↔
      max 1 required.toInt ≤ count.toInt := by
  have one : (1 : Int32).toInt = 1 := rfl
  unfold ofCounts
  simp only [Int32.lt_iff_toInt_lt, one]
  split_ifs <;> simp only [false_iff, true_iff] <;> omega

theorem icon_eq_confirm_iff :
    icon count required = .confirm ↔ required.toInt ≤ count.toInt := by
  unfold icon
  simp only [Int32.lt_iff_toInt_lt]
  split_ifs <;> simp only [false_iff, true_iff] <;> omega

/-- With more confirmations a transaction is confirmed no less far. -/
theorem rank_ofCounts_mono (grown : count ≤ more) :
    (ofCounts count required).rank ≤ (ofCounts more required).rank := by
  rw [Int32.le_iff_toInt_le] at grown
  cases before : ofCounts count required with
  | unconfirmed => exact Nat.zero_le _
  | pending shown needed =>
    obtain ⟨-, -, some, -⟩ := ofCounts_eq_pending_iff.mp before
    cases after : ofCounts more required with
    | unconfirmed =>
      have := ofCounts_eq_unconfirmed_iff.mp after
      omega
    | pending | confirmed => simp [rank]
  | confirmed =>
    have enough := ofCounts_eq_confirmed_iff.mp before
    have after := ofCounts_eq_confirmed_iff.mpr (Int.le_trans enough grown)
    exact Nat.le_of_eq (congrArg rank after).symm

end Confirmation

namespace Wallet

open Confirmation

/-- Confirmations are the depth cut to their range, and how far a transaction is
confirmed is decided by the depth itself.  The chain may grow by any number of
blocks without a step back.  The icon agrees with the confirmation except where
nothing is required of a transaction that has nothing. -/
theorem confirmations_are_exact :
    let depth := transaction.depth wallet.bestHeight
    let count := wallet.confirmations transaction
    let confirmation := ofCounts count wallet.required
    count.toInt = (if transaction.blockHeight = -1 then 0
      else max 0 (min depth Int32.maxValue.toInt)) ∧
    (confirmation = .confirmed ↔
      transaction.blockHeight ≠ -1 ∧ max 1 wallet.required.toInt ≤ depth) ∧
    (∀ shown needed, confirmation = .pending shown needed ↔
      transaction.blockHeight ≠ -1 ∧ shown.toInt = depth ∧
        needed = wallet.required ∧ 1 ≤ depth ∧ depth < wallet.required.toInt) ∧
    (confirmation = .unconfirmed ↔
      transaction.blockHeight = -1 ∨ depth < 1) ∧
    (∀ higher, wallet.bestHeight ≤ higher →
      let grown : Wallet := { wallet with bestHeight := higher }
      confirmation.rank ≤
        (ofCounts (grown.confirmations transaction) grown.required).rank) ∧
    (Confirmation.icon count wallet.required = .confirm ↔
      confirmation = .confirmed ∨ count = 0 ∧ wallet.required ≤ 0) := by
  intro depth count confirmation
  have exact : count.toInt = if transaction.blockHeight = -1 then 0
      else max 0 (min depth Int32.maxValue.toInt) :=
    wallet.toInt_confirmations transaction
  have room : 1 ≤ Int32.maxValue.toInt := by decide
  have few : wallet.required.toInt ≤ Int32.maxValue.toInt :=
    wallet.required.toInt_le
  have reached {number : Int} (positive : 1 ≤ number)
      (within : number ≤ Int32.maxValue.toInt) :
      number ≤ count.toInt ↔
        transaction.blockHeight ≠ -1 ∧ number ≤ depth :=
    wallet.le_confirmations_iff transaction positive within
  refine ⟨exact, ?_, ?_, ?_, ?_, ?_⟩
  · rw [ofCounts_eq_confirmed_iff]
    exact reached (Int.le_max_left _ _) (by omega)
  · intro shown needed
    rw [ofCounts_eq_pending_iff, ← Int32.toInt_inj,
      reached (Int.le_refl 1) (by omega)]
    constructor
    · rintro ⟨same, rfl, ⟨mined, some⟩, rest⟩
      rw [if_neg mined] at exact
      refine ⟨mined, ?_, rfl, some, ?_⟩ <;> omega
    · rintro ⟨mined, same, rfl, some, rest⟩
      rw [if_neg mined] at exact
      refine ⟨?_, rfl, ⟨mined, some⟩, ?_⟩ <;> omega
  · rw [ofCounts_eq_unconfirmed_iff, ← Int.not_le,
      reached (Int.le_refl 1) (by omega), Decidable.not_and_iff_not_or_not,
      Decidable.not_not, Int.not_le]
  · intro higher grown
    exact rank_ofCounts_mono (wallet.confirmations_mono transaction grown)
  · have zero : (0 : Int32).toInt = 0 := rfl
    rw [icon_eq_confirm_iff, ofCounts_eq_confirmed_iff, ← Int32.toInt_inj,
      Int32.le_iff_toInt_le, zero]
    split at exact <;> omega

/-- A transaction at the lowest height.  With the best block right above it the
transaction is pending, and with the highest one the depth is beyond 32 bits. -/
theorem confirmations_are_exact_from_lowest_height :
    let transaction : Transaction := { blockHeight := Int32.minValue }
    let wallet : Wallet :=
      { name := "low", asset := .dcr, bestHeight := Int32.minValue + 1
        required := 3, matchesFilter := fun _ _ => false }
    let grown : Wallet := { wallet with bestHeight := Int32.maxValue }
    wallet.bestHeight ≤ Int32.maxValue ∧
      ofCounts (wallet.confirmations transaction) 3 = .pending 2 3 ∧
      (grown.confirmations transaction).toInt = 2147483647 ∧
      (ofCounts (wallet.confirmations transaction) 3).rank ≤
        (ofCounts (grown.confirmations transaction) 3).rank := by
  intro transaction wallet grown
  have highest : wallet.bestHeight ≤ Int32.maxValue := by decide
  obtain ⟨-, -, pending, -, mono, -⟩ :=
    confirmations_are_exact wallet transaction
  obtain ⟨exact, -⟩ := confirmations_are_exact grown transaction
  refine ⟨highest, (pending 2 3).mpr (by decide), ?_, mono _ highest⟩
  rw [exact]
  decide

end Wallet

end WalletRows
