import WalletRows.Proofs.Asset.CoinValues
import WalletRows.Proofs.Text.FixedPoint
import WalletRows.Row.Amount

/-!
# The sign of an amount

An amount in a wallet's own words has a minus sign in front if it is negative,
and no other: the digits of its distance from zero have only a point among them,
and zero has no sign.  So the amount of what was sent has one minus sign too,
whichever sign the wallet counts it with.  A wallet with words of its own may
put a minus sign anywhere, and that one is then enough.
-/

namespace WalletRows

/-- A text has one minus sign, which is its first character. -/
structure HasLeadingMinus (text : List Char) : Prop where
  head : text.head? = some '-'
  once : text.count '-' = 1

/-- A text without the minus sign that it begins with, if it does. -/
def withoutMinus : List Char → List Char
  | '-' :: rest => rest
  | text => text

theorem hasLeadingMinus_cons {text : List Char} (none : '-' ∉ text) :
    HasLeadingMinus ('-' :: text) where
  head := rfl
  once := by rw [List.count_cons_self, List.count_eq_zero.mpr none]

@[simp]
theorem withoutMinus_cons (text : List Char) :
    withoutMinus ('-' :: text) = text :=
  rfl

theorem withoutMinus_of_not_mem {text : List Char} (none : '-' ∉ text) :
    withoutMinus text = text := by
  unfold withoutMinus
  split
  · exact absurd List.mem_cons_self none
  · rfl

/-! ## Amounts of an asset -/

theorem ScaledDecimal.isDigit_or_point_of_mem_positional
    {decimal : ScaledDecimal} {character : Char}
    (member : character ∈ decimal.positional) :
    character.isDigit = true ∨ character = '.' := by
  unfold positional at member
  simp only at member
  split_ifs at member
  · exact .inl (Decimal.isDigit_of_mem_digits member)
  · rcases List.mem_append.mp member with whole | behind
    · exact .inl (Decimal.isDigit_of_mem_digits whole)
    · rcases List.mem_cons.mp behind with point | digit
      · exact .inr point
      · exact .inl (Decimal.isDigit_of_mem_padded digit)

namespace Asset

/-- The text of a number of coins, without a sign. -/
def unsignedText (asset : Asset) (coins : Magnitude) : List Char :=
  (coins.shortest .upward).positional ++ ' ' :: asset.symbol.toList

theorem minus_not_mem_unsignedText (asset : Asset) (coins : Magnitude) :
    '-' ∉ asset.unsignedText coins := by
  intro member
  rcases List.mem_append.mp member with number | symbol
  · rcases ScaledDecimal.isDigit_or_point_of_mem_positional number with
      digit | point
    · exact absurd digit (by decide)
    · exact absurd point (by decide)
  · revert symbol
    cases asset <;> decide

theorem magnitude_toCoin_congr (asset : Asset) {atoms other : Int64}
    (opposite : other.toInt = -atoms.toInt) :
    (asset.toCoin other).magnitude = (asset.toCoin atoms).magnitude := by
  rw [magnitude_toCoin, magnitude_toCoin, opposite, Int.natAbs_neg]

theorem toList_formatAmount_of_neg {atoms : Int64} (negative : atoms.toInt < 0)
    (asset : Asset) :
    (asset.formatAmount atoms).toList =
      '-' :: asset.unsignedText (asset.toCoin atoms).magnitude := by
  have blank : " ".toList = [' '] := rfl
  rw [formatAmount, String.toList_append, String.toList_append, blank,
    String.toList_ofList, Binary64.plainText, Binary64.signed,
    if_pos (negative_toCoin asset atoms ▸ decide_eq_true negative),
    List.cons_append, List.cons_append, List.append_assoc, List.cons_append,
    List.nil_append, unsignedText]

theorem toList_formatAmount_of_not_neg {atoms : Int64}
    (notNegative : ¬ atoms.toInt < 0) (asset : Asset) :
    (asset.formatAmount atoms).toList =
      asset.unsignedText (asset.toCoin atoms).magnitude := by
  have blank : " ".toList = [' '] := rfl
  have sign : ¬ (asset.toCoin atoms).negative = true := by
    rw [negative_toCoin, decide_eq_true_eq]
    exact notNegative
  rw [formatAmount, String.toList_append, String.toList_append, blank,
    String.toList_ofList, Binary64.plainText, Binary64.signed, if_neg sign,
    List.append_assoc, List.cons_append, List.nil_append, unsignedText]

theorem withoutMinus_formatAmount (asset : Asset) (atoms : Int64) :
    withoutMinus (asset.formatAmount atoms).toList =
      asset.unsignedText (asset.toCoin atoms).magnitude := by
  by_cases negative : atoms.toInt < 0
  · rw [toList_formatAmount_of_neg negative, withoutMinus_cons]
  · rw [toList_formatAmount_of_not_neg negative,
      withoutMinus_of_not_mem (minus_not_mem_unsignedText _ _)]

theorem minus_not_mem_formatAmount {atoms : Int64}
    (notNegative : ¬ atoms.toInt < 0) (asset : Asset) :
    '-' ∉ (asset.formatAmount atoms).toList := by
  rw [toList_formatAmount_of_not_neg notNegative]
  exact minus_not_mem_unsignedText _ _

theorem hasLeadingMinus_formatAmount {atoms : Int64}
    (negative : atoms.toInt < 0) (asset : Asset) :
    HasLeadingMinus (asset.formatAmount atoms).toList := by
  rw [toList_formatAmount_of_neg negative]
  exact hasLeadingMinus_cons (minus_not_mem_unsignedText _ _)

end Asset

/-! ## Amounts of transactions -/

/-- An ordinary transaction that sent funds away. -/
structure Transaction.IsSentRegular (transaction : Transaction) : Prop where
  regular : transaction.purpose = .regular
  sent : transaction.direction = .sent

namespace Wallet

variable {wallet : Wallet} {transaction : Transaction}

theorem isPlainSend_iff :
    isPlainSend transaction = true ↔ transaction.IsSentRegular := by
  simp only [isPlainSend, Bool.and_eq_true, decide_eq_true_eq]
  exact ⟨fun both => ⟨both.1, both.2⟩, fun plain => ⟨plain.regular, plain.sent⟩⟩

theorem signedAmount_of_not_sent (other : ¬ transaction.IsSentRegular) :
    wallet.signedAmount transaction =
      wallet.formatAmount transaction.amount := by
  simp only [signedAmount, isPlainSend_iff.not.mpr other, Bool.false_and,
    Bool.false_eq_true, if_false]

theorem signedAmount_of_mem
    (signed : '-' ∈ (wallet.formatAmount transaction.amount).toList) :
    wallet.signedAmount transaction =
      wallet.formatAmount transaction.amount := by
  simp only [signedAmount, List.contains_iff_mem.mpr signed, Bool.not_true,
    Bool.and_false, Bool.false_eq_true, if_false]

section Sent

variable (sent : transaction.IsSentRegular)

include sent

theorem toList_signedAmount_of_not_mem
    (unsigned : '-' ∉ (wallet.formatAmount transaction.amount).toList) :
    (wallet.signedAmount transaction).toList =
      '-' :: (wallet.formatAmount transaction.amount).toList := by
  have missing : (wallet.formatAmount transaction.amount).toList.contains '-' =
      false := by
    simpa using unsigned
  simp only [signedAmount, isPlainSend_iff.mpr sent, missing, Bool.not_false,
    Bool.and_true, if_true]
  exact String.toList_append

/-- What was sent has a minus sign in the words of any wallet, and one is put
there only where the wallet has none. -/
theorem minus_mem_signedAmount :
    '-' ∈ (wallet.signedAmount transaction).toList ∧
      (wallet.signedAmount transaction =
          wallet.formatAmount transaction.amount ↔
        '-' ∈ (wallet.formatAmount transaction.amount).toList) := by
  by_cases signed : '-' ∈ (wallet.formatAmount transaction.amount).toList
  · have unchanged := signedAmount_of_mem signed
    rw [unchanged]
    exact ⟨signed, iff_of_true rfl signed⟩
  · have text := toList_signedAmount_of_not_mem sent signed
    refine ⟨text ▸ List.mem_cons_self, iff_of_false ?_ signed⟩
    intro same
    have longer := congrArg List.length text
    rw [same, List.length_cons] at longer
    omega

theorem toList_signedAmount
    (words : wallet.formatAmount = wallet.asset.formatAmount) :
    (wallet.signedAmount transaction).toList = '-' ::
      wallet.asset.unsignedText
        (wallet.asset.toCoin transaction.amount).magnitude := by
  by_cases negative : transaction.amount.toInt < 0
  · have text := Asset.toList_formatAmount_of_neg negative wallet.asset
    have signed : '-' ∈ (wallet.formatAmount transaction.amount).toList := by
      rw [words, text]
      exact List.mem_cons_self
    rw [signedAmount_of_mem signed, words, text]
  · have unsigned : '-' ∉ (wallet.formatAmount transaction.amount).toList := by
      rw [words]
      exact Asset.minus_not_mem_formatAmount negative wallet.asset
    rw [toList_signedAmount_of_not_mem sent unsigned, words,
      Asset.toList_formatAmount_of_not_neg negative]

end Sent

/-- In the words of an asset, what was sent has one minus sign, in front of what
the amount is without one, so that it does not matter with which sign the wallet
counts it; every other amount has one in front exactly if it is negative.  In
the words of any other wallet, what was sent has a minus sign, and the words
stand as they are exactly if they have one. -/
theorem signedAmount_has_one_sign (wallet : Wallet) :
    (wallet.formatAmount = wallet.asset.formatAmount →
      (∀ transaction : Transaction, transaction.IsSentRegular →
        HasLeadingMinus (wallet.signedAmount transaction).toList ∧
          (wallet.signedAmount transaction).toList = '-' ::
            withoutMinus (wallet.formatAmount transaction.amount).toList ∧
          ∀ other : Transaction, other.IsSentRegular →
            other.amount.toInt = -transaction.amount.toInt →
              wallet.signedAmount other = wallet.signedAmount transaction) ∧
      ∀ transaction : Transaction, ¬ transaction.IsSentRegular →
        wallet.signedAmount transaction =
            wallet.formatAmount transaction.amount ∧
          (transaction.amount.toInt < 0 →
            HasLeadingMinus (wallet.signedAmount transaction).toList) ∧
          (¬ transaction.amount.toInt < 0 →
            '-' ∉ (wallet.signedAmount transaction).toList)) ∧
    ∀ transaction : Transaction, transaction.IsSentRegular →
      '-' ∈ (wallet.signedAmount transaction).toList ∧
        (wallet.signedAmount transaction =
            wallet.formatAmount transaction.amount ↔
          '-' ∈ (wallet.formatAmount transaction.amount).toList) := by
  refine ⟨?_, fun transaction sent => minus_mem_signedAmount sent⟩
  intro words
  constructor
  · intro transaction sent
    have text := toList_signedAmount sent words
    refine ⟨?_, ?_, ?_⟩
    · rw [text]
      exact hasLeadingMinus_cons (Asset.minus_not_mem_unsignedText _ _)
    · rw [text, words, Asset.withoutMinus_formatAmount]
    · intro other sent' opposite
      apply String.toList_inj.mp
      rw [text, toList_signedAmount sent' words,
        Asset.magnitude_toCoin_congr _ opposite]
  · intro transaction other
    rw [signedAmount_of_not_sent other, words]
    exact ⟨rfl, fun negative => Asset.hasLeadingMinus_formatAmount negative _,
      fun notNegative => Asset.minus_not_mem_formatAmount notNegative _⟩

/-- The least amount, which has no opposite, an amount counted with either sign,
and nothing; and a wallet that writes the sign at the end. -/
theorem signedAmount_has_one_sign_of_least_amount :
    let wallet : Wallet :=
      { name := "w", asset := .dcr, bestHeight := 9, required := 2
        matchesFilter := fun _ _ => false }
    let ledger : Wallet :=
      { wallet with formatAmount := fun atoms =>
          String.ofList (Decimal.digits atoms.toInt.natAbs) ++ "-" }
    let sent (atoms : Int64) : Transaction :=
      { direction := .sent, amount := atoms }
    let transfer : Transaction := { amount := -5 }
    wallet.signedAmount (sent Int64.minValue) = "-92233720368.54776 DCR" ∧
      wallet.signedAmount (sent (-5)) = wallet.signedAmount (sent 5) ∧
      HasLeadingMinus (wallet.signedAmount (sent 0)).toList ∧
      HasLeadingMinus (wallet.signedAmount transfer).toList ∧
      ledger.signedAmount (sent 5) = "5-" := by
  intro wallet ledger sent transfer
  obtain ⟨usual, -⟩ := signedAmount_has_one_sign wallet
  obtain ⟨-, words⟩ := signedAmount_has_one_sign ledger
  obtain ⟨plain, others⟩ := usual rfl
  have isSent (atoms : Int64) : (sent atoms).IsSentRegular := ⟨rfl, rfl⟩
  have isOther : ¬ transfer.IsSentRegular := fun sent => by cases sent.sent
  refine ⟨?_, ?_, (plain _ (isSent 0)).1, ?_, ?_⟩
  · apply String.toList_inj.mp
    rw [(plain _ (isSent _)).2.1]
    decide +kernel
  · exact (plain _ (isSent 5)).2.2 _ (isSent (-5)) (by decide)
  · exact (others _ isOther).2.1 (by decide)
  · rw [(words _ (isSent 5)).2.mpr (by decide +kernel)]
    decide +kernel

end Wallet

end WalletRows
