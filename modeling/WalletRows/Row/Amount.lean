import WalletRows.Wallet

/-!
# Amounts of a row

Amounts are shown as the wallet writes them.  What was sent carries a minus
sign; what a vote earned is written in hundredths of a coin with its sign.
-/

namespace WalletRows

namespace Wallet

/-- Whether a transaction is an ordinary one that sent funds away. -/
def isPlainSend (transaction : Transaction) : Bool :=
  transaction.purpose = .regular && transaction.direction = .sent

/-- The amount of a transaction, with a minus sign if it was sent.  An amount
that already has a minus sign, wherever it stands, gets no second one. -/
def signedAmount (wallet : Wallet) (transaction : Transaction) : String :=
  let amount := wallet.formatAmount transaction.amount
  if isPlainSend transaction && !amount.toList.contains '-' then
    "-" ++ amount
  else
    amount

/-- What a vote earned, with a plus sign if it is more than nothing. -/
def rewardText (wallet : Wallet) (atoms : Int64) : String :=
  let coins := wallet.toCoin atoms
  let text := String.ofList coins.hundredthsText
  if coins.isPositive then "+" ++ text else text

end Wallet

end WalletRows
