import WalletRows.ColorRole
import WalletRows.Icon
import WalletRows.Wallet

/-!
# Confirmations

A transaction gains a confirmation with its own block and one with every block
on top of it.  Heights are 32-bit numbers, and so is the count; where the count
would leave their range it stays at the end that it reached.
-/

namespace WalletRows

/-- The 32-bit number nearest to an integer. -/
def nearestInt32 (number : Int) : Int32 :=
  if number < Int32.minValue.toInt then Int32.minValue
  else if Int32.maxValue.toInt < number then Int32.maxValue
  else Int32.ofInt number

/-- The number of blocks from a height to the best height, both included. -/
def blocksFrom (height best : Int32) : Int32 :=
  let above := nearestInt32 (best.toInt - height.toInt)
  nearestInt32 (above.toInt + 1)

/-- The confirmations of a transaction.  A transaction that no block holds has
none, and neither has one that is above the best height. -/
def Wallet.confirmations (wallet : Wallet) (transaction : Transaction) : Int32 :=
  if transaction.isMined then
    max 0 (blocksFrom transaction.blockHeight wallet.bestHeight)
  else
    0

/-- How far a transaction is confirmed. -/
inductive Confirmation where
  /-- It has no confirmations. -/
  | unconfirmed
  /-- It has some confirmations, but fewer than are required. -/
  | pending (confirmations required : Int32)
  /-- It has as many confirmations as are required. -/
  | confirmed
deriving DecidableEq

namespace Confirmation

/-- How far a transaction with some confirmations is confirmed. -/
def ofCounts (confirmations required : Int32) : Confirmation :=
  if confirmations < 1 then .unconfirmed
  else if confirmations < required then .pending confirmations required
  else .confirmed

def labelColor : Confirmation → ColorRole
  | .unconfirmed | .pending .. => .grayText1
  | .confirmed => .grayText2

/-- The icon depends on the counts alone: where nothing is required, also a
transaction without confirmations has enough of them. -/
def icon (confirmations required : Int32) : Icon :=
  if confirmations < required then .pending else .confirm

def toJson : Confirmation → Json.Value
  | .unconfirmed => .object [("state", .string "unconfirmed")]
  | .pending confirmations required =>
      .object
        [("state", .string "pending"),
          ("confirmations", .integer confirmations.toInt),
          ("required", .integer required.toInt)]
  | .confirmed => .object [("state", .string "confirmed")]

end Confirmation

end WalletRows
