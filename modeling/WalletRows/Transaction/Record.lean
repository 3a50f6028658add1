import WalletRows.Json.Decode
import WalletRows.Json.Value
import WalletRows.Transaction

/-!
# Stored transactions

The record of a transaction in a JSON text, in both directions.
-/

namespace WalletRows

namespace Transaction

def fields : List (Json.Field Transaction) :=
  [.of "hash" Json.text fun value stored => { stored with hash := value },
    .of "direction" Json.choice fun value stored =>
      { stored with direction := value },
    .of "type" Json.choice fun value stored => { stored with purpose := value },
    .of "amount" Json.int64 fun value stored => { stored with amount := value },
    .of "mix_denomination" Json.int64 fun value stored =>
      { stored with mixDenomination := value },
    .of "mix_count" Json.int32 fun value stored =>
      { stored with mixCount := value },
    .of "block_height" Json.int32 fun value stored =>
      { stored with blockHeight := value },
    .of "timestamp" Json.int64 fun value stored =>
      { stored with timestamp := value },
    .of "vote_reward" Json.int64 fun value stored =>
      { stored with voteReward := value },
    .of "days_to_vote_or_revoke" Json.int32 fun value stored =>
      { stored with daysToSpend := value }]

def reader : Json.Reader Transaction :=
  Json.record "Transaction" fields {}

def toJson (transaction : Transaction) : Json.Value :=
  .object
    [("hash", .string transaction.hash),
      ("direction", .ofNamed transaction.direction),
      ("type", .ofNamed transaction.purpose),
      ("amount", .integer transaction.amount.toInt),
      ("mix_denomination", .integer transaction.mixDenomination.toInt),
      ("mix_count", .integer transaction.mixCount.toInt),
      ("block_height", .integer transaction.blockHeight.toInt),
      ("timestamp", .integer transaction.timestamp.toInt),
      ("vote_reward", .integer transaction.voteReward.toInt),
      ("days_to_vote_or_revoke", .integer transaction.daysToSpend.toInt)]

end Transaction

end WalletRows
