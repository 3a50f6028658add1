import WalletRows.Asset
import WalletRows.Filter
import WalletRows.Lookup

/-!
# Wallets

Rows are made from what a wallet answers.  A wallet is its answers: nothing is
assumed about how they fit together, and the questions about tickets may fail.
What a wallet does not answer by itself is answered as a wallet without tickets
would.
-/

namespace WalletRows

structure Wallet where
  name : String
  asset : Asset
  /-- Whether the wallet has no keys to spend with. -/
  watchOnly : Bool := false
  /-- The height of the best block that the wallet knows. -/
  bestHeight : Int32
  /-- How many confirmations make a transaction confirmed. -/
  required : Int32
  matchesFilter : Transaction → Filter → Bool
  formatAmount : Int64 → String := asset.formatAmount
  toCoin : Int64 → Binary64 := asset.toCoin
  /-- What spent the ticket with a hash. -/
  spender : String → Except LookupError (Option Transaction) :=
    fun _ => .ok none
  /-- The same for a caller who may have requested to stop. -/
  spenderUnless : String → Bool → Except LookupError (Option Transaction) :=
    askUnlessCancelled spender
  /-- Whether the ticket with a hash was spent. -/
  hasVotedOrRevoked : String → Except LookupError Bool :=
    fun _ => .ok false

end WalletRows
