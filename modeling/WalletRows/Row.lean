import WalletRows.Confirmation
import WalletRows.Status

/-!
# Rows

A row holds the texts, icons and colors that a list of transactions shows for
one of them.  What a row does not show is absent.
-/

namespace WalletRows

/-- Where a row is shown. -/
inductive Layout where
  /-- In a compact list. -/
  | overview
  /-- On the page of all transactions. -/
  | transactionsPage
deriving DecidableEq

instance : Named Layout where
  all := [.overview, .transactionsPage]
  name
    | .overview => "overview"
    | .transactionsPage => "tx_page"

structure Row where
  hash : String
  status : Status
  /-- The amount with its sign, or the title of the status. -/
  headline : String
  assetIcon : Icon
  walletName : Option String
  /-- The amount, where the headline does not show it. -/
  secondaryAmount : Option String
  /-- The amount of each mixed output. -/
  mixDenomination : Option String
  /-- How many outputs were mixed, if more than one. -/
  mixCount : Option String
  /-- Whether the ticket is marked as spent. -/
  votedOrRevoked : Bool
  /-- What the vote that spent the ticket earned. -/
  voteReward : Option String
  /-- How long it took until the ticket was spent. -/
  daysHint : Option String
  /-- The stage of the ticket and how long ago it was bought. -/
  stakingDuration : Option String
  confirmations : Int32
  confirmation : Confirmation
  statusLabel : String
  statusLabelColor : ColorRole
  /-- Whether there are enough confirmations, as an icon. -/
  statusIcon : Option Icon
deriving DecidableEq

def Row.toJson (row : Row) : Json.Value :=
  .object
    [("hash", .string row.hash), ("status", row.status.toJson),
      ("headline", .string row.headline), ("asset_icon", row.assetIcon.toJson),
      ("wallet_name", .ofOption .string row.walletName),
      ("secondary_amount", .ofOption .string row.secondaryAmount),
      ("mix_denomination", .ofOption .string row.mixDenomination),
      ("mix_count", .ofOption .string row.mixCount),
      ("voted_or_revoked", .boolean row.votedOrRevoked),
      ("vote_reward", .ofOption .string row.voteReward),
      ("days_hint", .ofOption .string row.daysHint),
      ("staking_duration", .ofOption .string row.stakingDuration),
      ("confirmations", .integer row.confirmations.toInt),
      ("confirmation", row.confirmation.toJson),
      ("status_label", .string row.statusLabel),
      ("status_label_color", .ofNamed row.statusLabelColor),
      ("status_icon", .ofOption Icon.toJson row.statusIcon)]

end WalletRows
