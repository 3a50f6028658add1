import WalletRows.Asset
import WalletRows.Phrase

/-!
# Filters

A wallet sorts transactions into categories.  The transactions page offers some
of them in a dropdown, which depends on the asset and on the tab.
-/

namespace WalletRows

/-- A category that a wallet can test a transaction for. -/
inductive Filter where
  /-- Every transaction of an asset without staking. -/
  | all
  /-- Every transaction that is not a staking one. -/
  | allTx
  | sent
  | received
  | transferred
  | mixed
  /-- Every ticket, vote and revocation. -/
  | staking
  | unmined
  | immature
  | live
  | expired
  | voted
  | revoked
deriving DecidableEq

instance : Named Filter where
  all := [.all, .allTx, .sent, .received, .transferred, .mixed, .staking,
    .unmined, .immature, .live, .expired, .voted, .revoked]
  name
    | .all => "all"
    | .allTx => "all_tx"
    | .sent => "sent"
    | .received => "received"
    | .transferred => "transferred"
    | .mixed => "mixed"
    | .staking => "staking"
    | .unmined => "unmined"
    | .immature => "immature"
    | .live => "live"
    | .expired => "expired"
    | .voted => "voted"
    | .revoked => "revoked"

/-- The stages in the life of a ticket, in the order in which they are tried. -/
def Filter.ticketStages : List Filter :=
  [.unmined, .immature, .live, .expired]

inductive Tab where
  /-- The ordinary activity. -/
  | activity
  /-- The staking activity. -/
  | staking
deriving DecidableEq

def Tab.ofIndex? : Nat → Option Tab
  | 0 => some .activity
  | 1 => some .staking
  | _ => none

/-- The entries of the dropdown: a label and the filter it selects.  Assets
without staking have nothing to offer on the staking tab. -/
def dropdown : Asset → Tab → List (Phrase × Filter)
  | .dcr, .activity =>
      [(.all, .allTx), (.sent, .sent), (.received, .received),
        (.transferred, .transferred), (.mixed, .mixed)]
  | .dcr, .staking =>
      [(.all, .staking), (.vote, .voted), (.revocation, .revoked)]
  | .btc, .activity | .ltc, .activity =>
      [(.all, .all), (.sent, .sent), (.received, .received)]
  | .btc, .staking | .ltc, .staking => []

end WalletRows
