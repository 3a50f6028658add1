import WalletRows.Status

/-!
# Staking overview

The overview counts the tickets of a wallet by where they are in their life.
Votes and revocations carry the status of the ticket they spent, so only the
purchases are to be counted.
-/

namespace WalletRows

/-- How many tickets there are of each status. -/
structure Overview where
  unmined : Nat := 0
  immature : Nat := 0
  live : Nat := 0
  expired : Nat := 0
  votedOrRevoked : Nat := 0
deriving DecidableEq

namespace Overview

def count (overview : Overview) : TicketStatus → Overview
  | .unmined => { overview with unmined := overview.unmined + 1 }
  | .immature => { overview with immature := overview.immature + 1 }
  | .live => { overview with live := overview.live + 1 }
  | .expired => { overview with expired := overview.expired + 1 }
  | .votedOrRevoked =>
      { overview with votedOrRevoked := overview.votedOrRevoked + 1 }
  | .none => overview

/-- Count the tickets among statuses. -/
def tally (statuses : List Status) : Overview :=
  statuses.foldl (fun overview status => overview.count status.ticket) {}

def total (overview : Overview) : Nat :=
  overview.unmined + overview.immature + overview.live + overview.expired +
    overview.votedOrRevoked

def toJson (overview : Overview) : Json.Value :=
  .object
    [("unmined", .integer overview.unmined),
      ("immature", .integer overview.immature),
      ("live", .integer overview.live),
      ("expired", .integer overview.expired),
      ("voted_or_revoked", .integer overview.votedOrRevoked)]

end Overview

/-- The overview of a wallet over some of its transactions. -/
def Wallet.overview (wallet : Wallet) (transactions : List Transaction) :
    Logged Overview := do
  let tickets := transactions.filter (·.purpose = .ticketPurchase)
  let statuses ← Logged.mapList (wallet.classify · false) tickets
  return .tally statuses

end WalletRows
