import WalletRows.Named

/-!
# Tickets

A staking ticket passes through stages until a vote or a revocation spends it.
-/

namespace WalletRows

/-- Where a ticket is in its life. -/
inductive TicketStatus where
  /-- No block holds the purchase yet. -/
  | unmined
  /-- A block holds the purchase, but the ticket may not vote yet. -/
  | immature
  /-- The ticket may vote. -/
  | live
  /-- The ticket lost its right to vote without using it. -/
  | expired
  /-- A vote or a revocation spent the ticket. -/
  | votedOrRevoked
  | none
deriving DecidableEq

instance : Named TicketStatus where
  all := [.unmined, .immature, .live, .expired, .votedOrRevoked, .none]
  name
    | .unmined => "unmined"
    | .immature => "immature"
    | .live => "live"
    | .expired => "expired"
    | .votedOrRevoked => "voted_or_revoked"
    | .none => "none"

namespace TicketStatus

/-- The name for a reader. -/
def title : TicketStatus → String
  | .unmined => "Unmined"
  | .immature => "Immature"
  | .live => "Live"
  | .expired => "Expired"
  | .votedOrRevoked => "Voted/Revoked"
  | .none => "None"

def isTicket (status : TicketStatus) : Bool :=
  status ≠ .none

end TicketStatus

end WalletRows
