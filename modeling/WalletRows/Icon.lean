import WalletRows.Asset
import WalletRows.Json.Value

/-!
# Icons

A row names its icons; a drawing surface that has only text shows a glyph for
each.
-/

namespace WalletRows

inductive Icon where
  | send
  | receive
  | transferred
  | mixed
  | ticketUnmined
  | ticketImmature
  | ticketLive
  | ticketExpired
  | ticketVoted
  | ticketRevoked
  /-- The transaction has as many confirmations as are required. -/
  | confirm
  /-- The transaction has fewer confirmations. -/
  | pending
  /-- The sign of the asset of a wallet. -/
  | asset (held : Asset) (watchOnly : Bool)
deriving DecidableEq

namespace Icon

def glyph : Icon → String
  | .send => "↑"
  | .receive => "↓"
  | .transferred => "⇄"
  | .mixed => "⧉"
  | .ticketUnmined => "○"
  | .ticketImmature => "◔"
  | .ticketLive => "●"
  | .ticketExpired => "◌"
  | .ticketVoted => "✓"
  | .ticketRevoked => "✗"
  | .confirm => "✔"
  | .pending => "…"
  | .asset .. => "◆"

/-- The written form: a name, or the parts of the sign of an asset. -/
def toJson : Icon → Json.Value
  | .send => .string "send"
  | .receive => .string "receive"
  | .transferred => .string "transferred"
  | .mixed => .string "mixed_tx"
  | .ticketUnmined => .string "ticket_unmined"
  | .ticketImmature => .string "ticket_immature"
  | .ticketLive => .string "ticket_live"
  | .ticketExpired => .string "ticket_expired"
  | .ticketVoted => .string "ticket_voted"
  | .ticketRevoked => .string "ticket_revoked"
  | .confirm => .string "confirm"
  | .pending => .string "pending"
  | .asset held watchOnly =>
      .object
        [("asset",
          .object
            [("asset", .ofNamed held), ("watch_only", .boolean watchOnly)])]

end Icon

end WalletRows
