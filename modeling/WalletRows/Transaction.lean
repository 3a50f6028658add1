import WalletRows.Named

/-!
# Transactions

A transaction is the record that a wallet reports.  Amounts are signed counts
of atoms, and a height of minus one stands for a transaction that no block
holds yet.
-/

namespace WalletRows

/-- Where the funds went, as seen from the wallet. -/
inductive Direction where
  /-- The funds left the wallet. -/
  | sent
  /-- The funds entered the wallet. -/
  | received
  /-- The funds moved between accounts of the wallet. -/
  | transferred
deriving DecidableEq

instance : Named Direction where
  all := [.sent, .received, .transferred]
  name
    | .sent => "sent"
    | .received => "received"
    | .transferred => "transferred"

/-- The direction of a numeric code.  Codes without a meaning of their own count
as transfers. -/
def Direction.ofCode (code : Int32) : Direction :=
  if code = 0 then .sent else if code = 1 then .received else .transferred

inductive Purpose where
  /-- A transfer of value. -/
  | regular
  /-- An output of a coin mix. -/
  | mixed
  /-- A ticket, which locks funds for staking. -/
  | ticketPurchase
  /-- A vote, which spends a live ticket. -/
  | vote
  /-- A revocation, which spends a missed or expired ticket. -/
  | revocation
deriving DecidableEq

instance : Named Purpose where
  all := [.regular, .mixed, .ticketPurchase, .vote, .revocation]
  name
    | .regular => "regular"
    | .mixed => "mixed"
    | .ticketPurchase => "ticket_purchase"
    | .vote => "vote"
    | .revocation => "revocation"

namespace Purpose

def title : Purpose → String
  | .regular => "Regular"
  | .mixed => "Mixed"
  | .ticketPurchase => "Ticket Purchase"
  | .vote => "Vote"
  | .revocation => "Revocation"

/-- Whether a compact row shows the confirmation icon. -/
def isMixedOrRegular : Purpose → Bool
  | .regular | .mixed => true
  | .ticketPurchase | .vote | .revocation => false

/-- Whether the transaction spends a ticket. -/
def isVoteOrRevocation : Purpose → Bool
  | .vote | .revocation => true
  | .regular | .mixed | .ticketPurchase => false

end Purpose

structure Transaction where
  hash : String := ""
  direction : Direction := .transferred
  purpose : Purpose := .regular
  /-- The amount in atoms. -/
  amount : Int64 := 0
  /-- The amount of each mixed output, in atoms. -/
  mixDenomination : Int64 := 0
  /-- The number of mixed outputs. -/
  mixCount : Int32 := 0
  /-- The height of the block that holds the transaction. -/
  blockHeight : Int32 := 0
  /-- The time in seconds since the start of 1970. -/
  timestamp : Int64 := 0
  /-- What a vote earned, in atoms. -/
  voteReward : Int64 := 0
  /-- The days it took until the ticket was spent. -/
  daysToSpend : Int32 := 0
deriving DecidableEq

namespace Transaction

/-- The height of a transaction that no block holds yet. -/
def unminedHeight : Int32 := -1

def isMined (transaction : Transaction) : Bool :=
  transaction.blockHeight ≠ unminedHeight

end Transaction

end WalletRows
