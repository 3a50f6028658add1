import WalletRows.Named

/-!
# Phrases

Every text that rows show is a phrase with an English wording, which can be
replaced phrase by phrase.  Some wordings have numbered places for arguments.
-/

namespace WalletRows

inductive Phrase where
  | all
  | sent
  | received
  | transferred
  | mixed
  | unmined
  | immature
  | live
  | expired
  | voted
  | revoked
  | vote
  | revoke
  | revocation
  | unknown
  | unconfirmed
  /-- The arguments are the confirmations and how many are required. -/
  | txStatusPending
  /-- The arguments are a date and a time of day. -/
  | confirmedAt
  /-- The arguments are a number of days and what was done after them. -/
  | daysToAction
  | yesterday
  | days
  | hours
  | minutes
  | seconds
deriving DecidableEq

instance : Named Phrase where
  all := [.all, .sent, .received, .transferred, .mixed, .unmined, .immature,
    .live, .expired, .voted, .revoked, .vote, .revoke, .revocation, .unknown,
    .unconfirmed, .txStatusPending, .confirmedAt, .daysToAction, .yesterday,
    .days, .hours, .minutes, .seconds]
  name
    | .all => "all"
    | .sent => "sent"
    | .received => "received"
    | .transferred => "transferred"
    | .mixed => "mixed"
    | .unmined => "unmined"
    | .immature => "immature"
    | .live => "live"
    | .expired => "expired"
    | .voted => "voted"
    | .revoked => "revoked"
    | .vote => "vote"
    | .revoke => "revoke"
    | .revocation => "revocation"
    | .unknown => "unknown"
    | .unconfirmed => "unconfirmed"
    | .txStatusPending => "tx_status_pending"
    | .confirmedAt => "confirmed_at"
    | .daysToAction => "days_to_action"
    | .yesterday => "yesterday"
    | .days => "days"
    | .hours => "hours"
    | .minutes => "minutes"
    | .seconds => "seconds"

def Phrase.english : Phrase → String
  | .all => "All"
  | .sent => "Sent"
  | .received => "Received"
  | .transferred => "Transferred"
  | .mixed => "Mixed"
  | .unmined => "Unmined"
  | .immature => "Immature"
  | .live => "Live"
  | .expired => "Expired"
  | .voted => "Voted"
  | .revoked => "Revoked"
  | .vote => "Vote"
  | .revoke => "Revoke"
  | .revocation => "Revocation"
  | .unknown => "Unknown"
  | .unconfirmed => "Unconfirmed"
  | .txStatusPending => "Pending (\x7b0\x7d/\x7b1\x7d)"
  | .confirmedAt => "\x7b0\x7d at \x7b1\x7d"
  | .daysToAction => "\x7b0\x7dd to \x7b1\x7d"
  | .yesterday => "Yesterday"
  | .days => "days"
  | .hours => "hours"
  | .minutes => "minutes"
  | .seconds => "seconds"

end WalletRows
