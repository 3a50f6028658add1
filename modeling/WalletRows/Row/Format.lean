import WalletRows.Duration
import WalletRows.Row
import WalletRows.Row.Amount

/-!
# Formatting of rows

A row is made from what a wallet answers about a transaction and from a view,
which holds everything else that a row depends on.  Each text of the row has a
function of its own, with just the parts of the view that the text depends on.
-/

namespace WalletRows

/-- What a row depends on besides the wallet and the transaction. -/
structure View where
  locale : Locale := .english
  layout : Layout := .overview
  /-- The present time in seconds since the start of 1970. -/
  now : Int
  /-- How many seconds the time of the reader is ahead of UTC. -/
  offset : Zone := .fixed 0
  /-- Whether the caller has requested to stop. -/
  cancelled : Bool := false

namespace Wallet

/-- The main text: the amount of an ordinary transaction, and the title of the
status of any other. -/
def headline (wallet : Wallet) (transaction : Transaction) (locale : Locale)
    (status : Status) : String :=
  if transaction.purpose = .regular then wallet.signedAmount transaction
  else locale.text status.title

/-- Whether a compact row shows what was mixed. -/
def showsMix (transaction : Transaction) (layout : Layout) : Bool :=
  layout = .overview && transaction.purpose = .mixed

def mixDenomination (wallet : Wallet) (transaction : Transaction)
    (layout : Layout) : Option String :=
  if showsMix transaction layout then
    some (wallet.formatAmount transaction.mixDenomination)
  else
    none

/-- How many outputs were mixed, if more than one. -/
def mixCount (transaction : Transaction) (layout : Layout) : Option String :=
  if showsMix transaction layout && 1 < transaction.mixCount then
    some ("x" ++ integerText transaction.mixCount.toInt)
  else
    none

/-- The amount, where neither the headline nor the mix shows one. -/
def secondaryAmount (wallet : Wallet) (transaction : Transaction)
    (layout : Layout) : Option String :=
  if layout = .overview && transaction.purpose ≠ .mixed &&
      transaction.purpose ≠ .regular then
    some (wallet.formatAmount transaction.amount)
  else
    none

/-- Whether a row asks about the ticket with the hash of its transaction. -/
def asksAboutTicket (wallet : Wallet) (layout : Layout) : Bool :=
  layout = .overview && wallet.asset.supportsStaking

/-- Whether the ticket is marked as spent.  A lookup that fails sets no mark. -/
def spentMark (wallet : Wallet) (transaction : Transaction) (layout : Layout) :
    Logged Bool :=
  if wallet.asksAboutTicket layout then
    Logged.answerOr false (.markerLookupFailed transaction.hash)
      (wallet.hasVotedOrRevoked transaction.hash)
  else
    ⟨false, []⟩

/-- What spent the ticket, for a row that asks.  A lookup that fails finds
nothing. -/
def rewardedSpender (wallet : Wallet) (transaction : Transaction)
    (layout : Layout) (cancelled : Bool) : Logged (Option Transaction) :=
  if wallet.asksAboutTicket layout then
    Logged.answerOr none (.rewardLookupFailed transaction.hash)
      (wallet.spenderUnless transaction.hash cancelled)
  else
    ⟨none, []⟩

/-- What was done with the ticket in the end. -/
def spendingPhrase : Purpose → Phrase
  | .vote => .vote
  | .regular | .mixed | .ticketPurchase | .revocation => .revoke

/-- How long it took until the ticket was spent. -/
def daysHint (transaction : Transaction) (locale : Locale) (layout : Layout) :
    Option String :=
  if layout = .transactionsPage && transaction.purpose.isVoteOrRevocation then
    some
      (locale.fill .daysToAction
        [integerText transaction.daysToSpend.toInt,
          locale.text (spendingPhrase transaction.purpose)])
  else
    none

def stagePhrase : Option Filter → Phrase
  | some .unmined => .unmined
  | some .immature => .immature
  | some .live => .live
  | some .expired => .expired
  | _ => .voted

/-- The word in front of how long ago a staking transaction was. -/
def stakingPhrase (wallet : Wallet) (transaction : Transaction) : Phrase :=
  match transaction.purpose with
  | .ticketPurchase => stagePhrase (wallet.ticketStage transaction)
  | .revocation => .revoked
  | .regular | .mixed | .vote => .voted

/-- The stage of the ticket and how long ago the transaction was. -/
def stakingDuration (wallet : Wallet) (transaction : Transaction)
    (locale : Locale) (layout : Layout) (now : Int) : Option String :=
  if layout = .overview && wallet.matchesFilter transaction .staking then
    some
      (locale.text (wallet.stakingPhrase transaction) ++ " " ++
        timeAgo transaction.timestamp.toInt now)
  else
    none

/-- The label that says how far a transaction is confirmed, or since when. -/
def statusLabel (transaction : Transaction) (locale : Locale) (zone : Zone) :
    Confirmation → String
  | .unconfirmed => locale.text .unconfirmed
  | .pending confirmations required =>
      locale.fill .txStatusPending
        [integerText confirmations.toInt, integerText required.toInt]
  | .confirmed =>
      let time := transaction.timestamp.toInt
      Timestamp.confirmedText time (zone time) locale

/-- Whether there are enough confirmations, for a row that shows it. -/
def statusIcon (wallet : Wallet) (transaction : Transaction) (layout : Layout) :
    Option Icon :=
  if layout = .transactionsPage || transaction.purpose.isMixedOrRegular then
    some
      (Confirmation.icon (wallet.confirmations transaction) wallet.required)
  else
    none

/-- The name of the wallet, which only a compact row shows. -/
def shownName (wallet : Wallet) (layout : Layout) : Option String :=
  if layout = .overview then some wallet.name else none

/-- The row of a transaction.  The status is decided first, then the mark and
then the reward. -/
def formatRow (wallet : Wallet) (transaction : Transaction) (view : View) :
    Logged Row := do
  let status ← wallet.classify transaction view.cancelled
  let marked ← wallet.spentMark transaction view.layout
  let spender ←
    wallet.rewardedSpender transaction view.layout view.cancelled
  let confirmations := wallet.confirmations transaction
  let confirmation := Confirmation.ofCounts confirmations wallet.required
  return {
    hash := transaction.hash
    status := status
    headline := wallet.headline transaction view.locale status
    assetIcon := .asset wallet.asset wallet.watchOnly
    walletName := wallet.shownName view.layout
    secondaryAmount := wallet.secondaryAmount transaction view.layout
    mixDenomination := wallet.mixDenomination transaction view.layout
    mixCount := mixCount transaction view.layout
    votedOrRevoked := marked
    voteReward := spender.map fun vote => wallet.rewardText vote.voteReward
    daysHint := daysHint transaction view.locale view.layout
    stakingDuration :=
      wallet.stakingDuration transaction view.locale view.layout view.now
    confirmations := confirmations
    confirmation := confirmation
    statusLabel := statusLabel transaction view.locale view.offset confirmation
    statusLabelColor := confirmation.labelColor
    statusIcon := wallet.statusIcon transaction view.layout }

def formatRows (wallet : Wallet) (transactions : List Transaction)
    (view : View) : Logged (List Row) :=
  Logged.mapList (wallet.formatRow · view) transactions

end Wallet

end WalletRows
