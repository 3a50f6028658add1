import WalletRows.ColorRole
import WalletRows.Event
import WalletRows.Icon
import WalletRows.Ticket
import WalletRows.Wallet

/-!
# Statuses of transactions

Every transaction has one status, which says how its row looks.  A transaction
that the wallet does not count as staking shows its direction, or that it was
mixed.  A vote or a revocation shows itself, and a ticket shows the first stage
that it is in, or else how it was spent.  A ticket of which neither is known
shows its direction.  The only thing that can fail is the lookup of what spent
a ticket; then the ticket counts as one of which nothing is known.
-/

namespace WalletRows

/-- How a transaction is shown.  A color that is absent is left to whoever draws
the row. -/
structure Status where
  title : Phrase
  icon : Icon
  color : Option ColorRole := none
  progressBar : Option ColorRole := none
  progressTrack : Option ColorRole := none
  background : Option ColorRole := none
  ticket : TicketStatus := .none
deriving DecidableEq

namespace Status

def ofDirection : Direction → Status
  | .sent => { title := .sent, icon := .send }
  | .received => { title := .received, icon := .receive }
  | .transferred => { title := .transferred, icon := .transferred }

/-- The status of a ticket in a stage.  Other filters are no stages. -/
def ofStage? : Filter → Option Status
  | .unmined =>
      some
        { title := .unmined
          icon := .ticketUnmined
          color := some .lightBlue6
          background := some .lightBlue
          ticket := .unmined }
  | .immature =>
      some
        { title := .immature
          icon := .ticketImmature
          color := some .yellow
          progressBar := some .orangeYellow
          progressTrack := some .gray6
          background := some .yellow
          ticket := .immature }
  | .live =>
      some
        { title := .live
          icon := .ticketLive
          color := some .success2
          progressBar := some .success2
          progressTrack := some .success2
          background := some .success2
          ticket := .live }
  | .expired =>
      some
        { title := .expired
          icon := .ticketExpired
          color := some .grayText2
          background := some .gray4
          ticket := .expired }
  | _ => none

/-- The status of votes, and of the tickets they spent, under a title. -/
def votedTitled (title : Phrase) : Status where
  title := title
  icon := .ticketVoted
  color := some .turquoise700
  progressBar := some .turquoise300
  progressTrack := some .turquoise100
  background := some .success2
  ticket := .votedOrRevoked

/-- The status of revocations, and of the tickets they spent, under a title. -/
def revokedTitled (title : Phrase) : Status where
  title := title
  icon := .ticketRevoked
  color := some .orange
  progressBar := some .danger
  progressTrack := some .orange3
  background := some .orange2
  ticket := .votedOrRevoked

/-- A ticket that a vote spent. -/
def voted : Status := votedTitled .voted

/-- A ticket that a revocation spent. -/
def revoked : Status := revokedTitled .revoked

def vote : Status := votedTitled .vote

def revocation : Status := revokedTitled .revocation

/-- An output of a coin mix, whatever its direction. -/
def mixed : Status where
  title := .mixed
  icon := .mixed

/-- A ticket that was spent by a transaction. -/
def ofSpender (spender : Transaction) : Status :=
  match spender.purpose with
  | .vote => voted
  | .regular | .mixed | .ticketPurchase | .revocation => revoked

def toJson (status : Status) : Json.Value :=
  .object
    [("title", .ofNamed status.title), ("icon", status.icon.toJson),
      ("color", .ofOption .ofNamed status.color),
      ("progress_bar_color", .ofOption .ofNamed status.progressBar),
      ("progress_track_color", .ofOption .ofNamed status.progressTrack),
      ("background", .ofOption .ofNamed status.background),
      ("ticket_status", .ofNamed status.ticket)]

end Status

namespace Wallet

/-- The first stage that a ticket is in. -/
def ticketStage (wallet : Wallet) (transaction : Transaction) : Option Filter :=
  Filter.ticketStages.find? (wallet.matchesFilter transaction)

/-- The status of a staking ticket that is in no stage: how it was spent, if the
wallet knows. -/
def spentStatus (wallet : Wallet) (transaction : Transaction)
    (cancelled : Bool) : Logged (Option Status) :=
  match wallet.spenderUnless transaction.hash cancelled with
  | .ok (some spender) => ⟨some (.ofSpender spender), []⟩
  | .ok none => ⟨none, [.strayTicket transaction.hash]⟩
  | .error error => ⟨none, [.statusLookupFailed transaction.hash error]⟩

/-- The status of a staking ticket, if one is known. -/
def ticketStatus (wallet : Wallet) (transaction : Transaction)
    (cancelled : Bool) : Logged (Option Status) :=
  match wallet.ticketStage transaction with
  | some stage => ⟨Status.ofStage? stage, []⟩
  | none => wallet.spentStatus transaction cancelled

def classify (wallet : Wallet) (transaction : Transaction) (cancelled : Bool) :
    Logged Status :=
  let direction := Status.ofDirection transaction.direction
  if wallet.matchesFilter transaction .staking then
    match transaction.purpose with
    | .ticketPurchase =>
        let known := wallet.ticketStatus transaction cancelled
        ⟨known.value.getD direction, known.events⟩
    | .vote => ⟨.vote, []⟩
    | .regular | .mixed | .revocation => ⟨.revocation, []⟩
  else
    match transaction.purpose with
    | .mixed => ⟨.mixed, []⟩
    | .regular | .ticketPurchase | .vote | .revocation => ⟨direction, []⟩

end Wallet

end WalletRows
