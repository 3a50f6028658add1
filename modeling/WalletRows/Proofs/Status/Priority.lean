import WalletRows.Status

/-!
# The priority of statuses

A classification tries its rules one after the other.  Here every rule carries
the whole condition under which it decides, so that the rules have no order
among themselves: `Stands` relates a transaction to its line in the table of
statuses, and the table is given column by column.  Exactly one line belongs to
every transaction, whatever the wallet answers, and the status is that line.

The answers of a wallet need not fit together: a ticket may be in several
stages at once, and the lookup of what spent it may fail.
-/

namespace WalletRows

/-- A line in the table of statuses. -/
inductive Standing where
  | directed (direction : Direction)
  | mixed
  | unmined
  | immature
  | live
  | expired
  | voted
  | revoked
  | vote
  | revocation
deriving DecidableEq

namespace Standing

def title : Standing → Phrase
  | .directed .sent => .sent
  | .directed .received => .received
  | .directed .transferred => .transferred
  | .mixed => .mixed
  | .unmined => .unmined
  | .immature => .immature
  | .live => .live
  | .expired => .expired
  | .voted => .voted
  | .revoked => .revoked
  | .vote => .vote
  | .revocation => .revocation

def icon : Standing → Icon
  | .directed .sent => .send
  | .directed .received => .receive
  | .directed .transferred => .transferred
  | .mixed => .mixed
  | .unmined => .ticketUnmined
  | .immature => .ticketImmature
  | .live => .ticketLive
  | .expired => .ticketExpired
  | .voted | .vote => .ticketVoted
  | .revoked | .revocation => .ticketRevoked

def color : Standing → Option ColorRole
  | .directed _ | .mixed => none
  | .unmined => some .lightBlue6
  | .immature => some .yellow
  | .live => some .success2
  | .expired => some .grayText2
  | .voted | .vote => some .turquoise700
  | .revoked | .revocation => some .orange

def progressBar : Standing → Option ColorRole
  | .directed _ | .mixed | .unmined | .expired => none
  | .immature => some .orangeYellow
  | .live => some .success2
  | .voted | .vote => some .turquoise300
  | .revoked | .revocation => some .danger

def progressTrack : Standing → Option ColorRole
  | .directed _ | .mixed | .unmined | .expired => none
  | .immature => some .gray6
  | .live => some .success2
  | .voted | .vote => some .turquoise100
  | .revoked | .revocation => some .orange3

def background : Standing → Option ColorRole
  | .directed _ | .mixed => none
  | .unmined => some .lightBlue
  | .immature => some .yellow
  | .live | .voted | .vote => some .success2
  | .expired => some .gray4
  | .revoked | .revocation => some .orange2

def ticket : Standing → TicketStatus
  | .directed _ | .mixed => .none
  | .unmined => .unmined
  | .immature => .immature
  | .live => .live
  | .expired => .expired
  | .voted | .revoked | .vote | .revocation => .votedOrRevoked

/-- A whole line of the table. -/
def status (standing : Standing) : Status where
  title := standing.title
  icon := standing.icon
  color := standing.color
  progressBar := standing.progressBar
  progressTrack := standing.progressTrack
  background := standing.background
  ticket := standing.ticket

def ofTitle? : Phrase → Option Standing
  | .sent => some (.directed .sent)
  | .received => some (.directed .received)
  | .transferred => some (.directed .transferred)
  | .mixed => some .mixed
  | .unmined => some .unmined
  | .immature => some .immature
  | .live => some .live
  | .expired => some .expired
  | .voted => some .voted
  | .revoked => some .revoked
  | .vote => some .vote
  | .revocation => some .revocation
  | _ => none

theorem ofTitle?_title (standing : Standing) :
    ofTitle? standing.title = some standing := by
  cases standing with
  | directed direction => cases direction <;> rfl
  | _ => rfl

/-- No two lines show the same status; their titles already differ. -/
theorem status_injective {first second : Standing}
    (same : first.status = second.status) : first = second := by
  have titles : first.title = second.title := congrArg Status.title same
  apply Option.some.inj
  rw [← ofTitle?_title first, titles, ofTitle?_title]

end Standing

namespace Wallet

/-- A transaction is a ticket that the wallet counts as staking. -/
structure IsTicket (wallet : Wallet) (transaction : Transaction) : Prop where
  staking : wallet.matchesFilter transaction .staking = true
  purchase : transaction.purpose = .ticketPurchase

/-- A ticket is in none of the four stages. -/
structure IsPastStages (wallet : Wallet) (transaction : Transaction) :
    Prop where
  unmined : wallet.matchesFilter transaction .unmined = false
  immature : wallet.matchesFilter transaction .immature = false
  live : wallet.matchesFilter transaction .live = false
  expired : wallet.matchesFilter transaction .expired = false

/-- The line of the table that a transaction has.  Every rule states its whole
condition, including that no earlier one decides. -/
inductive Stands (wallet : Wallet) (transaction : Transaction)
    (cancelled : Bool) : Standing → Prop
  | directed
      (ordinary : wallet.matchesFilter transaction .staking = false)
      (unmixed : transaction.purpose ≠ .mixed) :
      Stands wallet transaction cancelled (.directed transaction.direction)
  | mixed
      (ordinary : wallet.matchesFilter transaction .staking = false)
      (mixed : transaction.purpose = .mixed) :
      Stands wallet transaction cancelled .mixed
  | vote
      (staking : wallet.matchesFilter transaction .staking = true)
      (vote : transaction.purpose = .vote) :
      Stands wallet transaction cancelled .vote
  | revocation
      (staking : wallet.matchesFilter transaction .staking = true)
      (other : transaction.purpose ∈
        [Purpose.regular, Purpose.mixed, Purpose.revocation]) :
      Stands wallet transaction cancelled .revocation
  | unmined
      (ticket : wallet.IsTicket transaction)
      (unmined : wallet.matchesFilter transaction .unmined = true) :
      Stands wallet transaction cancelled .unmined
  | immature
      (ticket : wallet.IsTicket transaction)
      (mined : wallet.matchesFilter transaction .unmined = false)
      (immature : wallet.matchesFilter transaction .immature = true) :
      Stands wallet transaction cancelled .immature
  | live
      (ticket : wallet.IsTicket transaction)
      (mined : wallet.matchesFilter transaction .unmined = false)
      (mature : wallet.matchesFilter transaction .immature = false)
      (live : wallet.matchesFilter transaction .live = true) :
      Stands wallet transaction cancelled .live
  | expired
      (ticket : wallet.IsTicket transaction)
      (mined : wallet.matchesFilter transaction .unmined = false)
      (mature : wallet.matchesFilter transaction .immature = false)
      (dead : wallet.matchesFilter transaction .live = false)
      (expired : wallet.matchesFilter transaction .expired = true) :
      Stands wallet transaction cancelled .expired
  | voted (spender : Transaction)
      (ticket : wallet.IsTicket transaction)
      (past : wallet.IsPastStages transaction)
      (answer : wallet.spenderUnless transaction.hash cancelled =
        .ok (some spender))
      (vote : spender.purpose = .vote) :
      Stands wallet transaction cancelled .voted
  | revoked (spender : Transaction)
      (ticket : wallet.IsTicket transaction)
      (past : wallet.IsPastStages transaction)
      (answer : wallet.spenderUnless transaction.hash cancelled =
        .ok (some spender))
      (other : spender.purpose ≠ .vote) :
      Stands wallet transaction cancelled .revoked
  | unspent
      (ticket : wallet.IsTicket transaction)
      (past : wallet.IsPastStages transaction)
      (answer : wallet.spenderUnless transaction.hash cancelled = .ok none) :
      Stands wallet transaction cancelled (.directed transaction.direction)
  | unanswered (error : LookupError)
      (ticket : wallet.IsTicket transaction)
      (past : wallet.IsPastStages transaction)
      (answer : wallet.spenderUnless transaction.hash cancelled =
        .error error) :
      Stands wallet transaction cancelled (.directed transaction.direction)

variable {wallet other : Wallet} {transaction twin : Transaction}
variable {cancelled otherCancelled : Bool}

theorem directed_status (direction : Direction) :
    (Standing.directed direction).status = Status.ofDirection direction := by
  cases direction <;> rfl

/-- A ticket in a stage has the status of the first one that it is in. -/
theorem classify_of_stage {stage : Filter} {status : Status}
    (ticket : wallet.IsTicket transaction)
    (first : wallet.ticketStage transaction = some stage)
    (shown : Status.ofStage? stage = some status) :
    (wallet.classify transaction cancelled).value = status := by
  simp [classify, ticketStatus, ticket.staking, ticket.purchase, first, shown]

theorem IsPastStages.ticketStage_eq_none
    (past : wallet.IsPastStages transaction) :
    wallet.ticketStage transaction = none := by
  simp [ticketStage, Filter.ticketStages, past.unmined, past.immature,
    past.live, past.expired]

/-- The status of a ticket in no stage is left to the lookup. -/
theorem classify_of_past (ticket : wallet.IsTicket transaction)
    (past : wallet.IsPastStages transaction) :
    (wallet.classify transaction cancelled).value =
      (wallet.spentStatus transaction cancelled).value.getD
        (.ofDirection transaction.direction) := by
  simp [classify, ticketStatus, ticket.staking, ticket.purchase,
    past.ticketStage_eq_none]

/-- Every rule gives the status of its line. -/
theorem Stands.classify_eq {standing : Standing}
    (stands : wallet.Stands transaction cancelled standing) :
    (wallet.classify transaction cancelled).value = standing.status := by
  cases stands with
  | directed ordinary unmixed =>
      cases purpose : transaction.purpose <;>
        simp_all [classify, directed_status]
  | mixed ordinary mixed => simp only [classify, ordinary, mixed]; rfl
  | vote staking vote => simp only [classify, staking, vote]; rfl
  | revocation staking other =>
      cases purpose : transaction.purpose <;>
        simp_all [classify]
      all_goals rfl
  | unmined ticket unmined =>
      exact classify_of_stage ticket
        (by simp [ticketStage, Filter.ticketStages, unmined]; rfl) rfl
  | immature ticket mined immature =>
      exact classify_of_stage ticket
        (by simp [ticketStage, Filter.ticketStages, mined, immature]; rfl) rfl
  | live ticket mined mature live =>
      exact classify_of_stage ticket
        (by simp [ticketStage, Filter.ticketStages, mined, mature, live]; rfl)
        rfl
  | expired ticket mined mature dead expired =>
      exact classify_of_stage ticket
        (by
          simp [ticketStage, Filter.ticketStages, mined, mature, dead, expired]
          rfl)
        rfl
  | voted spender ticket past answer vote =>
      rw [classify_of_past ticket past, spentStatus, answer]
      simp only [Status.ofSpender, vote]
      rfl
  | revoked spender ticket past answer other =>
      rw [classify_of_past ticket past, spentStatus, answer]
      cases purpose : spender.purpose <;>
        simp_all [Status.ofSpender]
      all_goals rfl
  | unspent ticket past answer =>
      rw [classify_of_past ticket past, spentStatus, answer]
      exact (directed_status _).symm
  | unanswered error ticket past answer =>
      rw [classify_of_past ticket past, spentStatus, answer]
      exact (directed_status _).symm

/-- A ticket is in a first stage, or it is in none. -/
theorem exists_stands_of_ticket (ticket : wallet.IsTicket transaction)
    (cancelled : Bool) :
    ∃ standing, wallet.Stands transaction cancelled standing := by
  cases unmined : wallet.matchesFilter transaction .unmined with
  | true => exact ⟨_, .unmined ticket unmined⟩
  | false =>
  cases immature : wallet.matchesFilter transaction .immature with
  | true => exact ⟨_, .immature ticket unmined immature⟩
  | false =>
  cases live : wallet.matchesFilter transaction .live with
  | true => exact ⟨_, .live ticket unmined immature live⟩
  | false =>
  cases expired : wallet.matchesFilter transaction .expired with
  | true => exact ⟨_, .expired ticket unmined immature live expired⟩
  | false =>
  have past : wallet.IsPastStages transaction :=
    ⟨unmined, immature, live, expired⟩
  cases answer : wallet.spenderUnless transaction.hash cancelled with
  | error error => exact ⟨_, .unanswered error ticket past answer⟩
  | ok known =>
      cases known with
      | none => exact ⟨_, .unspent ticket past answer⟩
      | some spender =>
          by_cases vote : spender.purpose = .vote
          · exact ⟨_, .voted spender ticket past answer vote⟩
          · exact ⟨_, .revoked spender ticket past answer vote⟩

/-- The rules leave no transaction out, whatever the wallet answers. -/
theorem exists_stands (wallet : Wallet) (transaction : Transaction)
    (cancelled : Bool) :
    ∃ standing, wallet.Stands transaction cancelled standing := by
  cases staking : wallet.matchesFilter transaction .staking with
  | false =>
      by_cases mixed : transaction.purpose = .mixed
      · exact ⟨_, .mixed staking mixed⟩
      · exact ⟨_, .directed staking mixed⟩
  | true =>
      cases purpose : transaction.purpose with
      | ticketPurchase =>
          exact exists_stands_of_ticket ⟨staking, purpose⟩ cancelled
      | vote => exact ⟨_, .vote staking purpose⟩
      | regular => exact ⟨_, .revocation staking (by simp [purpose])⟩
      | mixed => exact ⟨_, .revocation staking (by simp [purpose])⟩
      | revocation => exact ⟨_, .revocation staking (by simp [purpose])⟩

/-- The purpose of what spent a ticket, if the wallet answers with a spender. -/
def spendingPurpose? (wallet : Wallet) (transaction : Transaction)
    (cancelled : Bool) : Option Purpose :=
  match wallet.spenderUnless transaction.hash cancelled with
  | .ok known => known.map Transaction.purpose
  | .error _ => none

/-- Two wallets answer alike, as far as a status depends on it, about two
transactions of one direction and one purpose.  What spent a ticket matters only
if the ticket is in no stage, and then only by its purpose. -/
structure AnswersAlike (wallet : Wallet) (transaction : Transaction)
    (cancelled : Bool) (other : Wallet) (twin : Transaction)
    (otherCancelled : Bool) : Prop where
  direction : twin.direction = transaction.direction
  purpose : twin.purpose = transaction.purpose
  staking : other.matchesFilter twin .staking =
    wallet.matchesFilter transaction .staking
  stages : ∀ stage ∈ Filter.ticketStages,
    other.matchesFilter twin stage = wallet.matchesFilter transaction stage
  spender : wallet.IsTicket transaction → wallet.IsPastStages transaction →
    other.spendingPurpose? twin otherCancelled =
      wallet.spendingPurpose? transaction cancelled

namespace AnswersAlike

variable (alike : AnswersAlike wallet transaction cancelled other twin
  otherCancelled)

include alike

theorem isTicket (ticket : wallet.IsTicket transaction) :
    other.IsTicket twin :=
  ⟨alike.staking.trans ticket.staking, alike.purpose.trans ticket.purchase⟩

theorem unmined : other.matchesFilter twin .unmined =
    wallet.matchesFilter transaction .unmined :=
  alike.stages .unmined (by simp [Filter.ticketStages])

theorem immature : other.matchesFilter twin .immature =
    wallet.matchesFilter transaction .immature :=
  alike.stages .immature (by simp [Filter.ticketStages])

theorem live : other.matchesFilter twin .live =
    wallet.matchesFilter transaction .live :=
  alike.stages .live (by simp [Filter.ticketStages])

theorem expired : other.matchesFilter twin .expired =
    wallet.matchesFilter transaction .expired :=
  alike.stages .expired (by simp [Filter.ticketStages])

theorem isPastStages (past : wallet.IsPastStages transaction) :
    other.IsPastStages twin :=
  ⟨alike.unmined.trans past.unmined, alike.immature.trans past.immature,
    alike.live.trans past.live, alike.expired.trans past.expired⟩

end AnswersAlike

theorem spendingPurpose?_of_answer {spender : Transaction}
    (answer : wallet.spenderUnless transaction.hash cancelled =
      .ok (some spender)) :
    wallet.spendingPurpose? transaction cancelled = some spender.purpose := by
  simp [spendingPurpose?, answer]

/-- A ticket in no stage whose spender has a purpose stands as that purpose
says. -/
theorem stands_of_spendingPurpose? {purpose : Purpose}
    (ticket : wallet.IsTicket transaction)
    (past : wallet.IsPastStages transaction)
    (known : wallet.spendingPurpose? transaction cancelled = some purpose) :
    wallet.Stands transaction cancelled
      (if purpose = .vote then .voted else .revoked) := by
  cases answer : wallet.spenderUnless transaction.hash cancelled with
  | error error => simp [spendingPurpose?, answer] at known
  | ok found =>
      cases found with
      | none => simp [spendingPurpose?, answer] at known
      | some spender =>
          have same : spender.purpose = purpose := by
            rw [spendingPurpose?_of_answer answer] at known
            exact Option.some.inj known
          by_cases vote : purpose = .vote
          · rw [if_pos vote]
            exact .voted spender ticket past answer (same.trans vote)
          · rw [if_neg vote]
            exact .revoked spender ticket past answer (same ▸ vote)

/-- A ticket in no stage whose spender is unknown stands by its direction. -/
theorem stands_of_spendingPurpose?_eq_none
    (ticket : wallet.IsTicket transaction)
    (past : wallet.IsPastStages transaction)
    (unknown : wallet.spendingPurpose? transaction cancelled = none) :
    wallet.Stands transaction cancelled
      (.directed transaction.direction) := by
  cases answer : wallet.spenderUnless transaction.hash cancelled with
  | error error => exact .unanswered error ticket past answer
  | ok found =>
      cases found with
      | none => exact .unspent ticket past answer
      | some spender => simp [spendingPurpose?, answer] at unknown

/-- Transactions about which two wallets answer alike have the same line. -/
theorem Stands.of_answersAlike {standing : Standing}
    (stands : wallet.Stands transaction cancelled standing)
    (alike : AnswersAlike wallet transaction cancelled other twin
      otherCancelled) :
    other.Stands twin otherCancelled standing := by
  cases stands with
  | directed ordinary unmixed =>
      rw [← alike.direction]
      exact .directed (alike.staking.trans ordinary) (alike.purpose ▸ unmixed)
  | mixed ordinary mixed =>
      exact .mixed (alike.staking.trans ordinary) (alike.purpose.trans mixed)
  | vote staking vote =>
      exact .vote (alike.staking.trans staking) (alike.purpose.trans vote)
  | revocation staking rest =>
      exact .revocation (alike.staking.trans staking) (alike.purpose ▸ rest)
  | unmined ticket unmined =>
      exact .unmined (alike.isTicket ticket) (alike.unmined.trans unmined)
  | immature ticket mined immature =>
      exact .immature (alike.isTicket ticket) (alike.unmined.trans mined)
        (alike.immature.trans immature)
  | live ticket mined mature live =>
      exact .live (alike.isTicket ticket) (alike.unmined.trans mined)
        (alike.immature.trans mature) (alike.live.trans live)
  | expired ticket mined mature dead expired =>
      exact .expired (alike.isTicket ticket) (alike.unmined.trans mined)
        (alike.immature.trans mature) (alike.live.trans dead)
        (alike.expired.trans expired)
  | voted spender ticket past answer vote =>
      have known := alike.spender ticket past
      rw [spendingPurpose?_of_answer answer, vote] at known
      exact stands_of_spendingPurpose? (alike.isTicket ticket)
        (alike.isPastStages past) known
  | revoked spender ticket past answer different =>
      have known := alike.spender ticket past
      rw [spendingPurpose?_of_answer answer] at known
      have stands := stands_of_spendingPurpose? (alike.isTicket ticket)
        (alike.isPastStages past) known
      rwa [if_neg different] at stands
  | unspent ticket past answer =>
      have unknown := alike.spender ticket past
      rw [← alike.direction]
      exact stands_of_spendingPurpose?_eq_none (alike.isTicket ticket)
        (alike.isPastStages past)
        (unknown.trans (by simp [spendingPurpose?, answer]))
  | unanswered error ticket past answer =>
      have unknown := alike.spender ticket past
      rw [← alike.direction]
      exact stands_of_spendingPurpose?_eq_none (alike.isTicket ticket)
        (alike.isPastStages past)
        (unknown.trans (by simp [spendingPurpose?, answer]))

/-- The status of a transaction is its line of the table: some line is its own,
no other line shows that status, and a wallet that answers alike gives the same
status, also where a ticket is in several stages at once. -/
theorem classify_eq_status_of_standing (wallet : Wallet)
    (transaction : Transaction) (cancelled : Bool) :
    (∃ standing, wallet.Stands transaction cancelled standing) ∧
    (∀ standing, wallet.Stands transaction cancelled standing ↔
      (wallet.classify transaction cancelled).value = standing.status) ∧
    (∀ other twin otherCancelled,
      AnswersAlike wallet transaction cancelled other twin otherCancelled →
        (other.classify twin otherCancelled).value =
          (wallet.classify transaction cancelled).value) := by
  obtain ⟨own, stands⟩ := exists_stands wallet transaction cancelled
  refine ⟨⟨own, stands⟩, ?_, ?_⟩
  · intro standing
    constructor
    · exact Stands.classify_eq
    · intro shown
      have same : own = standing :=
        Standing.status_injective (stands.classify_eq.symm.trans shown)
      exact same ▸ stands
  · intro other twin otherCancelled alike
    rw [(stands.of_answersAlike alike).classify_eq, stands.classify_eq]

/-- A ticket that is immature and live at once is immature, both for a wallet
whose lookups fail and for one that knows a vote. -/
theorem classify_contested_ticket :
    let ticket : Transaction := { hash := "t", purpose := .ticketPurchase }
    let contested (answer : Except LookupError (Option Transaction)) : Wallet :=
      { name := "contested"
        asset := .dcr
        bestHeight := 0
        required := 2
        matchesFilter := fun _ filter =>
          decide (filter ∈ [Filter.staking, .immature, .live])
        spender := fun _ => answer }
    let failing := contested (.error .cancelled)
    let knowing := contested (.ok (some { purpose := .vote }))
    (failing.classify ticket false).value = Standing.immature.status ∧
      AnswersAlike failing ticket false knowing ticket true ∧
      (knowing.classify ticket true).value =
        (failing.classify ticket false).value := by
  intro ticket contested failing knowing
  have alike : AnswersAlike failing ticket false knowing ticket true :=
    ⟨rfl, rfl, rfl, fun _ _ => rfl, fun _ past => nomatch past.immature⟩
  have table := classify_eq_status_of_standing failing ticket false
  exact ⟨(table.2.1 .immature).mp (.immature ⟨rfl, rfl⟩ rfl rfl), alike,
    table.2.2 knowing ticket true alike⟩

end Wallet

end WalletRows
