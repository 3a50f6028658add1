import WalletRows.Row.Format

/-!
# Failed lookups

A status and a row use a lookup only through what it finds, and a lookup that
fails finds nothing.  So a wallet may answer its lookups in any other way that
finds the same, and statuses and rows stay what they are; only the events tell
the ways apart.  A request to stop makes the lookup of a spender fail, unless
the wallet looks it up in a way of its own.
-/

namespace WalletRows

/-- What a lookup finds.  A lookup that fails finds `nothing`. -/
def findings {α : Type} (nothing : α) : Except LookupError α → α
  | .ok answer => answer
  | .error _ => nothing

theorem value_answerOr {α : Type} (nothing : α) (failed : LookupError → Event)
    (answer : Except LookupError α) :
    (Logged.answerOr nothing failed answer).value = findings nothing answer := by
  cases answer <;> rfl

namespace Wallet

/-! ## Other ways to answer -/

def withLookups (wallet : Wallet)
    (spender : String → Except LookupError (Option Transaction))
    (spenderUnless : String → Bool → Except LookupError (Option Transaction))
    (hasVotedOrRevoked : String → Except LookupError Bool) : Wallet :=
  { wallet with
    spender := spender
    spenderUnless := spenderUnless
    hasVotedOrRevoked := hasVotedOrRevoked }

/-- The wallet that answers where its lookups fail: that nothing spent the
ticket, and that the ticket was not spent. -/
def neverFailing (wallet : Wallet) : Wallet :=
  wallet.withLookups wallet.spender
    (fun hash cancelled =>
      .ok (findings none (wallet.spenderUnless hash cancelled)))
    (fun hash => .ok (findings false (wallet.hasVotedOrRevoked hash)))

def withoutSpenders (wallet : Wallet) : Wallet :=
  wallet.withLookups (fun _ => .ok none) (fun _ _ => .ok none)
    wallet.hasVotedOrRevoked

/-! ## What statuses and rows use -/

/-- The status of a transaction of which `known` is found out as a ticket. -/
def statusKnowing (wallet : Wallet) (transaction : Transaction)
    (known : Option Status) : Status :=
  if wallet.matchesFilter transaction .staking then
    match transaction.purpose with
    | .ticketPurchase => known.getD (.ofDirection transaction.direction)
    | .vote => .vote
    | .regular | .mixed | .revocation => .revocation
  else
    match transaction.purpose with
    | .mixed => .mixed
    | .regular | .ticketPurchase | .vote | .revocation =>
        .ofDirection transaction.direction

theorem value_classify (wallet : Wallet) (transaction : Transaction)
    (cancelled : Bool) :
    (wallet.classify transaction cancelled).value =
      wallet.statusKnowing transaction
        (wallet.ticketStatus transaction cancelled).value := by
  simp only [classify, statusKnowing]
  split <;> cases transaction.purpose <;> rfl

theorem value_spentStatus (wallet : Wallet) (transaction : Transaction)
    (cancelled : Bool) :
    (wallet.spentStatus transaction cancelled).value =
      (findings none (wallet.spenderUnless transaction.hash cancelled)).map
        Status.ofSpender := by
  unfold spentStatus
  cases wallet.spenderUnless transaction.hash cancelled with
  | error error => rfl
  | ok spender => cases spender <;> rfl

/-- The row of a transaction with what is found out by lookups given.  The rest
of the row is made without them. -/
def rowKnowing (wallet : Wallet) (transaction : Transaction) (view : View)
    (status : Status) (marked : Bool) (spender : Option Transaction) : Row :=
  { (wallet.formatRow transaction view).value with
    status := status
    headline := wallet.headline transaction view.locale status
    votedOrRevoked := marked
    voteReward := spender.map fun vote => wallet.rewardText vote.voteReward }

section OtherAnswers

variable {wallet : Wallet} {transaction : Transaction}
variable {spender : String → Except LookupError (Option Transaction)}
variable {spenderUnless : String → Bool → Except LookupError (Option Transaction)}
variable {hasVotedOrRevoked : String → Except LookupError Bool}
variable {cancelled later : Bool}

/-- A status is the same for every way to find the same spender. -/
theorem value_classify_withLookups
    (same : findings none (spenderUnless transaction.hash later) =
      findings none (wallet.spenderUnless transaction.hash cancelled)) :
    ((wallet.withLookups spender spenderUnless hasVotedOrRevoked).classify
        transaction later).value =
      (wallet.classify transaction cancelled).value := by
  let other := wallet.withLookups spender spenderUnless hasVotedOrRevoked
  have spent : (other.spentStatus transaction later).value =
      (wallet.spentStatus transaction cancelled).value := by
    rw [value_spentStatus, value_spentStatus]
    exact congrArg (Option.map Status.ofSpender) same
  have stage : other.ticketStage transaction = wallet.ticketStage transaction :=
    rfl
  have known : (other.ticketStatus transaction later).value =
      (wallet.ticketStatus transaction cancelled).value := by
    unfold ticketStatus
    rw [stage]
    cases wallet.ticketStage transaction with
    | some stage => rfl
    | none => exact spent
  rw [value_classify, value_classify, ← known]
  rfl

/-- A row is the same for every way to find the same spender and the same
mark. -/
theorem value_formatRow_withLookups {view : View}
    (sameSpender : findings none (spenderUnless transaction.hash later) =
      findings none (wallet.spenderUnless transaction.hash view.cancelled))
    (sameMark : findings false (hasVotedOrRevoked transaction.hash) =
      findings false (wallet.hasVotedOrRevoked transaction.hash)) :
    ((wallet.withLookups spender spenderUnless hasVotedOrRevoked).formatRow
        transaction { view with cancelled := later }).value =
      (wallet.formatRow transaction view).value := by
  let other := wallet.withLookups spender spenderUnless hasVotedOrRevoked
  have status : (other.classify transaction later).value =
      (wallet.classify transaction view.cancelled).value :=
    value_classify_withLookups sameSpender
  have asks : other.asksAboutTicket view.layout =
      wallet.asksAboutTicket view.layout := rfl
  have marked : (other.spentMark transaction view.layout).value =
      (wallet.spentMark transaction view.layout).value := by
    unfold spentMark
    rw [asks]
    split
    · rw [value_answerOr, value_answerOr]
      exact sameMark
    · rfl
  have rewarded :
      (other.rewardedSpender transaction view.layout later).value =
        (wallet.rewardedSpender transaction view.layout view.cancelled).value := by
    unfold rewardedSpender
    rw [asks]
    split
    · rw [value_answerOr, value_answerOr]
      exact sameSpender
    · rfl
  calc (other.formatRow transaction { view with cancelled := later }).value
      = wallet.rowKnowing transaction view
          (other.classify transaction later).value
          (other.spentMark transaction view.layout).value
          (other.rewardedSpender transaction view.layout later).value := rfl
    _ = wallet.rowKnowing transaction view
          (wallet.classify transaction view.cancelled).value
          (wallet.spentMark transaction view.layout).value
          (wallet.rewardedSpender transaction view.layout
            view.cancelled).value := by rw [status, marked, rewarded]
    _ = (wallet.formatRow transaction view).value := rfl

end OtherAnswers

/-! ## Lookups that fail -/

/-- Statuses and rows are those of the wallet that never fails.  For a wallet
that leaves a request to stop to the general way of asking, a request to stop
makes them those of the wallet without spenders, whatever it knows; the mark of
a spent ticket does not depend on a request to stop. -/
theorem failed_lookups_find_nothing (wallet : Wallet)
    (transaction : Transaction) :
    (∀ cancelled,
      (wallet.neverFailing.classify transaction cancelled).value =
        (wallet.classify transaction cancelled).value) ∧
    (∀ view,
      (wallet.neverFailing.formatRow transaction view).value =
        (wallet.formatRow transaction view).value) ∧
    (wallet.spenderUnless = askUnlessCancelled wallet.spender →
      ∀ cancelled,
        (wallet.classify transaction true).value =
          (wallet.withoutSpenders.classify transaction cancelled).value ∧
        ∀ view : View,
          (wallet.formatRow transaction { view with cancelled := true }).value =
            (wallet.withoutSpenders.formatRow transaction
              { view with cancelled := cancelled }).value) ∧
    (∀ (view : View) cancelled,
      (wallet.formatRow transaction
          { view with cancelled := cancelled }).value.votedOrRevoked =
        (wallet.formatRow transaction view).value.votedOrRevoked) := by
  refine ⟨?_, ?_, ?_, ?_⟩
  · intro cancelled
    exact value_classify_withLookups rfl
  · intro view
    exact value_formatRow_withLookups rfl rfl
  · intro general cancelled
    have stopped : findings none (.ok none) =
        findings none (wallet.spenderUnless transaction.hash true) := by
      rw [general]
      rfl
    refine ⟨(value_classify_withLookups stopped).symm, ?_⟩
    intro view
    let stop : View := { view with cancelled := true }
    have rows : (wallet.withoutSpenders.formatRow transaction
        { stop with cancelled := cancelled }).value =
          (wallet.formatRow transaction stop).value :=
      value_formatRow_withLookups stopped rfl
    exact rows.symm
  · intro view cancelled
    rfl

/-- A ticket that a vote spent shows that vote and its reward.  If the caller has
requested to stop it shows neither, as for a wallet that knows of no spender; and
where only the lookup of the mark fails, the mark alone is missing. -/
theorem failed_lookups_find_nothing_of_voted_ticket :
    let ticket : Transaction := { hash := "t", purpose := .ticketPurchase }
    let voted : Wallet :=
      { name := "w", asset := .dcr, bestHeight := 9, required := 2
        matchesFilter := fun _ filter => filter = .staking
        spender := fun _ => .ok (some { purpose := .vote, voteReward := 1 })
        hasVotedOrRevoked := fun hash => .error (.notFound "ticket" hash) }
    let row (wallet : Wallet) (cancelled : Bool) : Row :=
      (wallet.formatRow ticket { now := 60, cancelled := cancelled }).value
    voted.spenderUnless = askUnlessCancelled voted.spender ∧
      (row voted false).status = .voted ∧
      (row voted false).voteReward.isSome ∧
      row voted false = row voted.neverFailing false ∧
      (row voted true).status = .ofDirection ticket.direction ∧
      row voted true = row voted.withoutSpenders false := by
  intro ticket voted row
  obtain ⟨-, rows, stopped, -⟩ := failed_lookups_find_nothing voted ticket
  exact ⟨rfl, rfl, rfl, (rows { now := 60, cancelled := false }).symm, rfl,
    (stopped rfl false).2 { now := 60, cancelled := false }⟩

end Wallet

end WalletRows
