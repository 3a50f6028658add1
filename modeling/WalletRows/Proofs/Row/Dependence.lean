import WalletRows.Row.Format

/-!
# What a row depends on

A view has five parts besides the wallet and the transaction.  If two views
differ in one part only, their rows are equal but for a few fields.  The fields
that a part may change are read off the functions that make them; what is left
to show here is where even these stay the same.
-/

namespace WalletRows

namespace Wallet

variable {wallet : Wallet} {transaction : Transaction}

/-! ## Where a text stays the same -/

theorem headline_of_regular (regular : transaction.purpose = .regular)
    (locale other : Locale) (status shown : Status) :
    wallet.headline transaction locale status =
      wallet.headline transaction other shown := by
  rw [headline, if_pos regular, headline, if_pos regular]

theorem isSome_daysHint (transaction : Transaction) (locale other : Locale)
    (layout : Layout) :
    (daysHint transaction locale layout).isSome =
      (daysHint transaction other layout).isSome := by
  unfold daysHint
  split <;> rfl

theorem isSome_stakingDuration (wallet : Wallet) (transaction : Transaction)
    (locale other : Locale) (layout : Layout) (now : Int) :
    (wallet.stakingDuration transaction locale layout now).isSome =
      (wallet.stakingDuration transaction other layout now).isSome := by
  unfold stakingDuration
  split <;> rfl

/-- Only a label that shows a time depends on the zone. -/
theorem statusLabel_of_not_confirmed {confirmation : Confirmation}
    (waiting : confirmation ≠ .confirmed) (transaction : Transaction)
    (locale : Locale) (zone other : Zone) :
    statusLabel transaction locale zone confirmation =
      statusLabel transaction locale other confirmation := by
  cases confirmation with
  | unconfirmed => rfl
  | pending confirmations required => rfl
  | confirmed => exact absurd rfl waiting

/-- Only the status of a ticket is looked up. -/
theorem classify_of_not_ticket (other : transaction.purpose ≠ .ticketPurchase)
    (cancelled later : Bool) :
    wallet.classify transaction cancelled =
      wallet.classify transaction later := by
  unfold classify
  cases purpose : transaction.purpose with
  | ticketPurchase => exact absurd purpose other
  | regular | mixed | vote | revocation => rfl

/-! ## What the transactions page leaves out -/

section TransactionsPage

theorem showsMix_transactionsPage (transaction : Transaction) :
    showsMix transaction .transactionsPage = false := by
  simp [showsMix]

theorem asksAboutTicket_transactionsPage (wallet : Wallet) :
    wallet.asksAboutTicket .transactionsPage = false := by
  simp [asksAboutTicket]

/-- A row of the transactions page shows no name, no further amount, no mix, and
nothing about how a ticket was spent or how long ago it was bought. -/
structure LeavesOut (row : Row) : Prop where
  walletName : row.walletName = none
  secondaryAmount : row.secondaryAmount = none
  mixDenomination : row.mixDenomination = none
  mixCount : row.mixCount = none
  voteReward : row.voteReward = none
  stakingDuration : row.stakingDuration = none
  votedOrRevoked : row.votedOrRevoked = false

theorem leavesOut_formatRow (wallet : Wallet) (transaction : Transaction)
    {view : View} (page : view.layout = .transactionsPage) :
    LeavesOut (wallet.formatRow transaction view).value := by
  have noMix := showsMix_transactionsPage transaction
  have noTicket := asksAboutTicket_transactionsPage wallet
  constructor
  · change wallet.shownName view.layout = none
    simp [shownName, page]
  · change wallet.secondaryAmount transaction view.layout = none
    simp [secondaryAmount, page]
  · change wallet.mixDenomination transaction view.layout = none
    simp [mixDenomination, page, noMix]
  · change mixCount transaction view.layout = none
    simp [mixCount, page, noMix]
  · change Option.map _ (wallet.rewardedSpender transaction view.layout
      view.cancelled).value = none
    simp [rewardedSpender, page, noTicket]
  · change wallet.stakingDuration transaction view.locale view.layout
      view.now = none
    simp [stakingDuration, page]
  · change (wallet.spentMark transaction view.layout).value = false
    simp [spentMark, page, noTicket]

end TransactionsPage

/-! ## Rows of views that differ in one part -/

/-- The fields of a row that no layout changes. -/
structure AgreeAcrossLayouts (row other : Row) : Prop where
  hash : other.hash = row.hash
  status : other.status = row.status
  headline : other.headline = row.headline
  assetIcon : other.assetIcon = row.assetIcon
  confirmations : other.confirmations = row.confirmations
  confirmation : other.confirmation = row.confirmation
  statusLabel : other.statusLabel = row.statusLabel
  statusLabelColor : other.statusLabelColor = row.statusLabelColor

/-- Rows of views that differ in one part are equal but for the fields given
here.  The time changes how long ago a ticket was bought.  The zone changes the
label of a confirmed transaction.  The locale changes texts, and never whether
there is one.  A request to stop changes what is looked up about a ticket.  The
layout changes what is left out. -/
theorem formatRow_dependence (wallet : Wallet) (transaction : Transaction)
    (view : View) :
    let row (view : View) : Row := (wallet.formatRow transaction view).value
    (∀ now, let other := row { view with now := now }
      other =
        { row view with stakingDuration := other.stakingDuration }) ∧
    (∀ zone, let other := row { view with offset := zone }
      other = { row view with statusLabel := other.statusLabel } ∧
      ((row view).confirmation ≠ .confirmed → other = row view)) ∧
    (∀ locale, let other := row { view with locale := locale }
      other =
        { row view with
          headline := other.headline
          daysHint := other.daysHint
          stakingDuration := other.stakingDuration
          statusLabel := other.statusLabel } ∧
      (transaction.purpose = .regular →
        other.headline = (row view).headline) ∧
      other.daysHint.isSome = (row view).daysHint.isSome ∧
      other.stakingDuration.isSome = (row view).stakingDuration.isSome) ∧
    (∀ cancelled, let other := row { view with cancelled := cancelled }
      other =
        { row view with
          status := other.status
          headline := other.headline
          voteReward := other.voteReward } ∧
      (transaction.purpose = .regular →
        other.headline = (row view).headline) ∧
      (transaction.purpose ≠ .ticketPurchase →
        other = { row view with voteReward := other.voteReward })) ∧
    (∀ layout, let other := row { view with layout := layout }
      AgreeAcrossLayouts (row view) other ∧
      (view.layout = .transactionsPage → LeavesOut (row view)) ∧
      (layout = .transactionsPage → LeavesOut other)) := by
  intro row
  refine ⟨?_, ?_, ?_, ?_, ?_⟩
  · intro now
    rfl
  · intro zone
    refine ⟨rfl, ?_⟩
    intro waiting
    have label := statusLabel_of_not_confirmed waiting transaction view.locale
      zone view.offset
    exact congrArg (fun text => { row view with statusLabel := text }) label
  · intro locale
    refine ⟨rfl, ?_, ?_, ?_⟩
    · intro regular
      exact headline_of_regular regular _ _ _ _
    · exact isSome_daysHint _ _ _ _
    · exact isSome_stakingDuration _ _ _ _ _ _
  · intro cancelled
    refine ⟨rfl, ?_, ?_⟩
    · intro regular
      exact headline_of_regular regular _ _ _ _
    · intro notTicket
      have same : wallet.classify transaction cancelled =
          wallet.classify transaction view.cancelled :=
        classify_of_not_ticket notTicket _ _
      let shown (status : Status) : Row :=
        { row view with
          status := status
          headline := wallet.headline transaction view.locale status
          voteReward := (row { view with cancelled := cancelled }).voteReward }
      exact congrArg (fun known => shown known.value) same
  · intro layout
    refine ⟨?_, ?_, ?_⟩
    · exact ⟨rfl, rfl, rfl, rfl, rfl, rfl, rfl, rfl⟩
    · intro page
      exact leavesOut_formatRow wallet transaction page
    · intro page
      exact leavesOut_formatRow wallet transaction page

/-- A wallet may call an unmined transfer a staking transaction and know what
spent it; then a request to stop takes the reward away and nothing else. -/
theorem formatRow_dependence_unmined :
    let wallet : Wallet :=
      { name := "w", asset := .dcr, bestHeight := 9, required := 2
        matchesFilter := fun _ filter => filter = .staking
        spender := fun _ => .ok (some { purpose := .vote }) }
    let transaction : Transaction := { hash := "t", blockHeight := -1 }
    let view : View := { now := 60 }
    let row (view : View) : Row := (wallet.formatRow transaction view).value
    let silent : Locale := { replaced := fun _ => some "" }
    row { view with offset := .fixed 3600 } = row view ∧
      (row { view with locale := silent }).headline = (row view).headline ∧
      row { view with cancelled := true } = { row view with voteReward := none } ∧
      (row view).voteReward.isSome ∧
      LeavesOut (row { view with layout := .transactionsPage }) := by
  intro wallet transaction view row silent
  obtain ⟨-, zone, locale, cancelled, layout⟩ :=
    formatRow_dependence wallet transaction view
  have waiting : (row view).confirmation ≠ .confirmed := by decide
  exact ⟨(zone (.fixed 3600)).2 waiting, (locale silent).2.1 rfl,
    (cancelled true).2.2 (by decide), rfl, (layout .transactionsPage).2.2 rfl⟩

end Wallet

end WalletRows
