import WalletRows.Proofs.Snapshot.Tickets
import WalletRows.Proofs.Status.Priority

/-!
# Rows of a snapshot

A compact row asks three times about the spender of its ticket: for the status,
for the mark and for the reward.  The status asks only about tickets in none of
the four stages, the mark is not stopped by a request to stop, and the mark and
the reward are asked only where the asset has staking.  Here the three answers
are traced back to one record.
-/

namespace WalletRows

variable {snapshot : Snapshot} {hash : String} {spender : Transaction}
variable {transaction : Transaction} {view : View}

namespace Snapshot

/-- The record of a hash names a spender, and the lookups do not fail. -/
def Spent (snapshot : Snapshot) (hash : String) (spender : Transaction) : Prop :=
  snapshot.lookupError = none ∧ ∃ record, snapshot.record? hash = some record ∧
    record.spender = some spender

theorem findings_spenderUnless_eq_some_iff {cancelled : Bool} :
    findings none (snapshot.wallet.spenderUnless hash cancelled) = some spender ↔
      cancelled = false ∧ snapshot.Spent hash spender := by
  rw [findings_spenderUnless, answers, Spent]
  cases cancelled <;> cases snapshot.lookupError <;>
    simp [Option.bind_eq_some_iff]

theorem findings_hasVotedOrRevoked_iff :
    findings false (snapshot.wallet.hasVotedOrRevoked hash) = true ↔
      ∃ spender, snapshot.Spent hash spender := by
  have same : findings false (snapshot.wallet.hasVotedOrRevoked hash) =
      (findings none (snapshot.wallet.spenderUnless hash false)).isSome := by
    rw [findings_hasVotedOrRevoked, findings_spenderUnless]
    split <;> simp [*]
  rw [same, Option.isSome_iff_exists]
  simp [findings_spenderUnless_eq_some_iff]

/-! ## The fields that ask about a ticket -/

theorem votedOrRevoked_iff (asks : snapshot.wallet.asksAboutTicket view.layout) :
    (snapshot.wallet.formatRow transaction view).value.votedOrRevoked = true ↔
      ∃ spender, snapshot.Spent transaction.hash spender := by
  have marked : (snapshot.wallet.formatRow transaction view).value.votedOrRevoked =
      (snapshot.wallet.spentMark transaction view.layout).value := rfl
  rw [marked, Wallet.spentMark, if_pos asks, value_answerOr]
  exact findings_hasVotedOrRevoked_iff

theorem voteReward_eq_some_iff
    (asks : snapshot.wallet.asksAboutTicket view.layout) {reward : String} :
    (snapshot.wallet.formatRow transaction view).value.voteReward = some reward ↔
      view.cancelled = false ∧ ∃ spender, snapshot.Spent transaction.hash spender ∧
        snapshot.wallet.rewardText spender.voteReward = reward := by
  have rewarded : (snapshot.wallet.formatRow transaction view).value.voteReward =
      (snapshot.wallet.rewardedSpender transaction view.layout
        view.cancelled).value.map fun spender =>
          snapshot.wallet.rewardText spender.voteReward := rfl
  rw [rewarded, Wallet.rewardedSpender, if_pos asks, value_answerOr]
  simp only [Option.map_eq_some_iff, findings_spenderUnless_eq_some_iff]
  constructor
  · rintro ⟨spender, ⟨running, spent⟩, same⟩
    exact ⟨running, spender, spent, same⟩
  · rintro ⟨running, spender, spent, same⟩
    exact ⟨spender, ⟨running, spent⟩, same⟩

/-- A row has a duration wherever a compact list has a record to show. -/
theorem isSome_stakingDuration_iff :
    (snapshot.wallet.formatRow transaction view).value.stakingDuration.isSome ↔
      view.layout = .overview ∧ (snapshot.record? transaction.hash).isSome := by
  have duration :
      (snapshot.wallet.formatRow transaction view).value.stakingDuration =
        snapshot.wallet.stakingDuration transaction view.locale view.layout
          view.now := rfl
  have staking : snapshot.wallet.matchesFilter transaction .staking =
      (snapshot.record? transaction.hash).isSome := rfl
  rw [duration, Wallet.stakingDuration, staking]
  split <;> simp_all

/-- Only a ticket of which the lookup finds a spender is titled by it. -/
theorem exists_spent_of_title {cancelled : Bool}
    (titled : (snapshot.wallet.classify transaction cancelled).value.title = .voted ∨
      (snapshot.wallet.classify transaction cancelled).value.title = .revoked) :
    cancelled = false ∧ ∃ spender, snapshot.Spent transaction.hash spender ∧
      ((snapshot.wallet.classify transaction cancelled).value.title = .voted ↔
        spender.purpose = .vote) := by
  obtain ⟨standing, stands⟩ :=
    Wallet.exists_stands snapshot.wallet transaction cancelled
  have title : (snapshot.wallet.classify transaction cancelled).value.title =
      standing.title := congrArg Status.title stands.classify_eq
  have found : ∀ spender, snapshot.wallet.spenderUnless transaction.hash
      cancelled = .ok (some spender) →
        cancelled = false ∧ snapshot.Spent transaction.hash spender := by
    intro spender answer
    rw [← findings_spenderUnless_eq_some_iff, answer]
    rfl
  -- Two lines of the table have such a title, and both hold the answer.
  rw [title] at titled ⊢
  cases stands with
  | voted spender ticket past answer vote =>
      obtain ⟨running, spent⟩ := found spender answer
      exact ⟨running, spender, spent, by simp [Standing.title, vote]⟩
  | revoked spender ticket past answer other =>
      obtain ⟨running, spent⟩ := found spender answer
      exact ⟨running, spender, spent, by simp [Standing.title, other]⟩
  | directed | unspent | unanswered =>
      cases direction : transaction.direction <;>
        simp [Standing.title, direction] at titled
  | _ => simp [Standing.title] at titled

theorem status_of_spent (purchase : transaction.purpose = .ticketPurchase)
    (spent : snapshot.Spent transaction.hash spender) :
    ∃ record, snapshot.record? transaction.hash = some record ∧
      match record.lifeStage with
      | some stage => Status.ofStage? stage =
          some (snapshot.wallet.classify transaction false).value
      | none => (snapshot.wallet.classify transaction false).value =
          .ofSpender spender := by
  obtain ⟨answers, record, found, named⟩ := spent
  refine ⟨record, found, ?_⟩
  rw [value_classify_ticket purchase, found, Option.bind_some,
    StakingRecord.knownStatus]
  cases staged : record.lifeStage with
  | none => simp [Snapshot.answers, answers, named]
  | some stage =>
      obtain ⟨status, known, -⟩ := StakingRecord.ticket_of_lifeStage staged true
      simp [known]

theorem title_ofSpender (spender : Transaction) :
    (Status.ofSpender spender).title = .voted ∨
      (Status.ofSpender spender).title = .revoked := by
  cases purpose : spender.purpose <;> simp only [Status.ofSpender, purpose] <;>
    simp [Status.voted, Status.votedTitled, Status.revoked, Status.revokedTitled]

/-! ## Agreement -/

/-- The mark, the reward and the status of a row agree about the spender that a
snapshot has for its transaction. -/
structure AgreesOn (snapshot : Snapshot) (transaction : Transaction) (row : Row) :
    Prop where
  rewarded : row.votedOrRevoked = true ↔ row.voteReward.isSome
  spent : row.votedOrRevoked = true ↔
    ∃ spender, snapshot.Spent transaction.hash spender
  reward : ∀ spender, snapshot.Spent transaction.hash spender →
    row.voteReward = some (snapshot.wallet.rewardText spender.voteReward)
  titled : row.status.title = .voted ∨ row.status.title = .revoked →
    row.votedOrRevoked = true ∧ row.voteReward.isSome ∧
      ∃ spender, snapshot.Spent transaction.hash spender ∧
        (row.status.title = .voted ↔ spender.purpose = .vote)
  /-- A marked ticket is titled by its spender unless its record names one of the
  four stages, whose status it keeps. -/
  marked : transaction.purpose = .ticketPurchase → row.votedOrRevoked = true →
    ∃ record, snapshot.record? transaction.hash = some record ∧
      match record.lifeStage with
      | some stage => Status.ofStage? stage = some row.status
      | none => row.status.title = .voted ∨ row.status.title = .revoked

theorem status_formatRow (running : view.cancelled = false) :
    (snapshot.wallet.formatRow transaction view).value.status =
      (snapshot.wallet.classify transaction false).value := by
  rw [← running]
  rfl

theorem agreesOn_formatRow
    (asks : snapshot.wallet.asksAboutTicket view.layout)
    (running : view.cancelled = false) :
    snapshot.AgreesOn transaction
      (snapshot.wallet.formatRow transaction view).value where
  rewarded := by
    rw [votedOrRevoked_iff asks, Option.isSome_iff_exists]
    constructor
    · rintro ⟨spender, spent⟩
      exact ⟨_, (voteReward_eq_some_iff asks).mpr
        ⟨running, spender, spent, rfl⟩⟩
    · rintro ⟨text, rewarded⟩
      obtain ⟨-, spender, spent, -⟩ := (voteReward_eq_some_iff asks).mp rewarded
      exact ⟨spender, spent⟩
  spent := votedOrRevoked_iff asks
  reward := fun spender spent =>
    (voteReward_eq_some_iff asks).mpr ⟨running, spender, spent, rfl⟩
  titled := by
    rw [status_formatRow running]
    intro titled
    obtain ⟨-, spender, spent, vote⟩ := exists_spent_of_title titled
    have reward := (voteReward_eq_some_iff asks).mpr
      ⟨running, spender, spent, rfl⟩
    exact ⟨(votedOrRevoked_iff asks).mpr ⟨spender, spent⟩,
      Option.isSome_of_eq_some reward, spender, spent, vote⟩
  marked := by
    rw [status_formatRow running, votedOrRevoked_iff asks]
    rintro purchase ⟨spender, spent⟩
    obtain ⟨record, found, known⟩ := status_of_spent purchase spent
    refine ⟨record, found, ?_⟩
    cases staged : record.lifeStage with
    | some stage => simpa only [staged] using known
    | none =>
        simp only [staged] at known
        rw [known]
        exact title_ofSpender spender

end Snapshot

/-- In a compact row of an asset with staking, the mark, the reward and the
status agree.  A request to stop leaves the mark as it is, takes the reward away
and lets no transaction be titled by a spender. -/
theorem compact_rows_agree (snapshot : Snapshot) (staking : snapshot.asset = .dcr)
    (transaction : Transaction) (view : View)
    (compact : view.layout = .overview) :
    let row (cancelled : Bool) : Row :=
      (snapshot.wallet.formatRow transaction
        { view with cancelled := cancelled }).value
    snapshot.AgreesOn transaction (row false) ∧
      (row true).votedOrRevoked = (row false).votedOrRevoked ∧
      (row true).voteReward = none ∧
      (row true).status.title ≠ .voted ∧ (row true).status.title ≠ .revoked := by
  intro row
  have asks : snapshot.wallet.asksAboutTicket view.layout := by
    have asset : snapshot.wallet.asset = .dcr := staking
    rw [Wallet.asksAboutTicket, compact, asset]
    rfl
  have untitled : ¬ ((row true).status.title = .voted ∨
      (row true).status.title = .revoked) := by
    intro titled
    obtain ⟨running, -⟩ := Snapshot.exists_spent_of_title titled
    cases running
  rw [not_or] at untitled
  refine ⟨Snapshot.agreesOn_formatRow asks rfl, rfl, ?_, untitled⟩
  refine Option.eq_none_iff_forall_ne_some.mpr fun text rewarded => ?_
  let stopped : View := { view with cancelled := true }
  have asks : snapshot.wallet.asksAboutTicket stopped.layout := asks
  obtain ⟨running, -⟩ := (Snapshot.voteReward_eq_some_iff asks).mp rewarded
  cases running

/-- A live ticket that a vote spent keeps the status of its stage beside the
mark. -/
theorem compact_rows_agree_on_live_ticket :
    let vote : Transaction := { purpose := .vote, voteReward := 5 }
    let snapshot : Snapshot :=
      { staking := Registry.ofList
          [("t", { stage := some .live, spender := some vote })] }
    let ticket : Transaction := { hash := "t", purpose := .ticketPurchase }
    let row (cancelled : Bool) : Row :=
      (snapshot.wallet.formatRow ticket
        { now := 60, cancelled := cancelled }).value
    snapshot.asset = .dcr ∧ snapshot.Spent "t" vote ∧
      (row false).status.title = .live ∧ (row false).votedOrRevoked = true ∧
      (row true).votedOrRevoked = true ∧ (row true).voteReward = none := by
  intro vote snapshot ticket row
  have spent : snapshot.Spent "t" vote := ⟨rfl, _, rfl, rfl⟩
  obtain ⟨agrees, same, unrewarded, -⟩ :=
    compact_rows_agree snapshot rfl ticket { now := 60 } rfl
  have marked : (row false).votedOrRevoked = true :=
    agrees.spent.mpr ⟨vote, spent⟩
  exact ⟨rfl, spent, rfl, marked, same.trans marked, unrewarded⟩

/-! ## Assets without staking -/

/-- A snapshot shows nothing of staking: its lookups find nothing, no status is
that of a ticket, and no row holds anything about one. -/
structure Snapshot.ShowsNoStaking (snapshot : Snapshot) : Prop where
  spender : ∀ hash spender, snapshot.wallet.spender hash ≠ .ok (some spender)
  spenderUnless : ∀ hash cancelled spender,
    snapshot.wallet.spenderUnless hash cancelled ≠ .ok (some spender)
  marked : ∀ hash, snapshot.wallet.hasVotedOrRevoked hash ≠ .ok true
  ticket : ∀ transaction cancelled,
    (snapshot.wallet.classify transaction cancelled).value.ticket = .none
  row : ∀ transaction view,
    let row := (snapshot.wallet.formatRow transaction view).value
    row.stakingDuration = none ∧ row.voteReward = none ∧
      row.votedOrRevoked = false

namespace Snapshot

theorem unmarked_of_unsupported
    (unsupported : snapshot.asset.supportsStaking = false)
    (transaction : Transaction) (view : View) :
    let row := (snapshot.wallet.formatRow transaction view).value
    row.voteReward = none ∧ row.votedOrRevoked = false := by
  intro row
  have silent : snapshot.wallet.asksAboutTicket view.layout = false := by
    have asset : snapshot.wallet.asset.supportsStaking = false := unsupported
    rw [Wallet.asksAboutTicket, asset, Bool.and_false]
  have reward : row.voteReward = (snapshot.wallet.rewardedSpender transaction
      view.layout view.cancelled).value.map fun spender =>
        snapshot.wallet.rewardText spender.voteReward := rfl
  have mark : row.votedOrRevoked =
      (snapshot.wallet.spentMark transaction view.layout).value := rfl
  rw [reward, mark, Wallet.rewardedSpender, Wallet.spentMark, silent]
  exact ⟨rfl, rfl⟩

/-- A record shows in the duration of a transaction with its hash. -/
theorem ShowsNoStaking.record?_eq_none (shows : snapshot.ShowsNoStaking)
    (hash : String) : snapshot.record? hash = none := by
  obtain ⟨duration, -⟩ := shows.row { hash := hash } { now := 0 }
  refine Option.not_isSome_iff_eq_none.mp fun recorded => ?_
  have shown : (snapshot.wallet.formatRow { hash := hash }
      { now := 0 }).value.stakingDuration.isSome :=
    isSome_stakingDuration_iff.mpr ⟨rfl, recorded⟩
  rw [duration] at shown
  cases shown

theorem showsNoStaking_of_no_records
    (unsupported : snapshot.asset.supportsStaking = false)
    (unrecorded : ∀ hash, snapshot.record? hash = none) :
    snapshot.ShowsNoStaking := by
  have unspent : ∀ hash spender, ¬ snapshot.Spent hash spender := by
    rintro hash spender ⟨-, record, found, -⟩
    rw [unrecorded hash] at found
    cases found
  have unfound : ∀ hash cancelled spender,
      snapshot.wallet.spenderUnless hash cancelled ≠ .ok (some spender) := by
    intro hash cancelled spender answer
    have found : findings none (snapshot.wallet.spenderUnless hash cancelled) =
        some spender := by
      rw [answer]
      rfl
    exact unspent hash spender
      (findings_spenderUnless_eq_some_iff.mp found).2
  refine ⟨fun hash => unfound hash false, unfound, ?_, ?_, ?_⟩
  · intro hash answer
    have found : findings false (snapshot.wallet.hasVotedOrRevoked hash) =
        true := by
      rw [answer]
      rfl
    obtain ⟨spender, spent⟩ := findings_hasVotedOrRevoked_iff.mp found
    exact unspent hash spender spent
  · intro transaction cancelled
    rw [ticket_value_classify, unrecorded]
    rfl
  · intro transaction view row
    refine ⟨Option.not_isSome_iff_eq_none.mp fun shown => ?_,
      unmarked_of_unsupported unsupported transaction view⟩
    obtain ⟨-, recorded⟩ := isSome_stakingDuration_iff.mp shown
    rw [unrecorded] at recorded
    cases recorded

end Snapshot

/-- Of the fields of a row, only the mark and the reward ask for the asset.
Everything else about staking comes from the records: a snapshot of an asset
without staking shows none exactly if it has no records. -/
theorem showsNoStaking_iff_no_records (snapshot : Snapshot)
    (unsupported : snapshot.asset.supportsStaking = false) :
    (∀ transaction view,
      let row := (snapshot.wallet.formatRow transaction view).value
      row.voteReward = none ∧ row.votedOrRevoked = false) ∧
    (snapshot.ShowsNoStaking ↔ ∀ hash, snapshot.record? hash = none) :=
  ⟨Snapshot.unmarked_of_unsupported unsupported,
    Snapshot.ShowsNoStaking.record?_eq_none,
    Snapshot.showsNoStaking_of_no_records unsupported⟩

/-- A snapshot of an asset without staking shows a live ticket that was spent,
in every part but the mark and the reward. -/
theorem unsupported_asset_shows_staking :
    let vote : Transaction := { purpose := .vote }
    let snapshot : Snapshot :=
      { asset := .btc, staking := Registry.ofList
          [("t", { stage := some .live, spender := some vote })] }
    let ticket : Transaction := { hash := "t", purpose := .ticketPurchase }
    snapshot.asset.supportsStaking = false ∧ ¬ snapshot.ShowsNoStaking ∧
      snapshot.wallet.spender "t" = .ok (some vote) ∧
      snapshot.wallet.hasVotedOrRevoked "t" = .ok true ∧
      (snapshot.wallet.classify ticket false).value.ticket = .live ∧
      (snapshot.wallet.formatRow ticket
        { now := 60 }).value.stakingDuration.isSome := by
  intro vote snapshot ticket
  exact ⟨rfl, fun shows => shows.spender "t" vote rfl, rfl, rfl, rfl, rfl⟩

/-- Without records a snapshot of an asset without staking shows none, also for a
transaction that calls itself a vote. -/
theorem showsNoStaking_of_empty_snapshot :
    let snapshot : Snapshot := { asset := .ltc, transactions := [{ purpose := .vote }] }
    snapshot.ShowsNoStaking := by
  intro snapshot
  exact (showsNoStaking_iff_no_records snapshot rfl).2.mpr fun hash => rfl

end WalletRows
