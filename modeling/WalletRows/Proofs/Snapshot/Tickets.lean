import WalletRows.Proofs.Row.FailedLookups
import WalletRows.Snapshot

/-!
# Tickets of a snapshot

The wallet of a snapshot answers everything about a ticket from the record of its
hash.  A record may name any filter as the stage, but only four of them are
stages in the life of a ticket.  What spent the ticket is found in the record as
well, unless the lookups fail or the caller has requested to stop.
-/

namespace WalletRows

namespace StakingRecord

/-- The stage in the life of the ticket that a record names. -/
def lifeStage (record : StakingRecord) : Option Filter :=
  record.stage.filter (· ∈ [.unmined, .immature, .live, .expired])

/-- The status that a record gives its ticket.  What spent the ticket counts only
if the lookup is answered. -/
def knownStatus (record : StakingRecord) (answered : Bool) : Option Status :=
  match record.lifeStage with
  | some stage => Status.ofStage? stage
  | none => if answered then record.spender.map Status.ofSpender else none

/-- The stages in the life of a ticket are those that are tried. -/
theorem lifeStage_eq_some_iff {record : StakingRecord} {stage : Filter} :
    record.lifeStage = some stage ↔
      record.stage = some stage ∧ stage ∈ Filter.ticketStages := by
  simp [lifeStage, Filter.ticketStages, Option.filter_eq_some_iff]

/-- Where a record says that its ticket is in its life.  What spent the ticket
counts only outside the four stages and if the lookup is answered. -/
def ticket (record : StakingRecord) (answered : Bool) : TicketStatus :=
  match record.stage with
  | some .unmined => .unmined
  | some .immature => .immature
  | some .live => .live
  | some .expired => .expired
  | _ => if answered && record.spender.isSome then .votedOrRevoked else .none

variable {record : StakingRecord}

theorem ticket_of_unstaged (unstaged : record.lifeStage = none)
    (answered : Bool) :
    record.ticket answered =
      if answered && record.spender.isSome then .votedOrRevoked else .none := by
  obtain ⟨stage, spender⟩ := record
  cases stage with
  | none => rfl
  | some stage =>
      cases stage with
      | unmined | immature | live | expired => cases unstaged
      | _ => rfl

theorem ticket_of_lifeStage {stage : Filter}
    (staged : record.lifeStage = some stage) (answered : Bool) :
    ∃ status, Status.ofStage? stage = some status ∧
      record.ticket answered = status.ticket ∧
      status.ticket ≠ .votedOrRevoked ∧ status.ticket ≠ .none := by
  obtain ⟨named, member⟩ := lifeStage_eq_some_iff.mp staged
  simp only [Filter.ticketStages, List.mem_cons, List.not_mem_nil, or_false]
    at member
  rcases member with rfl | rfl | rfl | rfl <;>
    exact ⟨_, rfl, by simp only [ticket, named], by decide, by decide⟩

theorem ticket_eq_stage_iff {answered : Bool} {stage : Filter}
    {status : TicketStatus}
    (known : (Status.ofStage? stage).map Status.ticket = some status) :
    record.ticket answered = status ↔ record.stage = some stage := by
  -- Only the four stages have a status, each one of its own.
  cases stage with
  | unmined | immature | live | expired =>
      cases known
      grind [ticket]
  | _ => cases known

theorem ticket_eq_votedOrRevoked_iff {answered : Bool} :
    record.ticket answered = .votedOrRevoked ↔
      record.lifeStage.isNone ∧ record.spender.isSome ∧ answered := by
  cases staged : record.lifeStage with
  | none =>
      rw [ticket_of_unstaged staged]
      cases answered <;> cases record.spender <;> simp
  | some stage =>
      obtain ⟨status, -, same, unspent, -⟩ := ticket_of_lifeStage staged answered
      simp [same, unspent]

theorem ticket_eq_none_iff {answered : Bool} :
    record.ticket answered = .none ↔
      record.lifeStage.isNone ∧ (record.spender.isNone ∨ answered = false) := by
  cases staged : record.lifeStage with
  | none =>
      rw [ticket_of_unstaged staged]
      cases answered <;> cases record.spender <;> simp
  | some stage =>
      obtain ⟨status, -, same, -, proper⟩ := ticket_of_lifeStage staged answered
      simp [same, proper]

/-- The ticket status that a record gives is the one of the status it gives. -/
theorem ticket_knownStatus (record : StakingRecord) (answered : Bool) :
    ((record.knownStatus answered).map Status.ticket).getD .none =
      record.ticket answered := by
  have spent : ∀ spender, (Status.ofSpender spender).ticket = .votedOrRevoked := by
    intro spender
    cases purpose : spender.purpose <;> simp only [Status.ofSpender, purpose] <;>
      rfl
  rw [knownStatus]
  cases staged : record.lifeStage with
  | none =>
      rw [ticket_of_unstaged staged]
      cases answered <;> cases record.spender <;> simp [spent]
  | some stage =>
      obtain ⟨status, known, same, -, -⟩ := ticket_of_lifeStage staged answered
      simp [known, same]

end StakingRecord

namespace Snapshot

variable {snapshot : Snapshot} {transaction : Transaction}

def answers (snapshot : Snapshot) (cancelled : Bool) : Bool :=
  !cancelled && snapshot.lookupError.isNone

theorem findings_spenderUnless (snapshot : Snapshot) (hash : String)
    (cancelled : Bool) :
    findings none (snapshot.wallet.spenderUnless hash cancelled) =
      if snapshot.answers cancelled then
        (snapshot.record? hash).bind StakingRecord.spender
      else
        none := by
  cases cancelled with
  | true => rfl
  | false =>
      cases fails : snapshot.lookupError <;>
        simp [wallet, askUnlessCancelled, spender, answers, fails, findings]

theorem findings_hasVotedOrRevoked (snapshot : Snapshot) (hash : String) :
    findings false (snapshot.wallet.hasVotedOrRevoked hash) =
      (snapshot.answers false &&
        ((snapshot.record? hash).bind StakingRecord.spender).isSome) := by
  cases fails : snapshot.lookupError <;>
    simp [wallet, hasVotedOrRevoked, spender, answers, fails, findings,
      Except.map]

/-- A ticket is in the stage that its record names. -/
theorem ticketStage_wallet (snapshot : Snapshot) (transaction : Transaction) :
    snapshot.wallet.ticketStage transaction =
      (snapshot.record? transaction.hash).bind StakingRecord.lifeStage := by
  cases found : snapshot.record? transaction.hash with
  | none =>
      simp [Wallet.ticketStage, Filter.ticketStages, wallet, matchesFilter,
        isInStage, found]
  | some record =>
      cases named : record.stage with
      | none =>
          simp [Wallet.ticketStage, Filter.ticketStages, wallet, matchesFilter,
            isInStage, found, named, StakingRecord.lifeStage]
      | some stage =>
          cases stage <;>
            simp [Wallet.ticketStage, Filter.ticketStages, wallet,
              matchesFilter, isInStage, found, named, StakingRecord.lifeStage,
              Option.filter]

theorem value_ticketStatus (snapshot : Snapshot) (transaction : Transaction)
    (cancelled : Bool) :
    (snapshot.wallet.ticketStatus transaction cancelled).value =
      (snapshot.record? transaction.hash).bind fun record =>
        record.knownStatus (snapshot.answers cancelled) := by
  rw [Wallet.ticketStatus, ticketStage_wallet]
  cases found : snapshot.record? transaction.hash with
  | none =>
      simp [Wallet.value_spentStatus, findings_spenderUnless, found]
  | some record =>
      rw [Option.bind_some, Option.bind_some, StakingRecord.knownStatus]
      cases record.lifeStage with
      | some stage => rfl
      | none =>
          rw [Wallet.value_spentStatus, findings_spenderUnless, found]
          split <;> rfl

/-- A ticket has the status that its record gives it, or shows its direction. -/
theorem value_classify_ticket (purchase : transaction.purpose = .ticketPurchase)
    (cancelled : Bool) :
    (snapshot.wallet.classify transaction cancelled).value =
      ((snapshot.record? transaction.hash).bind fun record =>
        record.knownStatus (snapshot.answers cancelled)).getD
          (.ofDirection transaction.direction) := by
  rw [Wallet.value_classify, value_ticketStatus, Wallet.statusKnowing, purchase]
  cases found : snapshot.record? transaction.hash <;>
    simp [wallet, matchesFilter, isStaking, found]

/-- The ticket status of a transaction is the one of its record.  A transaction
with a record that is no ticket counts as what spent one. -/
theorem ticket_value_classify (snapshot : Snapshot) (transaction : Transaction)
    (cancelled : Bool) :
    (snapshot.wallet.classify transaction cancelled).value.ticket =
      ((snapshot.record? transaction.hash).map fun record =>
        if transaction.purpose = .ticketPurchase then
          record.ticket (snapshot.answers cancelled)
        else .votedOrRevoked).getD .none := by
  have undecided : (Status.ofDirection transaction.direction).ticket = .none := by
    cases transaction.direction <;> rfl
  by_cases purchase : transaction.purpose = .ticketPurchase
  · rw [value_classify_ticket purchase]
    cases snapshot.record? transaction.hash with
    | none => exact undecided
    | some record =>
        simp only [Option.bind_some, Option.map_some, Option.getD_some, purchase,
          if_true, ← record.ticket_knownStatus]
        cases record.knownStatus (snapshot.answers cancelled) with
        | none => exact undecided
        | some status => rfl
  · rw [Wallet.value_classify, Wallet.statusKnowing]
    cases found : snapshot.record? transaction.hash <;>
      cases purpose : transaction.purpose <;>
        simp_all [wallet, matchesFilter, isStaking] <;> rfl

end Snapshot

end WalletRows
