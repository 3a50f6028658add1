import WalletRows.Overview
import WalletRows.Proofs.Snapshot.Tickets

/-!
# Counting tickets

A tally counts one status after the other.  One step adds one to the number of
its ticket status and to no other, so a tally has of each ticket status as many
as there are in the list, in whatever order, and tallies of parts add up.  For a
snapshot the numbers are those of the records of its tickets.
-/

namespace WalletRows

theorem Logged.value_mapList {α β : Type} (function : α → Logged β)
    (elements : List α) :
    (Logged.mapList function elements).value =
      elements.map fun element => (function element).value := by
  induction elements with
  | nil => rfl
  | cons element elements ih => rw [List.map_cons, ← ih, Logged.mapList]

/-- Where something is found or not, a test that holds of what is not found is
passed by those and by the found ones that pass it. -/
theorem countP_all {α β : Type} (found : α → Option β) (kind : β → Bool)
    (elements : List α) :
    elements.countP (fun element => (found element).all kind) =
      elements.countP (fun element => (found element).isNone) +
        elements.countP fun element => (found element).any kind := by
  induction elements with
  | nil => rfl
  | cons element elements ih =>
      simp only [List.countP_cons, ih]
      cases found element <;> simp <;> omega

namespace Overview

variable {overview other : Overview}

def number (overview : Overview) : TicketStatus → Nat
  | .unmined => overview.unmined
  | .immature => overview.immature
  | .live => overview.live
  | .expired => overview.expired
  | .votedOrRevoked => overview.votedOrRevoked
  | .none => 0

theorem ext_number
    (same : ∀ status ≠ .none, overview.number status = other.number status) :
    overview = other := by
  cases overview
  cases other
  simp only [mk.injEq]
  exact ⟨same .unmined (by decide), same .immature (by decide),
    same .live (by decide), same .expired (by decide),
    same .votedOrRevoked (by decide)⟩

theorem number_count {counted status : TicketStatus} (proper : status ≠ .none) :
    (overview.count counted).number status =
      overview.number status + if counted = status then 1 else 0 := by
  cases counted <;> cases status <;> simp_all [count, number]

theorem total_count (overview : Overview) (counted : TicketStatus) :
    (overview.count counted).total + (if counted = .none then 1 else 0) =
      overview.total + 1 := by
  cases counted <;> simp [count, total] <;> omega

theorem number_foldl_count {status : TicketStatus} (proper : status ≠ .none)
    (overview : Overview) (statuses : List Status) :
    (statuses.foldl (fun overview status => overview.count status.ticket)
        overview).number status =
      overview.number status + statuses.countP (·.ticket = status) := by
  -- What was counted so far only adds to what is left to count.
  induction statuses generalizing overview with
  | nil => simp
  | cons first statuses ih =>
      rw [List.foldl_cons, ih, number_count proper, List.countP_cons]
      simp only [decide_eq_true_eq]
      omega

theorem number_tally {status : TicketStatus} (proper : status ≠ .none)
    (statuses : List Status) :
    (tally statuses).number status = statuses.countP (·.ticket = status) := by
  have counted := number_foldl_count proper {} statuses
  have start : number {} status = 0 := by cases status <;> rfl
  rwa [start, Nat.zero_add] at counted

theorem total_foldl_count (overview : Overview) (statuses : List Status) :
    (statuses.foldl (fun overview status => overview.count status.ticket)
        overview).total + statuses.countP (·.ticket = .none) =
      overview.total + statuses.length := by
  induction statuses generalizing overview with
  | nil => simp
  | cons first statuses ih =>
      have step := total_count overview first.ticket
      have later := ih (overview.count first.ticket)
      simp only [List.foldl_cons, List.countP_cons, List.length_cons,
        decide_eq_true_eq]
      omega

/-- Every status is counted once, unless it is that of no ticket. -/
theorem total_tally (statuses : List Status) :
    (tally statuses).total + statuses.countP (·.ticket = .none) =
      statuses.length := by
  have counted := total_foldl_count {} statuses
  have start : total {} = 0 := rfl
  rwa [start, Nat.zero_add] at counted

/-- Overviews are added number by number. -/
instance : Add Overview where
  add first second :=
    { unmined := first.unmined + second.unmined
      immature := first.immature + second.immature
      live := first.live + second.live
      expired := first.expired + second.expired
      votedOrRevoked := first.votedOrRevoked + second.votedOrRevoked }

theorem number_add (first second : Overview) (status : TicketStatus) :
    (first + second).number status =
      first.number status + second.number status := by
  cases status <;> rfl

theorem tally_append (first second : List Status) :
    tally (first ++ second) = tally first + tally second := by
  refine ext_number fun status proper => ?_
  rw [number_add, number_tally proper, number_tally proper, number_tally proper,
    List.countP_append]

theorem tally_perm {statuses others : List Status}
    (order : statuses.Perm others) : tally statuses = tally others := by
  refine ext_number fun status proper => ?_
  rw [number_tally proper, number_tally proper, order.countP_eq]

end Overview

/-! ## Tickets of a snapshot -/

namespace Snapshot

def purchases (snapshot : Snapshot) : List Transaction :=
  snapshot.transactions.filter (·.purpose = .ticketPurchase)

/-- How many ticket purchases have a record of a kind. -/
def recorded (snapshot : Snapshot) (kind : StakingRecord → Bool) : Nat :=
  snapshot.purchases.countP fun ticket =>
    (snapshot.record? ticket.hash).any kind

/-- An overview has the numbers of the ticket purchases of a snapshot. -/
structure CountsTickets (snapshot : Snapshot) (overview : Overview) : Prop where
  unmined : overview.unmined =
    snapshot.recorded fun record => record.stage = some .unmined
  immature : overview.immature =
    snapshot.recorded fun record => record.stage = some .immature
  live : overview.live =
    snapshot.recorded fun record => record.stage = some .live
  expired : overview.expired =
    snapshot.recorded fun record => record.stage = some .expired
  votedOrRevoked : overview.votedOrRevoked =
    if snapshot.lookupError.isSome then 0
    else snapshot.recorded fun record =>
      record.lifeStage.isNone && record.spender.isSome
  /-- Only tickets without a record, and those with neither a stage nor a spender
  that is answered, are left out. -/
  total : overview.total +
      snapshot.purchases.countP (fun ticket =>
        (snapshot.record? ticket.hash).isNone) +
      snapshot.recorded (fun record => record.lifeStage.isNone &&
        (record.spender.isNone || snapshot.lookupError.isSome)) =
    snapshot.purchases.length

variable {snapshot : Snapshot}

theorem value_overview (snapshot : Snapshot) :
    (snapshot.wallet.overview snapshot.transactions).value =
      .tally (snapshot.purchases.map fun ticket =>
        (snapshot.wallet.classify ticket false).value) :=
  congrArg Overview.tally (Logged.value_mapList _ snapshot.purchases)

theorem ticket_of_purchase {ticket : Transaction}
    (member : ticket ∈ snapshot.purchases) :
    (snapshot.wallet.classify ticket false).value.ticket =
      ((snapshot.record? ticket.hash).map
        (·.ticket (snapshot.answers false))).getD .none := by
  have purchase : ticket.purpose = .ticketPurchase := by
    simpa using (List.mem_filter.mp member).2
  simp [ticket_value_classify, purchase]

theorem number_overview {status : TicketStatus} (proper : status ≠ .none) :
    (snapshot.wallet.overview snapshot.transactions).value.number status =
      snapshot.recorded fun record =>
        record.ticket (snapshot.answers false) = status := by
  rw [value_overview, Overview.number_tally proper, List.countP_map]
  refine List.countP_congr fun ticket member => ?_
  simp only [Function.comp_apply, ticket_of_purchase member]
  cases snapshot.record? ticket.hash <;> simp [proper.symm]

theorem total_overview (snapshot : Snapshot) :
    (snapshot.wallet.overview snapshot.transactions).value.total +
        (snapshot.purchases.countP (fun ticket =>
          (snapshot.record? ticket.hash).isNone) +
        snapshot.recorded fun record =>
          record.ticket (snapshot.answers false) = .none) =
      snapshot.purchases.length := by
  have counted := Overview.total_tally (snapshot.purchases.map fun ticket =>
    (snapshot.wallet.classify ticket false).value)
  rw [← value_overview, List.length_map, List.countP_map] at counted
  -- A ticket is left out if it has no record, or one that gives no status.
  rw [← counted, recorded, ← countP_all]
  congr 1
  refine List.countP_congr fun ticket member => ?_
  simp only [Function.comp_apply, ticket_of_purchase member]
  cases snapshot.record? ticket.hash <;> simp

theorem recorded_congr {kind other : StakingRecord → Bool}
    (same : ∀ record, kind record = true ↔ other record = true) :
    snapshot.recorded kind = snapshot.recorded other :=
  congrArg snapshot.recorded (funext fun record => Bool.eq_iff_iff.mpr (same record))

theorem number_of_stage (stage : Filter) (status : TicketStatus)
    (known : (Status.ofStage? stage).map Status.ticket = some status)
    (proper : status ≠ .none) :
    (snapshot.wallet.overview snapshot.transactions).value.number status =
      snapshot.recorded fun record => record.stage = some stage := by
  rw [number_overview proper]
  refine recorded_congr fun record => ?_
  simpa using StakingRecord.ticket_eq_stage_iff known

theorem countsTickets (snapshot : Snapshot) :
    snapshot.CountsTickets
      (snapshot.wallet.overview snapshot.transactions).value where
  unmined := number_of_stage .unmined .unmined rfl (by decide)
  immature := number_of_stage .immature .immature rfl (by decide)
  live := number_of_stage .live .live rfl (by decide)
  expired := number_of_stage .expired .expired rfl (by decide)
  votedOrRevoked := by
    have proper : TicketStatus.votedOrRevoked ≠ .none := by decide
    refine (number_overview proper).trans ?_
    cases fails : snapshot.lookupError with
    | some message =>
        -- No test of a record passes, so none is counted.
        refine List.countP_eq_zero.mpr fun ticket _ => ?_
        cases snapshot.record? ticket.hash <;>
          simp [StakingRecord.ticket_eq_votedOrRevoked_iff, answers, fails]
    | none =>
        refine recorded_congr fun record => ?_
        simp [StakingRecord.ticket_eq_votedOrRevoked_iff, answers, fails]
  total := by
    rw [Nat.add_assoc, ← total_overview snapshot]
    congr 2
    refine recorded_congr fun record => ?_
    cases fails : snapshot.lookupError <;>
      simp [StakingRecord.ticket_eq_none_iff, answers, fails]

end Snapshot

/-- The overview of every snapshot has the numbers of its tickets, in whatever
order the transactions are, and tallies of parts add up. -/
theorem overview_counts_tickets :
    (∀ snapshot : Snapshot, snapshot.CountsTickets
      (snapshot.wallet.overview snapshot.transactions).value) ∧
    (∀ (snapshot : Snapshot) (others : List Transaction),
      others.Perm snapshot.transactions →
        let other := { snapshot with transactions := others }
        (other.wallet.overview other.transactions).value =
          (snapshot.wallet.overview snapshot.transactions).value) ∧
    (∀ first second : List Status, Overview.tally (first ++ second) =
      Overview.tally first + Overview.tally second) := by
  refine ⟨Snapshot.countsTickets, ?_, Overview.tally_append⟩
  intro snapshot others order other
  rw [Snapshot.value_overview, Snapshot.value_overview]
  exact Overview.tally_perm ((order.filter _).map _)

/-- A ticket that is listed twice counts twice, a record that names no stage in
life counts by its spender, and a ticket without a record does not count. -/
theorem overview_counts_tickets_of_each_kind :
    let ticket (hash : String) : Transaction :=
      { hash := hash, purpose := .ticketPurchase }
    let snapshot : Snapshot :=
      { transactions := [ticket "a", ticket "b", ticket "a", ticket "c", {}]
        staking := Registry.ofList [("a", { stage := some .live }),
          ("b", { stage := some .voted, spender := some { purpose := .vote } })] }
    let reversed := { snapshot with transactions := snapshot.transactions.reverse }
    snapshot.CountsTickets { live := 2, votedOrRevoked := 1 } ∧
      (reversed.wallet.overview reversed.transactions).value =
        { live := 2, votedOrRevoked := 1 } := by
  intro ticket snapshot reversed
  have counted : (snapshot.wallet.overview snapshot.transactions).value =
      { live := 2, votedOrRevoked := 1 } := by
    decide +kernel
  have laws := overview_counts_tickets
  rw [← counted]
  exact ⟨laws.1 snapshot, laws.2.1 snapshot _ (List.reverse_perm _)⟩

end WalletRows
