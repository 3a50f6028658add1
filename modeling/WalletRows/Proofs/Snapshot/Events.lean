import WalletRows.Proofs.Snapshot.Tickets

/-!
# Events of the rows of a snapshot

A row notices something in three places: where the status of a ticket is looked
up, where the mark is and where the reward is, in this order and at most once in
each.  The lookups of a snapshot fail for all hashes or for none, so what one row
notices is known from its transaction and its record, and what a list of rows
notices is one such piece for each row, in the order of the rows.
-/

namespace WalletRows

theorem Logged.events_mapList {α β : Type} (function : α → Logged β)
    (elements : List α) :
    (Logged.mapList function elements).events =
      elements.flatMap fun element => (function element).events := by
  induction elements with
  | nil => rfl
  | cons element elements ih =>
      rw [List.flatMap_cons, ← ih, Logged.mapList]

namespace Snapshot

variable {snapshot : Snapshot} {transaction : Transaction} {view : View}

/-! ## Lookups that fail -/

/-- Why the lookup of a spender fails, if it does.  A request to stop comes before
the error of the snapshot. -/
def failure? (snapshot : Snapshot) (cancelled : Bool) : Option LookupError :=
  if cancelled then some .cancelled else snapshot.lookupError.map .backend

theorem isSome_failure? (snapshot : Snapshot) (cancelled : Bool) :
    (snapshot.failure? cancelled).isSome =
      (snapshot.lookupError.isSome || cancelled) := by
  cases cancelled <;> simp [failure?]

theorem spenderUnless_eq (snapshot : Snapshot) (hash : String)
    (cancelled : Bool) :
    snapshot.wallet.spenderUnless hash cancelled =
      match snapshot.failure? cancelled with
      | some error => .error error
      | none => .ok ((snapshot.record? hash).bind StakingRecord.spender) := by
  cases cancelled with
  | true => rfl
  | false =>
      cases fails : snapshot.lookupError <;>
        simp [wallet, askUnlessCancelled, spender, failure?, fails]

theorem hasVotedOrRevoked_eq (snapshot : Snapshot) (hash : String) :
    snapshot.wallet.hasVotedOrRevoked hash =
      match snapshot.failure? false with
      | some error => .error error
      | none =>
          .ok ((snapshot.record? hash).bind StakingRecord.spender).isSome := by
  cases fails : snapshot.lookupError <;>
    simp [wallet, hasVotedOrRevoked, spender, failure?, fails, Except.map]

/-- A lookup is noticed exactly if it fails. -/
theorem events_answerOr {α : Type} (nothing answer : α)
    (failed : LookupError → Event) (failure : Option LookupError) :
    (Logged.answerOr nothing failed
      (match failure with
        | some error => .error error
        | none => .ok answer)).events = (failure.map failed).toList := by
  cases failure <;> rfl

/-! ## What one row notices -/

/-- A ticket has a record that names none of the four stages. -/
def isUnstaged (snapshot : Snapshot) (transaction : Transaction) : Bool :=
  transaction.purpose = .ticketPurchase &&
    (snapshot.record? transaction.hash).any (·.lifeStage.isNone)

/-- A ticket has a record that names none of the four stages and no spender. -/
def isStray (snapshot : Snapshot) (transaction : Transaction) : Bool :=
  transaction.purpose = .ticketPurchase &&
    (snapshot.record? transaction.hash).any fun record =>
      record.lifeStage.isNone && record.spender.isNone

/-- What deciding the status of a transaction notices. -/
def statusEvent? (snapshot : Snapshot) (cancelled : Bool)
    (transaction : Transaction) : Option Event :=
  match snapshot.failure? cancelled with
  | some error =>
      if snapshot.isUnstaged transaction then
        some (.statusLookupFailed transaction.hash error)
      else
        none
  | none =>
      if snapshot.isStray transaction then some (.strayTicket transaction.hash)
      else none

def markEvent? (snapshot : Snapshot) (transaction : Transaction) :
    Option Event :=
  (snapshot.failure? false).map (.markerLookupFailed transaction.hash)

def rewardEvent? (snapshot : Snapshot) (cancelled : Bool)
    (transaction : Transaction) : Option Event :=
  (snapshot.failure? cancelled).map (.rewardLookupFailed transaction.hash)

/-- What a row notices.  Only compact rows of the asset with staking ask for the
mark and the reward. -/
def rowEvents (snapshot : Snapshot) (view : View) (transaction : Transaction) :
    List Event :=
  (snapshot.statusEvent? view.cancelled transaction).toList ++
    if snapshot.asset = .dcr ∧ view.layout = .overview then
      (snapshot.markEvent? transaction).toList ++
        (snapshot.rewardEvent? view.cancelled transaction).toList
    else
      []

theorem events_classify (snapshot : Snapshot) (transaction : Transaction)
    (cancelled : Bool) :
    (snapshot.wallet.classify transaction cancelled).events =
      (snapshot.statusEvent? cancelled transaction).toList := by
  have staking : snapshot.wallet.matchesFilter transaction .staking =
      (snapshot.record? transaction.hash).isSome := rfl
  have stage := ticketStage_wallet snapshot transaction
  have answer := spenderUnless_eq snapshot transaction.hash cancelled
  by_cases purchase : transaction.purpose = .ticketPurchase
  · cases found : snapshot.record? transaction.hash with
    | none =>
        cases fails : snapshot.failure? cancelled <;>
          simp [Wallet.classify, staking, found, purchase, statusEvent?,
            isUnstaged, isStray, fails]
    | some record =>
        rw [found, Option.bind_some] at stage answer
        cases staged : record.lifeStage with
        | some stage' =>
            cases fails : snapshot.failure? cancelled <;>
              simp [Wallet.classify, Wallet.ticketStatus, staking, found,
                purchase, stage, staged, statusEvent?, isUnstaged, isStray, fails]
        | none =>
            -- Only here the lookup is made, and its outcome decides.
            cases fails : snapshot.failure? cancelled <;>
              cases spent : record.spender <;>
                simp [Wallet.classify, Wallet.ticketStatus, Wallet.spentStatus,
                  staking, found, purchase, stage, staged, answer, fails, spent,
                  statusEvent?, isUnstaged, isStray]
  · have unasked : snapshot.statusEvent? cancelled transaction = none := by
      cases fails : snapshot.failure? cancelled <;>
        simp [statusEvent?, isUnstaged, isStray, fails, purchase]
    rw [unasked, Wallet.classify]
    split <;> cases purpose : transaction.purpose <;> simp_all

theorem asksAboutTicket_iff {layout : Layout} :
    snapshot.wallet.asksAboutTicket layout = true ↔
      snapshot.asset = .dcr ∧ layout = .overview := by
  have asset : snapshot.wallet.asset = snapshot.asset := rfl
  rw [Wallet.asksAboutTicket, asset]
  cases snapshot.asset <;> cases layout <;> decide

theorem events_formatRow (snapshot : Snapshot) (transaction : Transaction)
    (view : View) :
    (snapshot.wallet.formatRow transaction view).events =
      snapshot.rowEvents view transaction := by
  have parts : (snapshot.wallet.formatRow transaction view).events =
      (snapshot.wallet.classify transaction view.cancelled).events ++
        ((snapshot.wallet.spentMark transaction view.layout).events ++
          ((snapshot.wallet.rewardedSpender transaction view.layout
            view.cancelled).events ++ [])) := rfl
  rw [parts, events_classify, rowEvents, List.append_nil, Wallet.spentMark,
    Wallet.rewardedSpender]
  by_cases asks : snapshot.asset = .dcr ∧ view.layout = .overview
  · rw [if_pos (asksAboutTicket_iff.mpr asks),
      if_pos (asksAboutTicket_iff.mpr asks), if_pos asks, hasVotedOrRevoked_eq,
      spenderUnless_eq, events_answerOr, events_answerOr, markEvent?,
      rewardEvent?]
  · rw [if_neg fun asked => asks (asksAboutTicket_iff.mp asked),
      if_neg fun asked => asks (asksAboutTicket_iff.mp asked), if_neg asks,
      List.append_nil]

/-! ## How many events there are -/

section Counts

variable (snapshot : Snapshot) (view : View) (transaction : Transaction)

theorem countP_warn_statusEvent? (cancelled : Bool) :
    (snapshot.statusEvent? cancelled transaction).toList.countP
        (·.level = .warn) =
      if (snapshot.lookupError.isSome || cancelled) &&
        snapshot.isUnstaged transaction then 1 else 0 := by
  rw [← isSome_failure?, statusEvent?]
  cases snapshot.failure? cancelled with
  | some error =>
      cases snapshot.isUnstaged transaction <;> simp [Event.level]
  | none => cases snapshot.isStray transaction <;> simp [Event.level]

theorem countP_debug_statusEvent? (cancelled : Bool) :
    (snapshot.statusEvent? cancelled transaction).toList.countP
        (·.level = .debug) =
      if !(snapshot.lookupError.isSome || cancelled) &&
        snapshot.isStray transaction then 1 else 0 := by
  rw [← isSome_failure?, statusEvent?]
  cases snapshot.failure? cancelled with
  | some error =>
      cases snapshot.isUnstaged transaction <;> simp [Event.level]
  | none => cases snapshot.isStray transaction <;> simp [Event.level]

/-- A lookup that fails is noticed once, and nobody is warned of it. -/
theorem countP_failure? (failed : LookupError → Event)
    (level : ∀ error, (failed error).level = .debug) (cancelled : Bool) :
    ((snapshot.failure? cancelled).map failed).toList.countP
        (·.level = .warn) = 0 ∧
      ((snapshot.failure? cancelled).map failed).toList.countP
          (·.level = .debug) =
        if snapshot.lookupError.isSome || cancelled then 1 else 0 := by
  rw [← isSome_failure?]
  cases snapshot.failure? cancelled <;> simp [level]

/-- How many lookups of the mark and the reward fail in one row. -/
def failedAsides : Nat :=
  if snapshot.asset = .dcr ∧ view.layout = .overview then
    (if snapshot.lookupError.isSome then 1 else 0) +
      if snapshot.lookupError.isSome || view.cancelled then 1 else 0
  else
    0

theorem countP_warn_rowEvents :
    (snapshot.rowEvents view transaction).countP (·.level = .warn) =
      if (snapshot.lookupError.isSome || view.cancelled) &&
        snapshot.isUnstaged transaction then 1 else 0 := by
  have mark := snapshot.countP_failure?
    (.markerLookupFailed transaction.hash) (fun _ => rfl) false
  have reward := snapshot.countP_failure?
    (.rewardLookupFailed transaction.hash) (fun _ => rfl) view.cancelled
  rw [rowEvents, List.countP_append, countP_warn_statusEvent?]
  by_cases asks : snapshot.asset = .dcr ∧ view.layout = .overview
  · rw [if_pos asks, List.countP_append, markEvent?, rewardEvent?, mark.1,
      reward.1]
    rfl
  · rw [if_neg asks, List.countP_nil, Nat.add_zero]

theorem countP_debug_rowEvents :
    (snapshot.rowEvents view transaction).countP (·.level = .debug) =
      (if !(snapshot.lookupError.isSome || view.cancelled) &&
        snapshot.isStray transaction then 1 else 0) +
        snapshot.failedAsides view := by
  have mark := snapshot.countP_failure?
    (.markerLookupFailed transaction.hash) (fun _ => rfl) false
  have reward := snapshot.countP_failure?
    (.rewardLookupFailed transaction.hash) (fun _ => rfl) view.cancelled
  rw [rowEvents, List.countP_append, countP_debug_statusEvent?]
  congr 1
  by_cases asks : snapshot.asset = .dcr ∧ view.layout = .overview
  · rw [if_pos asks, List.countP_append, markEvent?, rewardEvent?, mark.2,
      reward.2, failedAsides, if_pos asks, Bool.or_false]
  · rw [if_neg asks, List.countP_nil, failedAsides, if_neg asks]

end Counts

end Snapshot

/-- Where each element gives one or none that passes, and as many others as every
element, a list of pieces is counted element by element. -/
theorem countP_flatMap_of_each {α β : Type} {pieces : α → List β}
    {test : β → Bool} {counts : α → Bool} (others : Nat)
    (each : ∀ element, (pieces element).countP test =
      (if counts element then 1 else 0) + others) (elements : List α) :
    (elements.flatMap pieces).countP test =
      elements.countP counts + elements.length * others := by
  induction elements with
  | nil => simp
  | cons element elements ih =>
      rw [List.flatMap_cons, List.countP_append, each, ih, List.countP_cons,
        List.length_cons, Nat.succ_mul]
      omega

/-- The events of the rows of some transactions. -/
structure Snapshot.Notices (snapshot : Snapshot)
    (transactions : List Transaction) (view : View) (events : List Event) :
    Prop where
  /-- The events of one row stand together, in the order of the rows. -/
  rows : events = transactions.flatMap (snapshot.rowEvents view)
  /-- Each ticket in no stage is warned of, if the lookup of its spender fails. -/
  warned : events.countP (·.level = .warn) =
    if snapshot.lookupError.isSome || view.cancelled then
      transactions.countP snapshot.isUnstaged
    else
      0
  /-- Otherwise the ones without a spender are noticed; and where rows ask for the
  mark and the reward, so is each of these lookups that fails. -/
  noticed : events.countP (·.level = .debug) =
    (if snapshot.lookupError.isSome || view.cancelled then 0
      else transactions.countP snapshot.isStray) +
    if snapshot.asset = .dcr ∧ view.layout = .overview then
      (if snapshot.lookupError.isSome then transactions.length else 0) +
        if snapshot.lookupError.isSome || view.cancelled then
          transactions.length
        else
          0
    else
      0

/-- The rows of a snapshot notice each failed lookup and each stray ticket once,
where it belongs, and nothing else. -/
theorem formatRows_notices (snapshot : Snapshot)
    (transactions : List Transaction) (view : View) :
    snapshot.Notices transactions view
      (snapshot.wallet.formatRows transactions view).events := by
  have rows : (snapshot.wallet.formatRows transactions view).events =
      transactions.flatMap (snapshot.rowEvents view) := by
    rw [Wallet.formatRows, Logged.events_mapList]
    exact congrArg (transactions.flatMap ·)
      (funext fun transaction => snapshot.events_formatRow transaction view)
  refine ⟨rows, ?_, ?_⟩
  · rw [rows, countP_flatMap_of_each 0 (snapshot.countP_warn_rowEvents view)]
    cases snapshot.lookupError.isSome || view.cancelled <;> simp
  · rw [rows, countP_flatMap_of_each _ (snapshot.countP_debug_rowEvents view),
      Snapshot.failedAsides]
    congr 1
    · cases snapshot.lookupError.isSome || view.cancelled <;> simp
    · cases snapshot.lookupError.isSome <;> cases view.cancelled <;>
        split <;> simp <;> omega

/-- Tickets in each of the four stages, one whose record names another, one that a
vote spent and one without a record.  Only the fifth is noticed where the lookups
answer.  Where they fail, it and the sixth are warned of, and a compact list
notices the lookups of the mark and the reward of all seven as well. -/
theorem formatRows_notices_of_each_stage :
    let vote : Transaction := { purpose := .vote }
    let snapshot : Snapshot :=
      { staking := Registry.ofList
          [("u", { stage := some .unmined }), ("i", { stage := some .immature }),
            ("l", { stage := some .live }), ("e", { stage := some .expired }),
            ("stray", { stage := some .voted }),
            ("spent", { spender := some vote })] }
    let failing : Snapshot := { snapshot with lookupError := some "down" }
    let page : View := { now := 60, layout := .transactionsPage, cancelled := true }
    let tickets : List Transaction :=
      ["u", "i", "l", "e", "stray", "spent", "new"].map fun hash =>
        { hash := hash, purpose := .ticketPurchase }
    let events (snapshot : Snapshot) (view : View) : List Event :=
      (snapshot.wallet.formatRows tickets view).events
    events snapshot { now := 60 } = [.strayTicket "stray"] ∧
      events snapshot page =
        [.statusLookupFailed "stray" .cancelled,
          .statusLookupFailed "spent" .cancelled] ∧
      (events failing { now := 60 }).countP (·.level = .warn) = 2 ∧
      (events failing { now := 60 }).countP (·.level = .debug) = 14 := by
  intro vote snapshot failing page tickets events
  obtain ⟨answered, -, -⟩ := formatRows_notices snapshot tickets { now := 60 }
  obtain ⟨stopped, -, -⟩ := formatRows_notices snapshot tickets page
  obtain ⟨-, warned, noticed⟩ := formatRows_notices failing tickets { now := 60 }
  refine ⟨answered.trans ?_, stopped.trans ?_, warned.trans ?_,
    noticed.trans ?_⟩
  all_goals decide +kernel

end WalletRows
