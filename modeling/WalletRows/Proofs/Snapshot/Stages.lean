import WalletRows.Overview
import WalletRows.Proofs.Registry
import WalletRows.Proofs.Snapshot.Tickets

/-!
# Stages of a snapshot

A record names at most one stage, so a ticket is in at most one of the four stages
of its life and the order in which they are tried does not matter.  A record may
also name a filter that is none of the four.  No question about a wallet brings
such a stage to light: the answers of a snapshot depend on its records through the
stage in life and the spender only, and so do all statuses, rows and counts.
-/

namespace WalletRows

/-- Where at most one element passes a test, the first one that passes is found in
every order. -/
theorem find?_eq_of_only {α : Type} {test : α → Bool} {only : Option α}
    {elements : List α} (listed : ∀ element, only = some element →
      element ∈ elements)
    (passes : ∀ element ∈ elements, test element = true ↔ only = some element) :
    elements.find? test = only := by
  cases found : elements.find? test with
  | some element =>
      have member := List.mem_of_find?_eq_some found
      exact ((passes element member).mp (List.find?_some found)).symm
  | none =>
      symm
      apply Option.eq_none_iff_forall_ne_some.mpr
      intro element same
      have member := listed element same
      exact List.find?_eq_none.mp found element member
        ((passes element member).mpr same)

namespace StakingRecord

/-- The record without its stage, unless that is one of the four. -/
def withoutStray (record : StakingRecord) : StakingRecord :=
  { record with stage := record.lifeStage }

@[simp]
theorem lifeStage_withoutStray (record : StakingRecord) :
    record.withoutStray.lifeStage = record.lifeStage := by
  rw [lifeStage, withoutStray, lifeStage, Option.filter_filter]
  simp

end StakingRecord

namespace Snapshot

variable {snapshot other : Snapshot} {transaction : Transaction} {stage : Filter}

def stage? (snapshot : Snapshot) (hash : String) : Option Filter :=
  (snapshot.record? hash).bind StakingRecord.lifeStage

theorem stage?_mem_ticketStages {hash : String}
    (staged : snapshot.stage? hash = some stage) :
    stage ∈ Filter.ticketStages := by
  obtain ⟨record, -, named⟩ := Option.bind_eq_some_iff.mp staged
  exact (StakingRecord.lifeStage_eq_some_iff.mp named).2

theorem matchesFilter_stage_iff (member : stage ∈ Filter.ticketStages) :
    snapshot.matchesFilter transaction stage = true ↔
      snapshot.stage? transaction.hash = some stage := by
  have named : snapshot.stage? transaction.hash = some stage ↔
      snapshot.isInStage transaction stage = true := by
    rw [stage?, isInStage, Option.bind_eq_some_iff, Option.any_eq_true]
    simp [StakingRecord.lifeStage_eq_some_iff, member]
  rw [named]
  simp only [Filter.ticketStages, List.mem_cons, List.not_mem_nil, or_false]
    at member
  rcases member with rfl | rfl | rfl | rfl <;> rfl

/-- The stage of a ticket is found in whatever order the stages are tried. -/
theorem find?_of_perm {order : List Filter}
    (same : order.Perm Filter.ticketStages) :
    order.find? (snapshot.matchesFilter transaction) =
      snapshot.stage? transaction.hash := by
  apply find?_eq_of_only
  · intro stage staged
    exact same.mem_iff.mpr (stage?_mem_ticketStages staged)
  · intro stage member
    exact matchesFilter_stage_iff (same.mem_iff.mp member)

/-! ## Records that answer alike -/

/-- Two snapshots differ at most in the stages that are none of the four. -/
structure AnswersLike (snapshot other : Snapshot) : Prop where
  fields : other = { snapshot with staking := other.staking }
  recorded : ∀ hash,
    (other.record? hash).isSome = (snapshot.record? hash).isSome
  staged : ∀ hash, other.stage? hash = snapshot.stage? hash
  spent : ∀ hash, (other.record? hash).bind StakingRecord.spender =
    (snapshot.record? hash).bind StakingRecord.spender

namespace AnswersLike

variable (alike : snapshot.AnswersLike other)

include alike

theorem matchesFilter (transaction : Transaction) (filter : Filter) :
    other.matchesFilter transaction filter =
      snapshot.matchesFilter transaction filter := by
  have staking : other.isStaking transaction = snapshot.isStaking transaction :=
    alike.recorded transaction.hash
  by_cases member : filter ∈ Filter.ticketStages
  · apply Bool.eq_iff_iff.mpr
    rw [matchesFilter_stage_iff member, matchesFilter_stage_iff member,
      alike.staged]
  · cases filter with
    | unmined | immature | live | expired => exact absurd (by decide) member
    | _ => simp only [Snapshot.matchesFilter, staking]

theorem spender (hash : String) : other.spender hash = snapshot.spender hash := by
  have error : other.lookupError = snapshot.lookupError := by
    rw [alike.fields]
  rw [Snapshot.spender, Snapshot.spender, error, alike.spent]

/-- No question tells the two apart. -/
theorem wallet_eq : other.wallet = snapshot.wallet := by
  have filters : other.matchesFilter = snapshot.matchesFilter := by
    funext transaction filter
    exact alike.matchesFilter transaction filter
  have spenders : other.spender = snapshot.spender := funext alike.spender
  have marks : other.hasVotedOrRevoked = snapshot.hasVotedOrRevoked := by
    funext hash
    rw [hasVotedOrRevoked, hasVotedOrRevoked, alike.spender]
  rw [wallet, wallet, filters, spenders, marks, alike.fields]

end AnswersLike

/-! ## Stray stages -/

/-- The snapshot without the stages that are none of the four, in the records of
the chosen hashes. -/
def clearStrays (snapshot : Snapshot) (chosen : String → Bool) : Snapshot :=
  { snapshot with
    staking := snapshot.staking.map fun hash record =>
      if chosen hash then record.withoutStray else record }

@[simp]
theorem record?_clearStrays (snapshot : Snapshot) (chosen : String → Bool)
    (hash : String) :
    (snapshot.clearStrays chosen).record? hash =
      (snapshot.record? hash).map fun record =>
        if chosen hash then record.withoutStray else record :=
  snapshot.staking.get?_map _ hash

theorem answersLike_clearStrays (snapshot : Snapshot) (chosen : String → Bool) :
    snapshot.AnswersLike (snapshot.clearStrays chosen) where
  fields := rfl
  recorded := by
    intro hash
    simp
  staged := by
    intro hash
    rw [stage?, stage?, record?_clearStrays]
    cases snapshot.record? hash with
    | none => rfl
    | some record => cases chosen hash <;> simp
  spent := by
    intro hash
    rw [record?_clearStrays]
    cases snapshot.record? hash with
    | none => rfl
    | some record => cases chosen hash <;> rfl

end Snapshot

/-- A ticket of a snapshot is in at most one stage of its life, which is found in
every order of trying the four.  A stage that is none of the four may be taken out
of any set of records: no filter, status, row, event or count changes. -/
theorem stray_stages_are_inert (snapshot : Snapshot) :
    (∀ transaction, ∀ stage ∈ Filter.ticketStages,
      ∀ other ∈ Filter.ticketStages,
        snapshot.matchesFilter transaction stage = true →
        snapshot.matchesFilter transaction other = true → stage = other) ∧
    (∀ (transaction : Transaction) (order : List Filter),
      order.Perm Filter.ticketStages →
        order.find? (snapshot.wallet.matchesFilter transaction) =
          snapshot.wallet.ticketStage transaction) ∧
    ∀ chosen,
      let cleared := snapshot.clearStrays chosen
      (∀ transaction filter,
        cleared.wallet.matchesFilter transaction filter =
          snapshot.wallet.matchesFilter transaction filter) ∧
      (∀ transaction, cleared.wallet.ticketStage transaction =
        snapshot.wallet.ticketStage transaction) ∧
      (∀ transaction cancelled, cleared.wallet.classify transaction cancelled =
        snapshot.wallet.classify transaction cancelled) ∧
      (∀ transaction view, cleared.wallet.formatRow transaction view =
        snapshot.wallet.formatRow transaction view) ∧
      (∀ transactions view, cleared.wallet.formatRows transactions view =
        snapshot.wallet.formatRows transactions view) ∧
      (∀ transactions, cleared.wallet.overview transactions =
        snapshot.wallet.overview transactions) := by
  refine ⟨?_, ?_, ?_⟩
  · intro transaction stage member other otherMember found otherFound
    have staged := (Snapshot.matchesFilter_stage_iff member).mp found
    have otherStaged := (Snapshot.matchesFilter_stage_iff otherMember).mp otherFound
    exact Option.some.inj (staged.symm.trans otherStaged)
  · intro transaction order same
    have found := snapshot.ticketStage_wallet transaction
    exact (Snapshot.find?_of_perm same).trans found.symm
  · intro chosen cleared
    have same : cleared.wallet = snapshot.wallet :=
      (snapshot.answersLike_clearStrays chosen).wallet_eq
    simp only [same, implies_true, and_self]

/-- A ticket whose record calls it voted is shown by its spender, with or without
that stage.  The stage of a live ticket is found from the last one on as well, and
it is not taken out. -/
theorem stray_stages_are_inert_of_voted_ticket :
    let vote : Transaction := { purpose := .vote }
    let snapshot : Snapshot :=
      { staking := Registry.ofList [("a", { stage := some .live }),
          ("t", { stage := some .voted, spender := some vote })] }
    let ticket (hash : String) : Transaction :=
      { hash := hash, purpose := .ticketPurchase }
    let cleared := snapshot.clearStrays fun _ => true
    (snapshot.record? "t").bind StakingRecord.stage = some .voted ∧
      (cleared.record? "t").bind StakingRecord.stage = none ∧
      cleared.record? "a" = snapshot.record? "a" ∧
      cleared.wallet.formatRow (ticket "t") { now := 60 } =
        snapshot.wallet.formatRow (ticket "t") { now := 60 } ∧
      (snapshot.wallet.classify (ticket "t") false).value = .voted ∧
      Filter.ticketStages.reverse.find?
          (snapshot.wallet.matchesFilter (ticket "a")) = some .live ∧
      snapshot.matchesFilter (ticket "a") .expired = false := by
  intro vote snapshot ticket cleared
  obtain ⟨only, anyOrder, inert⟩ := stray_stages_are_inert snapshot
  obtain ⟨-, -, -, rows, -⟩ := inert fun _ => true
  have live : snapshot.matchesFilter (ticket "a") .live = true := by decide
  have first : snapshot.wallet.ticketStage (ticket "a") = some .live := by decide
  refine ⟨by decide, by decide, by decide, rows _ _, by decide,
    (anyOrder (ticket "a") _ (List.reverse_perm _)).trans first, ?_⟩
  apply Bool.eq_false_iff.mpr
  intro expired
  cases only (ticket "a") .live (by decide) .expired (by decide) live expired

end WalletRows
