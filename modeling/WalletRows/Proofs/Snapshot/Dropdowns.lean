import Mathlib.Data.List.Nodup
import Mathlib.Data.Set.Lattice
import Mathlib.Order.CompletePartialOrder
import WalletRows.Snapshot

/-!
# Dropdowns over a snapshot

The purpose and the direction of a transaction decide which one filter behind the
first of a dropdown it is meant for, so no two of these filters select the same
transaction.  The first filter looks at neither of the two: it asks at most
whether there is a record of the transaction.  The filters for the activity of an
asset with staking never ask that, and there alone a filter selects more than the
first one does.
-/

namespace WalletRows

/-- The only filter behind the first of a dropdown that a transaction is meant
for.  Ticket purchases have none. -/
def Transaction.kind? (transaction : Transaction) : Option Filter :=
  match transaction.purpose, transaction.direction with
  | .regular, .sent => some .sent
  | .regular, .received => some .received
  | .regular, .transferred => some .transferred
  | .mixed, _ => some .mixed
  | .vote, _ => some .voted
  | .revocation, _ => some .revoked
  | .ticketPurchase, _ => none

/-- The filters of a dropdown behind its first one. -/
def narrowFilters (asset : Asset) (tab : Tab) : List Filter :=
  (dropdown asset tab).tail.map Prod.snd

theorem nodup_narrowFilters (asset : Asset) (tab : Tab) :
    (narrowFilters asset tab).Nodup := by
  cases asset <;> cases tab <;> decide

theorem kind?_mem_ordinary_iff (transaction : Transaction) :
    transaction.kind? ∈ (narrowFilters .dcr .activity).map some ↔
      transaction.purpose = .regular ∨ transaction.purpose = .mixed := by
  rw [Transaction.kind?]
  cases transaction.purpose <;> cases transaction.direction <;>
    simp [narrowFilters, dropdown]

namespace Snapshot

variable {snapshot : Snapshot} {transaction : Transaction}
variable {asset : Asset} {tab : Tab} {filter : Filter} {first : Phrase × Filter}

/-- The transactions that a filter selects. -/
def category (snapshot : Snapshot) (filter : Filter) : Set Transaction :=
  {transaction | snapshot.matchesFilter transaction filter = true}

theorem mem_category_staking_iff :
    transaction ∈ snapshot.category .staking ↔
      (snapshot.record? transaction.hash).isSome :=
  Iff.rfl

theorem staking_eq_compl_allTx (snapshot : Snapshot) :
    snapshot.category .staking = (snapshot.category .allTx)ᶜ := by
  ext transaction
  simp [category, matchesFilter]

/-! ## The filters behind the first -/

theorem mem_category_ordinary_iff
    (ordinary : filter ∈ narrowFilters .dcr .activity) :
    transaction ∈ snapshot.category filter ↔
      transaction.kind? = some filter := by
  simp only [narrowFilters, dropdown, List.tail_cons, List.map_cons,
    List.map_nil, List.mem_cons, List.not_mem_nil, or_false] at ordinary
  rw [category, Set.mem_ofPred_eq, Transaction.kind?]
  rcases ordinary with rfl | rfl | rfl | rfl <;>
    cases purpose : transaction.purpose <;>
      cases direction : transaction.direction <;>
        simp [matchesFilter, isRegular, purpose, direction]

theorem mem_category_spending_iff
    (spending : filter ∈ narrowFilters .dcr .staking) :
    transaction ∈ snapshot.category filter ↔
      transaction ∈ snapshot.category .staking ∧
        transaction.kind? = some filter := by
  simp only [narrowFilters, dropdown, List.tail_cons, List.map_cons,
    List.map_nil, List.mem_cons, List.not_mem_nil, or_false] at spending
  simp only [category, Set.mem_ofPred_eq, Transaction.kind?]
  rcases spending with rfl | rfl <;>
    cases purpose : transaction.purpose <;>
      cases direction : transaction.direction <;>
        simp [matchesFilter, purpose]

theorem mem_category_narrow_iff (narrow : filter ∈ narrowFilters asset tab) :
    transaction ∈ snapshot.category filter ↔
      (tab = .staking → transaction ∈ snapshot.category .staking) ∧
        transaction.kind? = some filter := by
  cases tab with
  | activity =>
      -- The other assets offer a part of the same filters.
      have ordinary : filter ∈ narrowFilters .dcr .activity := by
        cases asset with
        | dcr => exact narrow
        | btc | ltc =>
            apply List.Sublist.mem narrow
            decide
      simp [mem_category_ordinary_iff ordinary]
  | staking =>
      cases asset with
      | dcr => simp [mem_category_spending_iff narrow]
      | btc | ltc => cases narrow

theorem pairwise_disjoint_narrowFilters (snapshot : Snapshot) (asset : Asset)
    (tab : Tab) :
    (narrowFilters asset tab).Pairwise fun filter other =>
      Disjoint (snapshot.category filter) (snapshot.category other) := by
  apply (nodup_narrowFilters asset tab).imp_of_mem
  intro filter other member otherMember different
  apply Set.disjoint_left.mpr
  intro transaction selected otherSelected
  have kind := ((mem_category_narrow_iff member).mp selected).2
  have otherKind := ((mem_category_narrow_iff otherMember).mp otherSelected).2
  apply different
  exact Option.some.inj (kind.symm.trans otherKind)

/-- How many of the filters select a transaction. -/
theorem countP_ordinary (snapshot : Snapshot) (transaction : Transaction) :
    (narrowFilters .dcr .activity).countP (snapshot.matchesFilter transaction) =
      if transaction.purpose = .regular ∨ transaction.purpose = .mixed then 1
      else 0 := by
  have distinct : ((narrowFilters .dcr .activity).map some).Nodup :=
    (nodup_narrowFilters .dcr .activity).map fun _ _ => Option.some.inj
  calc (narrowFilters .dcr .activity).countP (snapshot.matchesFilter transaction)
      = (narrowFilters .dcr .activity).countP
          fun filter => some filter == transaction.kind? := by
        apply List.countP_congr
        intro filter member
        rw [beq_iff_eq, eq_comm (a := some filter)]
        exact mem_category_ordinary_iff member
    _ = ((narrowFilters .dcr .activity).map some).count transaction.kind? := by
        rw [List.count, List.countP_map]
        rfl
    _ = if transaction.purpose = .regular ∨ transaction.purpose = .mixed then 1
        else 0 := by
        simp only [distinct.count, kind?_mem_ordinary_iff]

/-! ## The first filter -/

theorem mem_category_first_iff (opens : first ∈ (dropdown asset tab).head?) :
    transaction ∈ snapshot.category first.2 ↔
      (asset = .dcr →
        (transaction ∈ snapshot.category .staking ↔ tab = .staking)) := by
  cases asset <;> cases tab <;>
    simp only [dropdown, List.head?_cons, List.head?_nil, Option.mem_def,
      Option.some.injEq, reduceCtorEq] at opens
  all_goals
    subst opens
    simp [category, matchesFilter]

theorem mem_narrow_diff_first_iff (opens : first ∈ (dropdown asset tab).head?)
    (narrow : filter ∈ narrowFilters asset tab) :
    transaction ∈ snapshot.category filter \ snapshot.category first.2 ↔
      transaction ∈ snapshot.category filter ∧ asset = .dcr ∧
        tab = .activity ∧ (snapshot.record? transaction.hash).isSome := by
  rw [Set.mem_sdiff, ← mem_category_staking_iff]
  apply and_congr_right
  intro selected
  have recorded := ((mem_category_narrow_iff narrow).mp selected).1
  rw [mem_category_first_iff opens]
  cases tab with
  | activity => simp
  | staking => simp [recorded rfl]

end Snapshot

/-- The filters of a snapshot sort transactions.  Every transaction is either a
staking one or not, and the filters of a dropdown behind the first select
disjoint sets.  They select a part of what the first one does, except where a
list of ordinary activity leaves out the transactions that have a record.  On that
list every ordinary transfer and every mix has one filter of its own, whether it is
left out or not, and any other transaction has none. -/
theorem dropdowns_sort_transactions (snapshot : Snapshot) :
    snapshot.category .staking = (snapshot.category .allTx)ᶜ ∧
    (∀ asset tab, (narrowFilters asset tab).Pairwise fun filter other =>
      Disjoint (snapshot.category filter) (snapshot.category other)) ∧
    (∀ asset tab, ∀ first ∈ (dropdown asset tab).head?,
      ∀ filter ∈ narrowFilters asset tab, ∀ transaction,
        transaction ∈ snapshot.category filter \ snapshot.category first.2 ↔
          transaction ∈ snapshot.category filter ∧ asset = .dcr ∧
            tab = .activity ∧ (snapshot.record? transaction.hash).isSome) ∧
    (∀ transaction, (narrowFilters .dcr .activity).countP
        (snapshot.matchesFilter transaction) =
      if transaction.purpose = .regular ∨ transaction.purpose = .mixed then 1
      else 0) := by
  refine ⟨snapshot.staking_eq_compl_allTx,
    snapshot.pairwise_disjoint_narrowFilters, ?_, snapshot.countP_ordinary⟩
  intro asset tab first opens filter narrow transaction
  exact Snapshot.mem_narrow_diff_first_iff opens narrow

/-- A mix with a record is selected by the filter for mixes but not by the first
one; a vote without a record is selected by the first one only. -/
theorem dropdowns_sort_recorded_mix :
    let snapshot : Snapshot := { staking := Registry.ofList [("m", {})] }
    let mix : Transaction := { hash := "m", purpose := .mixed }
    let vote : Transaction := { hash := "v", purpose := .vote }
    (Phrase.all, Filter.allTx) ∈ (dropdown .dcr .activity).head? ∧
      Filter.mixed ∈ narrowFilters .dcr .activity ∧
      mix ∈ snapshot.category .mixed \ snapshot.category .allTx ∧
      vote ∈ snapshot.category .allTx ∧
      (narrowFilters .dcr .activity).countP (snapshot.matchesFilter vote) = 0 := by
  intro snapshot mix vote
  have opens : (Phrase.all, Filter.allTx) ∈ (dropdown .dcr .activity).head? := rfl
  have narrow : Filter.mixed ∈ narrowFilters .dcr .activity := by decide
  have shown : vote ∈ snapshot.category .allTx := rfl
  obtain ⟨-, -, apart, counted⟩ := dropdowns_sort_transactions snapshot
  exact ⟨opens, narrow,
    (apart .dcr .activity _ opens .mixed narrow mix).mpr ⟨rfl, rfl, rfl, rfl⟩,
    shown, counted vote⟩

end WalletRows
