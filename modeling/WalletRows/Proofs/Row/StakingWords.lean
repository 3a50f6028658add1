import WalletRows.Proofs.Status.Priority
import WalletRows.Row.Format

/-!
# The title of a staking transaction and the word before its age

A compact row says twice how a staking transaction stands: its status has a
title, and a word stands before its age.  The title of a ticket in no stage
depends on what spent it.  The word does not: it is chosen from the purpose and
the stages, and takes every ticket in no stage for one that voted.  So the two
are the same for tickets in a stage and for those that a vote spent, and for
nothing else.
-/

namespace WalletRows

namespace Wallet

variable {wallet : Wallet} {transaction : Transaction} {cancelled : Bool}

/-! ## Tickets in a stage -/

/-- A ticket is in one of the four stages, or in several of them. -/
def IsStaged (wallet : Wallet) (transaction : Transaction) : Prop :=
  ∃ stage ∈ [.unmined, .immature, .live, .expired],
    wallet.matchesFilter transaction stage = true

theorem isPastStages_of_not_isStaged
    (unstaged : ¬ wallet.IsStaged transaction) :
    wallet.IsPastStages transaction := by
  have none : ∀ stage ∈ Filter.ticketStages,
      wallet.matchesFilter transaction stage = false := by
    intro stage member
    rw [← Bool.not_eq_true]
    exact fun holds => unstaged ⟨stage, member, holds⟩
  constructor
  all_goals exact none _ (by decide)

theorem exists_ticketStage_of_isStaged (staged : wallet.IsStaged transaction) :
    ∃ stage ∈ Filter.ticketStages,
      wallet.ticketStage transaction = some stage := by
  obtain ⟨stage, first⟩ := Option.isSome_iff_exists.mp
    (List.find?_isSome.mpr staged)
  exact ⟨stage, List.mem_of_find?_eq_some first, first⟩

/-- The status of a stage has the word for the stage as its title. -/
theorem exists_status_of_stage {stage : Filter}
    (member : stage ∈ Filter.ticketStages) :
    ∃ status, Status.ofStage? stage = some status ∧
      status.title = stagePhrase (some stage) := by
  simp only [Filter.ticketStages, List.mem_cons, List.not_mem_nil, or_false]
    at member
  rcases member with rfl | rfl | rfl | rfl
  all_goals exact ⟨_, rfl, rfl⟩

theorem stakingPhrase_of_purchase
    (purchase : transaction.purpose = .ticketPurchase) :
    wallet.stakingPhrase transaction =
      stagePhrase (wallet.ticketStage transaction) := by
  simp only [stakingPhrase, purchase]

/-- Both words of a ticket in a stage are the word for the first stage. -/
theorem title_of_isStaged (ticket : wallet.IsTicket transaction)
    (staged : wallet.IsStaged transaction) :
    (wallet.classify transaction cancelled).value.title =
      wallet.stakingPhrase transaction := by
  obtain ⟨stage, member, first⟩ := exists_ticketStage_of_isStaged staged
  obtain ⟨status, shown, titled⟩ := exists_status_of_stage member
  rw [classify_of_stage ticket first shown, titled,
    stakingPhrase_of_purchase ticket.purchase, first]

/-! ## Tickets in no stage -/

theorem stakingPhrase_of_isPastStages
    (purchase : transaction.purpose = .ticketPurchase)
    (past : wallet.IsPastStages transaction) :
    wallet.stakingPhrase transaction = .voted := by
  rw [stakingPhrase_of_purchase purchase, past.ticketStage_eq_none]
  rfl

theorem title_of_spender {spender : Transaction}
    (ticket : wallet.IsTicket transaction)
    (past : wallet.IsPastStages transaction)
    (answer : wallet.spenderUnless transaction.hash cancelled =
      .ok (some spender)) :
    (wallet.classify transaction cancelled).value.title =
      if spender.purpose = .vote then .voted else .revoked := by
  have known := spendingPurpose?_of_answer answer
  rw [(stands_of_spendingPurpose? ticket past known).classify_eq]
  split <;> rfl

theorem title_of_no_spender (ticket : wallet.IsTicket transaction)
    (past : wallet.IsPastStages transaction)
    (none : ∀ spender,
      wallet.spenderUnless transaction.hash cancelled ≠ .ok (some spender)) :
    (wallet.classify transaction cancelled).value.title =
      (Status.ofDirection transaction.direction).title := by
  have unknown : wallet.spendingPurpose? transaction cancelled = .none := by
    unfold spendingPurpose?
    cases answer : wallet.spenderUnless transaction.hash cancelled with
    | error error => rfl
    | ok found =>
        cases found with
        | none => rfl
        | some spender => exact absurd answer (none spender)
  rw [(stands_of_spendingPurpose?_eq_none ticket past unknown).classify_eq,
    directed_status]

theorem title_ofDirection_ne_voted (direction : Direction) :
    (Status.ofDirection direction).title ≠ .voted := by
  cases direction <;> decide

/-! ## Both words of a row -/

/-- The title and the word of a staking transaction that is no ticket in a stage
and no ticket that a vote spent. -/
structure Contradicts (wallet : Wallet) (transaction : Transaction)
    (cancelled : Bool) (title word : Phrase) : Prop where
  revoked : transaction.purpose = .ticketPurchase →
    ¬ wallet.IsStaged transaction →
    ∀ spender, wallet.spenderUnless transaction.hash cancelled =
      .ok (some spender) → spender.purpose ≠ .vote →
        title = .revoked ∧ word = .voted
  unspent : transaction.purpose = .ticketPurchase →
    ¬ wallet.IsStaged transaction →
    (∀ spender, wallet.spenderUnless transaction.hash cancelled ≠
      .ok (some spender)) →
        title = (Status.ofDirection transaction.direction).title ∧
          word = .voted
  vote : transaction.purpose = .vote → title = .vote ∧ word = .voted
  revocation : transaction.purpose = .revocation →
    title = .revocation ∧ word = .revoked
  other : transaction.purpose = .regular ∨ transaction.purpose = .mixed →
    title = .revocation ∧ word = .voted

theorem contradicts_classify
    (staking : wallet.matchesFilter transaction .staking = true) :
    wallet.Contradicts transaction cancelled
      (wallet.classify transaction cancelled).value.title
      (wallet.stakingPhrase transaction) where
  revoked := by
    intro purchase unstaged spender answer other
    have past := isPastStages_of_not_isStaged unstaged
    rw [title_of_spender ⟨staking, purchase⟩ past answer, if_neg other]
    exact ⟨rfl, stakingPhrase_of_isPastStages purchase past⟩
  unspent := by
    intro purchase unstaged none
    have past := isPastStages_of_not_isStaged unstaged
    exact ⟨title_of_no_spender ⟨staking, purchase⟩ past none,
      stakingPhrase_of_isPastStages purchase past⟩
  vote := by
    intro vote
    rw [(Stands.vote staking vote).classify_eq]
    simp only [stakingPhrase, vote]
    exact ⟨rfl, trivial⟩
  revocation := by
    intro revocation
    rw [(Stands.revocation staking (by simp [revocation])).classify_eq]
    simp only [stakingPhrase, revocation]
    exact ⟨rfl, trivial⟩
  other := by
    intro other
    have ended : transaction.purpose ∈
        [Purpose.regular, .mixed, .revocation] := by
      rcases other with other | other <;> simp [other]
    rw [(Stands.revocation staking ended).classify_eq]
    rcases other with other | other
    all_goals
      simp only [stakingPhrase, other]
      exact ⟨rfl, trivial⟩

/-- A ticket that a vote spent is titled so unless it is in a stage, and then
both words are the one for the stage. -/
theorem title_of_voted {spender : Transaction}
    (ticket : wallet.IsTicket transaction)
    (answer : wallet.spenderUnless transaction.hash cancelled =
      .ok (some spender))
    (vote : spender.purpose = .vote) :
    (wallet.classify transaction cancelled).value.title =
      wallet.stakingPhrase transaction := by
  by_cases staged : wallet.IsStaged transaction
  · exact title_of_isStaged ticket staged
  · have past := isPastStages_of_not_isStaged staged
    rw [title_of_spender ticket past answer, if_pos vote,
      stakingPhrase_of_isPastStages ticket.purchase past]

/-- Words that contradict each other are different. -/
theorem Contradicts.of_word_eq {title word : Phrase}
    (words : wallet.Contradicts transaction cancelled title word)
    (same : word = title) :
    transaction.purpose = .ticketPurchase ∧
      (wallet.IsStaged transaction ∨
        ∃ spender, wallet.spenderUnless transaction.hash cancelled =
          .ok (some spender) ∧ spender.purpose = .vote) := by
  cases purpose : transaction.purpose with
  | ticketPurchase =>
    refine ⟨rfl, ?_⟩
    by_cases staged : wallet.IsStaged transaction
    · exact .inl staged
    · right
      by_cases spent : ∃ spender,
          wallet.spenderUnless transaction.hash cancelled = .ok (some spender)
      · obtain ⟨spender, answer⟩ := spent
        by_cases vote : spender.purpose = .vote
        · exact ⟨spender, answer, vote⟩
        · obtain ⟨rfl, rfl⟩ := words.revoked purpose staged spender answer vote
          cases same
      · obtain ⟨rfl, rfl⟩ := words.unspent purpose staged
          fun spender answer => spent ⟨spender, answer⟩
        exact absurd same.symm (title_ofDirection_ne_voted _)
  | vote =>
    obtain ⟨rfl, rfl⟩ := words.vote purpose
    cases same
  | revocation =>
    obtain ⟨rfl, rfl⟩ := words.revocation purpose
    cases same
  | regular =>
    obtain ⟨rfl, rfl⟩ := words.other (.inl purpose)
    cases same
  | mixed =>
    obtain ⟨rfl, rfl⟩ := words.other (.inr purpose)
    cases same

/-- A compact row of a staking transaction has a word before the age.  It is the
title of the row exactly for a ticket that is in a stage or that a vote spent,
and every other staking transaction has two words that contradict each other. -/
theorem staking_word_eq_title_iff (wallet : Wallet) (transaction : Transaction)
    (view : View) (compact : view.layout = .overview)
    (staking : wallet.matchesFilter transaction .staking = true) :
    let row := (wallet.formatRow transaction view).value
    let word := wallet.stakingPhrase transaction
    row.stakingDuration = some (view.locale.text word ++ " " ++
      timeAgo transaction.timestamp.toInt view.now) ∧
    (word = row.status.title ↔
      transaction.purpose = .ticketPurchase ∧
        (wallet.IsStaged transaction ∨
          ∃ spender, wallet.spenderUnless transaction.hash view.cancelled =
            .ok (some spender) ∧ spender.purpose = .vote)) ∧
    wallet.Contradicts transaction view.cancelled row.status.title word := by
  intro row word
  have words : wallet.Contradicts transaction view.cancelled row.status.title
      word := contradicts_classify staking
  refine ⟨?_, ⟨words.of_word_eq, ?_⟩, words⟩
  · change wallet.stakingDuration transaction view.locale view.layout
      view.now = _
    rw [stakingDuration, compact, staking]
    rfl
  · rintro ⟨purchase, staged | ⟨spender, answer, vote⟩⟩
    · exact (title_of_isStaged ⟨staking, purchase⟩ staged).symm
    · exact (title_of_voted ⟨staking, purchase⟩ answer vote).symm

/-- A ticket that a revocation spent, in no stage and in two of them at once.  In
no stage it has the word of a ticket that voted. -/
theorem staking_word_eq_title_iff_of_revoked_ticket :
    let wallet (stages : List Filter) : Wallet :=
      { name := "contested", asset := .dcr, bestHeight := 0, required := 2
        matchesFilter := fun _ filter => decide (filter ∈ .staking :: stages)
        spender := fun _ => .ok (some { purpose := .revocation }) }
    let ticket : Transaction := { purpose := .ticketPurchase }
    let row (stages : List Filter) : Row :=
      ((wallet stages).formatRow ticket { now := 60 }).value
    (row []).stakingDuration = some "Voted 1 minute ago" ∧
      (row []).status.title = .revoked ∧
      (row [.expired, .live]).status.title = .live ∧
      (wallet [.expired, .live]).stakingPhrase ticket = .live := by
  intro wallet ticket row
  obtain ⟨duration, -, words⟩ :=
    staking_word_eq_title_iff (wallet []) ticket { now := 60 } rfl rfl
  obtain ⟨-, same, -⟩ := staking_word_eq_title_iff (wallet [.expired, .live])
    ticket { now := 60 } rfl rfl
  have unstaged : ¬ (wallet []).IsStaged ticket := by
    simp [IsStaged, wallet]
  obtain ⟨title, word⟩ := words.revoked rfl unstaged _ rfl (by decide)
  refine ⟨?_, title, rfl, ?_⟩
  · rw [duration, word]
    decide +kernel
  · exact same.mpr ⟨rfl, .inl ⟨.live, by decide, rfl⟩⟩

end Wallet

end WalletRows
