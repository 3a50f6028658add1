import WalletRows.Proofs.Registry
import WalletRows.Snapshot

/-!
# Runs of changes of a snapshot

A snapshot is made by changing one part of it after the other.  Every change writes
one part: a field, or the stage or the spender in the record of one hash; a record
that is missing is made on the way.  So in the end each part has the value that was
written last, changes of different parts may be made in either order, and the
snapshot is determined by what was written.  The list of transactions is the only
part that keeps everything.
-/

namespace WalletRows

namespace Snapshot

inductive Change where
  | name (name : String)
  | heights (bestHeight required : Int32)
  | watchOnly (watchOnly : Bool)
  | transaction (transaction : Transaction)
  | staking (hash : String)
  | stage (hash : String) (stage : Filter)
  | spender (hash : String) (spender : Transaction)
  | lookupError (message : String)

/-- A part of a snapshot that is written as a whole. -/
inductive Part where
  | name
  | heights
  | watchOnly
  | transactions
  | lookupError
  /-- Whether there is a record for a hash. -/
  | record (hash : String)
  | stage (hash : String)
  | spender (hash : String)

namespace Change

def part : Change → Part
  | .name _ => .name
  | .heights .. => .heights
  | .watchOnly _ => .watchOnly
  | .transaction _ => .transactions
  | .staking hash => .record hash
  | .stage hash _ => .stage hash
  | .spender hash _ => .spender hash
  | .lookupError _ => .lookupError

def name? : Change → Option String
  | .name given => some given
  | _ => none

def heights? : Change → Option (Int32 × Int32)
  | .heights bestHeight required => some (bestHeight, required)
  | _ => none

def watchOnly? : Change → Option Bool
  | .watchOnly given => some given
  | _ => none

def transaction? : Change → Option Transaction
  | .transaction added => some added
  | _ => none

def lookupError? : Change → Option (Option String)
  | .lookupError message => some (some message)
  | _ => none

/-- The hash whose record a change makes if it is missing. -/
def hash? : Change → Option String
  | .staking hash | .stage hash _ | .spender hash _ => some hash
  | _ => none

/-- The stage that a change writes into the record of a hash. -/
def stage? (hash : String) : Change → Option (Option Filter)
  | .stage other given => if other = hash then some (some given) else none
  | _ => none

def spender? (hash : String) : Change → Option (Option Transaction)
  | .spender other given => if other = hash then some (some given) else none
  | _ => none

end Change

def change (snapshot : Snapshot) : Change → Snapshot
  | .name name => snapshot.withName name
  | .heights bestHeight required => snapshot.withHeights bestHeight required
  | .watchOnly watchOnly => snapshot.withWatchOnly watchOnly
  | .transaction transaction => snapshot.withTransaction transaction
  | .staking hash => snapshot.withStaking hash
  | .stage hash stage => snapshot.withStage hash stage
  | .spender hash spender => snapshot.withSpender hash spender
  | .lookupError message => snapshot.withLookupError message

def changeAll (snapshot : Snapshot) (changes : List Change) : Snapshot :=
  changes.foldl change snapshot

/-- The value that changes give last, and else the value at the start. -/
def lastGiven {α : Type} (given? : Change → Option α) (changes : List Change)
    (start : α) : α :=
  (changes.filterMap given?).getLast?.getD start

def namedStage? (snapshot : Snapshot) (hash : String) : Option Filter :=
  (snapshot.record? hash).bind StakingRecord.stage

def namedSpender? (snapshot : Snapshot) (hash : String) : Option Transaction :=
  (snapshot.record? hash).bind StakingRecord.spender

/-- A snapshot is what a start becomes by changes: what was written last, or was
there at the start, is there, and nothing else. -/
structure Reflects (start : Snapshot) (changes : List Change)
    (result : Snapshot) : Prop where
  asset : result.asset = start.asset
  name : result.name = lastGiven Change.name? changes start.name
  heights : (result.bestHeight, result.required) =
    lastGiven Change.heights? changes (start.bestHeight, start.required)
  watchOnly : result.watchOnly =
    lastGiven Change.watchOnly? changes start.watchOnly
  lookupError : result.lookupError =
    lastGiven Change.lookupError? changes start.lookupError
  transactions : result.transactions =
    start.transactions ++ changes.filterMap Change.transaction?
  recorded : ∀ hash, (result.record? hash).isSome ↔
    (start.record? hash).isSome ∨ ∃ change ∈ changes, change.hash? = some hash
  stage : ∀ hash, result.namedStage? hash =
    lastGiven (Change.stage? hash) changes (start.namedStage? hash)
  spender : ∀ hash, result.namedSpender? hash =
    lastGiven (Change.spender? hash) changes (start.namedSpender? hash)

section LastGiven

variable {α : Type} {given? : Change → Option α}

@[simp]
theorem lastGiven_cons (change : Change) (changes : List Change) (start : α) :
    lastGiven given? (change :: changes) start =
      lastGiven given? changes ((given? change).getD start) := by
  rw [lastGiven, lastGiven]
  cases given : given? change with
  | none => rw [List.filterMap_cons_none given, Option.getD_none]
  | some value => simp [given, List.getLast?_cons]

end LastGiven

/-! ## One change -/

theorem record?_changeRecord (snapshot : Snapshot) (hash other : String)
    (update : StakingRecord → StakingRecord) :
    (snapshot.changeRecord hash update).record? other =
      if hash = other then some (update ((snapshot.record? other).getD {}))
      else snapshot.record? other :=
  snapshot.staking.get?_change hash other {} update

section ReadRecord

variable {α : Type} {update : StakingRecord → StakingRecord}

/-- A change of a record keeps what is read out of all records if it keeps what is
read out of one; nothing is read out of a record that is made for it. -/
theorem bind_changeRecord_of_keeps (read : StakingRecord → Option α)
    (empty : read {} = none)
    (keeps : ∀ record, read (update record) = read record)
    (snapshot : Snapshot) (hash other : String) :
    ((snapshot.changeRecord hash update).record? other).bind read =
      (snapshot.record? other).bind read := by
  rw [record?_changeRecord]
  split
  · cases snapshot.record? other with
    | none => exact (keeps {}).trans empty
    | some record => exact keeps record
  · rfl

theorem bind_changeRecord_of_writes (read : StakingRecord → Option α) {value : α}
    (writes : ∀ record, read (update record) = some value)
    (snapshot : Snapshot) (hash other : String) :
    ((snapshot.changeRecord hash update).record? other).bind read =
      if hash = other then some value else (snapshot.record? other).bind read := by
  rw [record?_changeRecord]
  split
  · exact writes _
  · rfl

end ReadRecord

theorem recorded_change (snapshot : Snapshot) (change : Change) (hash : String) :
    ((snapshot.change change).record? hash).isSome ↔
      (snapshot.record? hash).isSome ∨ change.hash? = some hash := by
  have made : ∀ other update,
      ((snapshot.changeRecord other update).record? hash).isSome ↔
        (snapshot.record? hash).isSome ∨ some other = some hash := by
    intro other update
    rw [record?_changeRecord]
    split <;> simp [*]
  cases change with
  | staking other => exact made other _
  | stage other stage => exact made other _
  | spender other spender => exact made other _
  | name | heights | watchOnly | transaction | lookupError =>
      exact (or_iff_left nofun).symm

theorem transactions_change (snapshot : Snapshot) (change : Change) :
    (snapshot.change change).transactions =
      snapshot.transactions ++ change.transaction?.toList := by
  cases change with
  | transaction added => rfl
  | _ => exact (List.append_nil _).symm

/-- A value in a snapshot that only the changes of one part replace. -/
structure Tracked (α : Type) where
  value : Snapshot → α
  given? : Change → Option α
  part : Part
  value_change (snapshot : Snapshot) (change : Change) :
    value (snapshot.change change) =
      (given? change).getD (value snapshot) := by
    intro snapshot change
    cases change <;> rfl
  given?_of_part_ne (change : Change) (other : change.part ≠ part) :
    given? change = none := by
    intro change other
    cases change <;> trivial

namespace Tracked

def name : Tracked String where
  value := Snapshot.name
  given? := Change.name?
  part := .name

def heights : Tracked (Int32 × Int32) where
  value snapshot := (snapshot.bestHeight, snapshot.required)
  given? := Change.heights?
  part := .heights

def watchOnly : Tracked Bool where
  value := Snapshot.watchOnly
  given? := Change.watchOnly?
  part := .watchOnly

def lookupError : Tracked (Option String) where
  value := Snapshot.lookupError
  given? := Change.lookupError?
  part := .lookupError

def stage (hash : String) : Tracked (Option Filter) where
  value snapshot := snapshot.namedStage? hash
  given? := Change.stage? hash
  part := .stage hash
  value_change snapshot change := by
    cases change with
    | staking other | spender other given =>
        apply bind_changeRecord_of_keeps StakingRecord.stage rfl
        intro record
        rfl
    | stage other given =>
        rw [Change.stage?, apply_ite (Option.getD · _)]
        apply bind_changeRecord_of_writes StakingRecord.stage
        intro record
        rfl
    | _ => rfl
  given?_of_part_ne change other := by
    cases change with
    | stage named given =>
        apply if_neg
        intro same
        exact other (congrArg Part.stage same)
    | _ => rfl

def spender (hash : String) : Tracked (Option Transaction) where
  value snapshot := snapshot.namedSpender? hash
  given? := Change.spender? hash
  part := .spender hash
  value_change snapshot change := by
    cases change with
    | staking other | stage other given =>
        apply bind_changeRecord_of_keeps StakingRecord.spender rfl
        intro record
        rfl
    | spender other given =>
        rw [Change.spender?, apply_ite (Option.getD · _)]
        apply bind_changeRecord_of_writes StakingRecord.spender
        intro record
        rfl
    | _ => rfl
  given?_of_part_ne change other := by
    cases change with
    | spender named given =>
        apply if_neg
        intro same
        exact other (congrArg Part.spender same)
    | _ => rfl

variable {α : Type} (tracked : Tracked α)

/-- A value is in the end what it was given last. -/
theorem value_changeAll (snapshot : Snapshot) (changes : List Change) :
    tracked.value (snapshot.changeAll changes) =
      lastGiven tracked.given? changes (tracked.value snapshot) := by
  induction changes generalizing snapshot with
  | nil => rfl
  | cons first changes ih =>
      rw [lastGiven_cons, ← tracked.value_change]
      exact ih (snapshot.change first)

end Tracked

/-! ## Runs of changes -/

theorem recorded_changeAll (snapshot : Snapshot) (changes : List Change)
    (hash : String) :
    ((snapshot.changeAll changes).record? hash).isSome ↔
      (snapshot.record? hash).isSome ∨
        ∃ change ∈ changes, change.hash? = some hash := by
  induction changes generalizing snapshot with
  | nil => simp [changeAll]
  | cons first changes ih =>
      rw [List.exists_mem_cons_iff, ← or_assoc, ← recorded_change]
      exact ih (snapshot.change first)

theorem transactions_changeAll (snapshot : Snapshot) (changes : List Change) :
    (snapshot.changeAll changes).transactions =
      snapshot.transactions ++ changes.filterMap Change.transaction? := by
  induction changes generalizing snapshot with
  | nil => exact (List.append_nil _).symm
  | cons first changes ih =>
      have later := ih (snapshot.change first)
      rw [transactions_change, List.append_assoc] at later
      refine later.trans ?_
      cases added : first.transaction? <;> simp [added]

theorem asset_changeAll (snapshot : Snapshot) (changes : List Change) :
    (snapshot.changeAll changes).asset = snapshot.asset := by
  induction changes generalizing snapshot with
  | nil => rfl
  | cons first changes ih =>
      refine (ih (snapshot.change first)).trans ?_
      cases first <;> rfl

theorem reflects_changeAll (start : Snapshot) (changes : List Change) :
    start.Reflects changes (start.changeAll changes) where
  asset := start.asset_changeAll changes
  name := Tracked.name.value_changeAll start changes
  heights := Tracked.heights.value_changeAll start changes
  watchOnly := Tracked.watchOnly.value_changeAll start changes
  lookupError := Tracked.lookupError.value_changeAll start changes
  transactions := start.transactions_changeAll changes
  recorded := start.recorded_changeAll changes
  stage hash := (Tracked.stage hash).value_changeAll start changes
  spender hash := (Tracked.spender hash).value_changeAll start changes

/-! ## What was written determines the snapshot -/

theorem record?_eq_of_parts_eq {result other : Snapshot} {hash : String}
    (recorded : (result.record? hash).isSome ↔ (other.record? hash).isSome)
    (stage : result.namedStage? hash = other.namedStage? hash)
    (spender : result.namedSpender? hash = other.namedSpender? hash) :
    result.record? hash = other.record? hash := by
  rw [namedStage?, namedStage?] at stage
  rw [namedSpender?, namedSpender?] at spender
  cases found : result.record? hash with
  | none =>
      rw [found, Option.isSome_none] at recorded
      symm
      apply Option.not_isSome_iff_eq_none.mp
      intro present
      exact absurd (recorded.mpr present) Bool.false_ne_true
  | some record =>
      rw [found, Option.isSome_some] at recorded
      obtain ⟨record', found'⟩ := Option.isSome_iff_exists.mp (recorded.mp rfl)
      rw [found, found'] at stage spender
      cases record
      cases record'
      cases stage
      cases spender
      exact found'.symm

theorem Reflects.unique {start result other : Snapshot} {changes : List Change}
    (reflects : start.Reflects changes result)
    (reflects' : start.Reflects changes other) : result = other := by
  have heights := reflects.heights.trans reflects'.heights.symm
  have staking : result.staking = other.staking := by
    ext hash : 1
    exact record?_eq_of_parts_eq
      ((reflects.recorded hash).trans (reflects'.recorded hash).symm)
      ((reflects.stage hash).trans (reflects'.stage hash).symm)
      ((reflects.spender hash).trans (reflects'.spender hash).symm)
  have asset := reflects.asset.trans reflects'.asset.symm
  have name := reflects.name.trans reflects'.name.symm
  have watchOnly := reflects.watchOnly.trans reflects'.watchOnly.symm
  have lookupError := reflects.lookupError.trans reflects'.lookupError.symm
  have transactions := reflects.transactions.trans reflects'.transactions.symm
  cases result
  cases other
  simp_all

/-! ## Changes of different parts -/

theorem filterMap_swap {α : Type} {given? : Change → Option α} {part : Part}
    (absent : ∀ change : Change, change.part ≠ part → given? change = none)
    {first second : Change} (apart : first.part ≠ second.part) :
    [first, second].filterMap given? = [second, first].filterMap given? := by
  by_cases own : first.part = part
  · have silent := absent second (own ▸ apart.symm)
    simp [List.filterMap_cons, silent]
  · simp [List.filterMap_cons, absent first own]

theorem Tracked.lastGiven_swap {α : Type} (tracked : Tracked α)
    {first second : Change} (apart : first.part ≠ second.part) (start : α) :
    lastGiven tracked.given? [first, second] start =
      lastGiven tracked.given? [second, first] start := by
  rw [lastGiven, lastGiven, filterMap_swap tracked.given?_of_part_ne apart]

theorem transaction?_of_part_ne (change : Change)
    (other : change.part ≠ .transactions) : change.transaction? = none := by
  cases change <;> trivial

/-- After two changes of different parts, there is what the other order would have
written. -/
theorem Reflects.swap {start result : Snapshot} {first second : Change}
    (apart : first.part ≠ second.part)
    (reflects : start.Reflects [first, second] result) :
    start.Reflects [second, first] result where
  asset := reflects.asset
  name := reflects.name.trans (Tracked.name.lastGiven_swap apart _)
  heights := reflects.heights.trans (Tracked.heights.lastGiven_swap apart _)
  watchOnly := reflects.watchOnly.trans (Tracked.watchOnly.lastGiven_swap apart _)
  lookupError :=
    reflects.lookupError.trans (Tracked.lookupError.lastGiven_swap apart _)
  transactions := by
    rw [reflects.transactions, filterMap_swap transaction?_of_part_ne apart]
  recorded hash := by
    rw [reflects.recorded]
    simp [or_comm]
  stage hash := (reflects.stage hash).trans
    ((Tracked.stage hash).lastGiven_swap apart _)
  spender hash := (reflects.spender hash).trans
    ((Tracked.spender hash).lastGiven_swap apart _)

theorem change_comm (snapshot : Snapshot) {first second : Change}
    (apart : first.part ≠ second.part) :
    (snapshot.change first).change second =
      (snapshot.change second).change first := by
  have swapped := (snapshot.reflects_changeAll [first, second]).swap apart
  exact swapped.unique (snapshot.reflects_changeAll [second, first])

theorem record?_withStaking_of_some {snapshot : Snapshot} {key : String}
    {record : StakingRecord} (found : snapshot.record? key = some record)
    (hash : String) : (snapshot.withStaking hash).record? key = some record := by
  rw [withStaking, record?_changeRecord, found]
  split <;> rfl

end Snapshot

/-- A run of changes ends with what was written last in each part, with all the
transactions that were added, and with nothing else.  Changes of different parts
may be made in either order, and to make sure that there is a record leaves every
record as it is. -/
theorem changes_lose_no_update (start : Snapshot) :
    (∀ changes result,
      start.Reflects changes result ↔ result = start.changeAll changes) ∧
    (∀ first second : Snapshot.Change, first.part ≠ second.part →
      (start.change first).change second =
        (start.change second).change first) ∧
    (∀ hash key record, start.record? key = some record →
      (start.withStaking hash).record? key = some record) := by
  refine ⟨?_, fun _ _ apart => start.change_comm apart, ?_⟩
  · intro changes result
    constructor
    · intro reflects
      exact reflects.unique (start.reflects_changeAll changes)
    · rintro rfl
      exact start.reflects_changeAll changes
  · intro hash key record found
    exact Snapshot.record?_withStaking_of_some found hash

/-- A live ticket keeps its stage when its spender is written and its record is made
sure of, and takes the later stage only; the stage and the spender may be written in
either order. -/
theorem changes_lose_no_update_of_live_ticket :
    let vote : Transaction := { purpose := .vote }
    let live : StakingRecord := { stage := some .live }
    let start : Snapshot := { staking := Registry.ofList [("t", live)] }
    let spend : Snapshot.Change := .spender "t" vote
    let expire : Snapshot.Change := .stage "t" .expired
    let result := start.changeAll [spend, .staking "t", expire, .staking "u"]
    result.namedStage? "t" = some .expired ∧
      result.namedSpender? "t" = some vote ∧ (result.record? "u").isSome ∧
      (start.withStaking "t").record? "t" = some live ∧
      (start.change spend).change expire = (start.change expire).change spend := by
  intro vote live start spend expire result
  obtain ⟨runs, commute, kept⟩ := changes_lose_no_update start
  have reflects := (runs [spend, .staking "t", expire, .staking "u"] result).mpr rfl
  have apart : spend.part ≠ expire.part := Snapshot.Part.noConfusion
  have known : start.record? "t" = some live := rfl
  have stage : result.namedStage? "t" = some .expired := reflects.stage "t"
  have spender : result.namedSpender? "t" = some vote := reflects.spender "t"
  have recorded : (result.record? "u").isSome :=
    (reflects.recorded "u").mpr (.inr ⟨.staking "u", by simp, rfl⟩)
  exact ⟨stage, spender, recorded, kept "t" "t" live known,
    commute spend expire apart⟩

end WalletRows
