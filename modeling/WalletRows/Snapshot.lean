import WalletRows.Registry
import WalletRows.Wallet

/-!
# Snapshots of wallets

A snapshot holds what a wallet would answer at one moment, so rows can be made
without a running wallet.  A transaction counts as staking if there is a record
for its hash, and the record says in which stage the ticket is and what spent
it.
-/

namespace WalletRows

structure StakingRecord where
  /-- The filter that the ticket matches besides the staking one. -/
  stage : Option Filter := none
  /-- The vote or revocation that spent the ticket. -/
  spender : Option Transaction := none
deriving DecidableEq

/-- The state of a wallet at one moment. -/
structure Snapshot where
  name : String := "Default wallet"
  asset : Asset := .dcr
  watchOnly : Bool := false
  bestHeight : Int32 := 0
  required : Int32 := 2
  transactions : List Transaction := []
  /-- The records of staking transactions, by hash. -/
  staking : Registry StakingRecord := .empty
  /-- If present, every lookup of what spent a ticket fails with it. -/
  lookupError : Option String := none
deriving DecidableEq

namespace Snapshot

/-! ## Changes -/

def withName (snapshot : Snapshot) (name : String) : Snapshot :=
  { snapshot with name := name }

def withHeights (snapshot : Snapshot) (bestHeight required : Int32) :
    Snapshot :=
  { snapshot with bestHeight := bestHeight, required := required }

/-- Change whether the wallet has keys to spend with. -/
def withWatchOnly (snapshot : Snapshot) (watchOnly : Bool) : Snapshot :=
  { snapshot with watchOnly := watchOnly }

/-- Add a transaction behind the others. -/
def withTransaction (snapshot : Snapshot) (transaction : Transaction) :
    Snapshot :=
  { snapshot with transactions := snapshot.transactions ++ [transaction] }

/-- Change the record of a hash, which is made if there is none. -/
def changeRecord (snapshot : Snapshot) (hash : String)
    (update : StakingRecord → StakingRecord) : Snapshot :=
  { snapshot with staking := snapshot.staking.change hash {} update }

/-- Make sure that there is a record for a hash. -/
def withStaking (snapshot : Snapshot) (hash : String) : Snapshot :=
  snapshot.changeRecord hash id

def withStage (snapshot : Snapshot) (hash : String) (stage : Filter) :
    Snapshot :=
  snapshot.changeRecord hash fun found => { found with stage := some stage }

def withSpender (snapshot : Snapshot) (hash : String)
    (spender : Transaction) : Snapshot :=
  snapshot.changeRecord hash fun found => { found with spender := some spender }

/-- Make every lookup of what spent a ticket fail. -/
def withLookupError (snapshot : Snapshot) (message : String) : Snapshot :=
  { snapshot with lookupError := some message }

/-! ## Answers -/

def record? (snapshot : Snapshot) (hash : String) : Option StakingRecord :=
  snapshot.staking.get? hash

def isStaking (snapshot : Snapshot) (transaction : Transaction) : Bool :=
  (snapshot.record? transaction.hash).isSome

def isInStage (snapshot : Snapshot) (transaction : Transaction)
    (stage : Filter) : Bool :=
  (snapshot.record? transaction.hash).any (·.stage = some stage)

/-- Whether a transaction is an ordinary one with a direction. -/
def isRegular (transaction : Transaction) (direction : Direction) : Bool :=
  transaction.direction = direction && transaction.purpose = .regular

def matchesFilter (snapshot : Snapshot) (transaction : Transaction) :
    Filter → Bool
  | .all => true
  | .allTx => !snapshot.isStaking transaction
  | .sent => isRegular transaction .sent
  | .received => isRegular transaction .received
  | .transferred => isRegular transaction .transferred
  | .mixed => transaction.purpose = .mixed
  | .staking => snapshot.isStaking transaction
  | .voted => snapshot.isStaking transaction && transaction.purpose = .vote
  | .revoked =>
      snapshot.isStaking transaction && transaction.purpose = .revocation
  | .unmined => snapshot.isInStage transaction .unmined
  | .immature => snapshot.isInStage transaction .immature
  | .live => snapshot.isInStage transaction .live
  | .expired => snapshot.isInStage transaction .expired

def spender (snapshot : Snapshot) (hash : String) :
    Except LookupError (Option Transaction) :=
  match snapshot.lookupError with
  | some message => .error (.backend message)
  | none => .ok ((snapshot.record? hash).bind StakingRecord.spender)

def hasVotedOrRevoked (snapshot : Snapshot) (hash : String) :
    Except LookupError Bool :=
  (snapshot.spender hash).map Option.isSome

/-- The wallet that answers from a snapshot. -/
def wallet (snapshot : Snapshot) : Wallet where
  name := snapshot.name
  asset := snapshot.asset
  watchOnly := snapshot.watchOnly
  bestHeight := snapshot.bestHeight
  required := snapshot.required
  matchesFilter := snapshot.matchesFilter
  spender := snapshot.spender
  hasVotedOrRevoked := snapshot.hasVotedOrRevoked

end Snapshot

end WalletRows
