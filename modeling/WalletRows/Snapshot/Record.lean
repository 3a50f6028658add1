import WalletRows.Snapshot
import WalletRows.Transaction.Record

/-!
# Stored snapshots

The record of a snapshot in a JSON text, in both directions.  The staking
records are the members of an object, whose order does not matter; a hash that
is given twice has the record given last.
-/

namespace WalletRows

namespace StakingRecord

def fields : List (Json.Field StakingRecord) :=
  [.of "stage" (Json.optional Json.choice) fun value stored =>
      { stored with stage := value },
    .of "spender" (Json.optional Transaction.reader) fun value stored =>
      { stored with spender := value }]

def reader : Json.Reader StakingRecord :=
  Json.record "StakingRecord" fields {}

def toJson (record : StakingRecord) : Json.Value :=
  .object
    [("stage", .ofOption .ofNamed record.stage),
      ("spender", .ofOption Transaction.toJson record.spender)]

end StakingRecord

namespace Snapshot

def stakingReader : Json.Reader (Registry StakingRecord) :=
  Json.map (fun key => .ok (String.ofList key)) StakingRecord.reader
    Registry.empty Registry.insert

def fields : List (Json.Field Snapshot) :=
  [.of "name" Json.text fun value stored => { stored with name := value },
    .of "asset" Json.choice fun value stored => { stored with asset := value },
    .of "watch_only" Json.boolean fun value stored =>
      { stored with watchOnly := value },
    .of "best_block_height" Json.int32 fun value stored =>
      { stored with bestHeight := value },
    .of "required_confirmations" Json.int32 fun value stored =>
      { stored with required := value },
    .of "transactions" (Json.list Transaction.reader) fun value stored =>
      { stored with transactions := value },
    .of "staking" stakingReader fun value stored =>
      { stored with staking := value },
    .of "spender_lookup_error" (Json.optional Json.text) fun value stored =>
      { stored with lookupError := value }]

def reader : Json.Reader Snapshot :=
  Json.record "WalletSnapshot" fields {}

/-- The written form with the staking records in a given order. -/
def toJsonOrdered (snapshot : Snapshot)
    (staking : List (String × StakingRecord)) : Json.Value :=
  .object
    [("name", .string snapshot.name), ("asset", .ofNamed snapshot.asset),
      ("watch_only", .boolean snapshot.watchOnly),
      ("best_block_height", .integer snapshot.bestHeight.toInt),
      ("required_confirmations", .integer snapshot.required.toInt),
      ("transactions",
        .list (snapshot.transactions.map Transaction.toJson)),
      ("staking",
        .object (staking.map fun (hash, record) => (hash, record.toJson))),
      ("spender_lookup_error", .ofOption .string snapshot.lookupError)]

/-- The written form, with the staking records in the order of their hashes. -/
def toJson (snapshot : Snapshot) : Json.Value :=
  snapshot.toJsonOrdered snapshot.staking.entries

/-- Read a snapshot from a JSON text. -/
def ofText (text : String) : Except Json.Error Snapshot :=
  Json.decode reader text

end Snapshot

end WalletRows
