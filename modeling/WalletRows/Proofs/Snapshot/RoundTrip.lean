import WalletRows.Proofs.Json.Decoding
import WalletRows.Proofs.Registry
import WalletRows.Snapshot.Record

/-!
# Stored snapshots are read back

Every field of a stored record takes its written value as the update that puts
it in place, so the records are read back from every spelling of their written
form.  The staking records of a snapshot are members of an object and may be
written in any order.
-/

namespace WalletRows

open Json

namespace Transaction

theorem fills (transaction : Transaction) :
    Fills fields transaction.toJson.members {} transaction :=
  .member (readsBack_field (readsBack_text _) _ _) <|
    .member (readsBack_field (readsBack_choice _) _ _) <|
    .member (readsBack_field (readsBack_choice _) _ _) <|
    .member (readsBack_field (readsBack_int64 _) _ _) <|
    .member (readsBack_field (readsBack_int64 _) _ _) <|
    .member (readsBack_field (readsBack_int32 _) _ _) <|
    .member (readsBack_field (readsBack_int32 _) _ _) <|
    .member (readsBack_field (readsBack_int64 _) _ _) <|
    .member (readsBack_field (readsBack_int64 _) _ _) <|
    .member (readsBack_field (readsBack_int32 _) _ _) <|
    .none _

theorem readsBack (transaction : Transaction) :
    ReadsBack reader transaction.toJson transaction :=
  readsBack_record "Transaction" transaction.fills (by decide)

theorem toJson_ne_null (transaction : Transaction) :
    transaction.toJson ≠ .null := by
  intro null
  cases null

end Transaction

namespace StakingRecord

theorem fills (record : StakingRecord) :
    Fills fields record.toJson.members {} record :=
  have stages := readsBack_optional ofNamed_ne_null readsBack_choice
  have spenders := readsBack_optional Transaction.toJson_ne_null
    Transaction.readsBack
  .member (readsBack_field (stages record.stage) _ _) <|
    .member (readsBack_field (spenders record.spender) _ _) <|
    .none _

theorem readsBack (record : StakingRecord) :
    ReadsBack reader record.toJson record :=
  readsBack_record "StakingRecord" record.fills (by decide)

end StakingRecord

namespace Snapshot

variable {snapshot : Snapshot} {entries : List (String × StakingRecord)}

/-- The staking records are read back from any order of them. -/
theorem readsBack_staking {staking : Registry StakingRecord}
    (order : entries.Perm staking.entries) :
    ReadsBack stakingReader
      (.object (entries.map fun (hash, record) => (hash, record.toJson)))
      staking := by
  have back : ReadsBack stakingReader
      (.object (entries.map fun entry => (entry.1, entry.2.toJson)))
      (Registry.ofList entries) :=
    readsBack_map id StakingRecord.toJson
      (fun hash => congrArg Except.ok String.ofList_toList)
      StakingRecord.readsBack entries Registry.empty
  rwa [Registry.ofList_eq_of_perm order] at back

theorem fills (order : entries.Perm snapshot.staking.entries) :
    Fills fields (snapshot.toJsonOrdered entries).members {} snapshot :=
  have transactions := readsBack_list Transaction.readsBack
  have messages := readsBack_optional string_ne_null readsBack_text
  .member (readsBack_field (readsBack_text _) _ _) <|
    .member (readsBack_field (readsBack_choice _) _ _) <|
    .member (readsBack_field (readsBack_boolean _) _ _) <|
    .member (readsBack_field (readsBack_int32 _) _ _) <|
    .member (readsBack_field (readsBack_int32 _) _ _) <|
    .member (readsBack_field (transactions _) _ _) <|
    .member (readsBack_field (readsBack_staking order) _ _) <|
    .member (readsBack_field (messages _) _ _) <|
    .none _

theorem readsBack (order : entries.Perm snapshot.staking.entries) :
    ReadsBack reader (snapshot.toJsonOrdered entries) snapshot :=
  readsBack_record "WalletSnapshot" (fills order) (by decide)

/-- A snapshot is read back from the text that is written of it, whatever texts
and numbers it holds and in whatever order its staking records are written. -/
theorem ofText_written (snapshot : Snapshot)
    (entries : List (String × StakingRecord))
    (order : entries.Perm snapshot.staking.entries) :
    ofText (.ofList (snapshot.toJsonOrdered entries).compact) = .ok snapshot ∧
      ofText (snapshot.toJsonOrdered entries).pretty = .ok snapshot := by
  constructor
  · refine decode_of_readsBack (readsBack order) ?_
    rw [String.toList_ofList]
    exact Value.spells_compact _
  · refine decode_of_readsBack (readsBack order) ?_
    rw [Value.pretty, String.toList_ofList]
    exact Value.spells_indented 0 _

/-- A snapshot with quotes, escapes and the least and greatest numbers is read
back, also where the records are written against the order of their hashes. -/
theorem ofText_written_reversed :
    let vote : Transaction :=
      { hash := "\"v\\\n", purpose := .vote, amount := Int64.minValue
        voteReward := Int64.maxValue, daysToSpend := Int32.minValue }
    let snapshot : Snapshot :=
      { name := "𝔇\u0007", required := Int32.maxValue, transactions := [vote]
        staking := Registry.ofList
          [("a\"", { stage := some .live }), ("b", { spender := some vote })]
        lookupError := some "" }
    let reversed : List (String × StakingRecord) :=
      [("b", { spender := some vote }), ("a\"", { stage := some .live })]
    reversed.Perm snapshot.staking.entries ∧
      reversed ≠ snapshot.staking.entries ∧
      ofText (.ofList (snapshot.toJsonOrdered reversed).compact) =
        .ok snapshot := by
  intro vote snapshot reversed
  have order : reversed.Perm snapshot.staking.entries := by decide
  exact ⟨order, by decide, (ofText_written snapshot reversed order).1⟩

end Snapshot

end WalletRows
