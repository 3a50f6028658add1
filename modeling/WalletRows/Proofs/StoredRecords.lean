import WalletRows.Proofs.Json.FirstFields
import WalletRows.Proofs.Settings.Uses
import WalletRows.Proofs.Snapshot.RoundTrip

/-!
# Stored records depend on the members that count

Transactions, staking records, snapshots and settings are records whose decoders
read values of the grammar and whose fields store apart from each other.  So
the order of their members does not matter, nor do members that they do not know
or that hold a default; and a list of their first values is as good as an object.
-/

namespace WalletRows

open Json

namespace Transaction

theorem regular_fields : ∀ field ∈ fields, Regular field.update := by
  simp only [fields, List.forall_mem_cons]
  exact ⟨regular_field regular_text _ _, regular_field regular_choice _ _,
    regular_field regular_choice _ _, regular_field regular_int64 _ _,
    regular_field regular_int64 _ _, regular_field regular_int32 _ _,
    regular_field regular_int32 _ _, regular_field regular_int64 _ _,
    regular_field regular_int64 _ _, regular_field regular_int32 _ _, by simp⟩

theorem regular_reader : Regular reader :=
  regular_record "Transaction" regular_fields {}

theorem pairwise_apart : fields.Pairwise Apart := by
  simp only [fields, List.pairwise_cons, List.forall_mem_cons]
  -- Each pair of fields stores parts of its own, and the lists run out.
  and_intros
  all_goals first
    | exact apart_of fun _ _ _ => rfl
    | simp

theorem dependsOnMembers :
    DependsOnMembers reader (fields.map Field.name) {} :=
  dependsOnMembers_record "Transaction" regular_fields pairwise_apart {}

theorem decodesFirstFields (transaction : Transaction) :
    DecodesFirstFields reader transaction.toJson.members :=
  transaction.fills.decodesFirstFields (by decide) "Transaction"

end Transaction

namespace StakingRecord

theorem regular_fields : ∀ field ∈ fields, Regular field.update := by
  simp only [fields, List.forall_mem_cons]
  exact ⟨regular_field (regular_optional regular_choice) _ _,
    regular_field (regular_optional Transaction.regular_reader) _ _, by simp⟩

theorem regular_reader : Regular reader :=
  regular_record "StakingRecord" regular_fields {}

theorem pairwise_apart : fields.Pairwise Apart := by
  simp only [fields, List.pairwise_cons, List.forall_mem_cons]
  exact ⟨⟨apart_of fun _ _ _ => rfl, by simp⟩, by simp, .nil⟩

theorem dependsOnMembers :
    DependsOnMembers reader (fields.map Field.name) {} :=
  dependsOnMembers_record "StakingRecord" regular_fields pairwise_apart {}

theorem decodesFirstFields (record : StakingRecord) :
    DecodesFirstFields reader record.toJson.members :=
  record.fills.decodesFirstFields (by decide) "StakingRecord"

end StakingRecord

namespace Snapshot

theorem regular_fields : ∀ field ∈ fields, Regular field.update := by
  have transactions := regular_list Transaction.regular_reader
  have staking : Regular stakingReader :=
    regular_map StakingRecord.regular_reader _ _
  simp only [fields, List.forall_mem_cons]
  exact ⟨regular_field regular_text _ _, regular_field regular_choice _ _,
    regular_field regular_boolean _ _, regular_field regular_int32 _ _,
    regular_field regular_int32 _ _, regular_field transactions _ _,
    regular_field staking _ _,
    regular_field (regular_optional regular_text) _ _, by simp⟩

theorem pairwise_apart : fields.Pairwise Apart := by
  simp only [fields, List.pairwise_cons, List.forall_mem_cons]
  and_intros
  all_goals first
    | exact apart_of fun _ _ _ => rfl
    | simp

theorem dependsOnMembers :
    DependsOnMembers reader (fields.map Field.name) {} :=
  dependsOnMembers_record "WalletSnapshot" regular_fields pairwise_apart {}

theorem decodesFirstFields {snapshot : Snapshot}
    {entries : List (String × StakingRecord)}
    (order : entries.Perm snapshot.staking.entries) :
    DecodesFirstFields reader (snapshot.toJsonOrdered entries).members :=
  (fills order).decodesFirstFields (by decide) "WalletSnapshot"

end Snapshot

namespace Settings

theorem regular_fields : ∀ field ∈ fields, Regular field.update := by
  simp only [fields, List.forall_mem_cons]
  exact ⟨regular_field (regular_map regular_text _ _) _ _,
    regular_field (regular_map regular_text _ _) _ _,
    regular_field regular_choice _ _, by simp⟩

theorem pairwise_apart : fields.Pairwise Apart := by
  simp only [fields, List.pairwise_cons, List.forall_mem_cons]
  exact ⟨⟨apart_of fun _ _ _ => rfl, apart_of fun _ _ _ => rfl, by simp⟩,
    ⟨apart_of fun _ _ _ => rfl, by simp⟩, by simp, .nil⟩

theorem dependsOnMembers :
    DependsOnMembers reader (fields.map Field.name) {} :=
  dependsOnMembers_record "AppConfig" regular_fields pairwise_apart {}

theorem decodesFirstFields {settings : Settings}
    {strings : List (Phrase × String)} {palette : List (ColorRole × String)}
    (sameStrings : strings.Perm (replacedTexts settings.strings))
    (samePalette : palette.Perm (replacedTexts settings.palette)) :
    DecodesFirstFields reader (settings.toJsonOrdered strings palette).members :=
  (fills sameStrings samePalette).decodesFirstFields (by decide) "AppConfig"

end Settings

/-- The decoder of each stored record depends only on the members that count,
and decodes the first values of a record alike in a list and in an object. -/
theorem stored_records_depend_on_members :
    (DependsOnMembers Transaction.reader (Transaction.fields.map Field.name) {} ∧
      ∀ transaction : Transaction,
        DecodesFirstFields Transaction.reader transaction.toJson.members) ∧
    (DependsOnMembers StakingRecord.reader
        (StakingRecord.fields.map Field.name) {} ∧
      ∀ record : StakingRecord,
        DecodesFirstFields StakingRecord.reader record.toJson.members) ∧
    (DependsOnMembers Snapshot.reader (Snapshot.fields.map Field.name) {} ∧
      ∀ (snapshot : Snapshot) (entries : List (String × StakingRecord)),
        entries.Perm snapshot.staking.entries →
          DecodesFirstFields Snapshot.reader
            (snapshot.toJsonOrdered entries).members) ∧
    (DependsOnMembers Settings.reader (Settings.fields.map Field.name) {} ∧
      ∀ (settings : Settings) (strings : List (Phrase × String))
        (palette : List (ColorRole × String)),
        strings.Perm (replacedTexts settings.strings) →
          palette.Perm (replacedTexts settings.palette) →
            DecodesFirstFields Settings.reader
              (settings.toJsonOrdered strings palette).members) :=
  ⟨⟨Transaction.dependsOnMembers, Transaction.decodesFirstFields⟩,
    ⟨StakingRecord.dependsOnMembers, StakingRecord.decodesFirstFields⟩,
    ⟨Snapshot.dependsOnMembers, fun _ _ => Snapshot.decodesFirstFields⟩,
    ⟨Settings.dependsOnMembers, fun _ _ _ => Settings.decodesFirstFields⟩⟩

/-- A staking record is decoded behind a member that it does not know, whose
value nests; and the first fields of a snapshot and of settings are decoded. -/
theorem stored_records_depend_on_members_behind_unknown :
    let snapshot : Snapshot :=
      { staking := Registry.ofList [("a", { stage := some .live }), ("b", {})] }
    let reversed : List (String × StakingRecord) :=
      [("b", {}), ("a", { stage := some .live })]
    decode StakingRecord.reader "\x7b\"x\":[\x7b\x7d], \"stage\":\"live\"\x7d" =
        .ok { stage := some .live } ∧
      DecodesFirstFields Snapshot.reader
        (snapshot.toJsonOrdered reversed).members ∧
      DecodesFirstFields Settings.reader
        (Settings.toJsonOrdered {} [] []).members := by
  intro snapshot reversed
  have laws := stored_records_depend_on_members
  let stage : MemberText := ⟨"stage\"".toList, [], [], "\"live\"".toList⟩
  let unknown : MemberText := ⟨"x\"".toList, [], [], "[\x7b\x7d]".toList⟩
  have stageValid : stage.IsValid :=
    ⟨⟨isStringBody_written "stage".toList, blankRun_nil, blankRun_nil⟩,
      .string (isStringBody_written "live".toList)⟩
  have object : IsValue "\x7b\x7d".toList :=
    @IsValue.object [] ['}'] (by simp) (by simp) (.close blankRun_nil)
  have start : Separates true [] := blankRun_nil
  have elements : Lays ']' true ["\x7b\x7d".toList] "\x7b\x7d]".toList :=
    .part start (.close blankRun_nil)
  have unknownValid : unknown.IsValid :=
    ⟨⟨isStringBody_written "x".toList, blankRun_nil, blankRun_nil⟩,
      .list (by simpa using object) elements⟩
  have comma : Separates false [',', ' '] :=
    ⟨[], [' '], blankRun_nil, by simp [BlankRun, isBlank], rfl⟩
  have laid : LaysObject ([] ++ [stage]) "\x7b\"stage\":\"live\"\x7d".toList :=
    ⟨by simpa using stageValid, [], _, [], blankRun_nil, blankRun_nil,
      .part start (.close blankRun_nil), rfl⟩
  have laid' : LaysObject ([] ++ unknown :: [stage])
      "\x7b\"x\":[\x7b\x7d], \"stage\":\"live\"\x7d".toList :=
    ⟨by simpa using ⟨unknownValid, stageValid⟩, [], _, [], blankRun_nil,
      blankRun_nil, .part start (.part comma (.close blankRun_nil)), rfl⟩
  have decoded : decode StakingRecord.reader "\x7b\"stage\":\"live\"\x7d" =
      .ok { stage := some .live } := by
    decide +kernel
  refine ⟨?_, ?_, ?_⟩
  · exact laws.2.1.1.inserted laid decoded (reads_stringBody "x".toList [])
      (by decide) laid'
  · exact laws.2.2.1.2 snapshot reversed (by decide)
  · exact laws.2.2.2.2 {} [] [] (by decide) (by decide)

end WalletRows
