import WalletRows.Proofs.Json.Integers
import WalletRows.Proofs.Json.PartByPart
import WalletRows.Proofs.StoredRecords

/-!
# Stored values are kept as they are written

An integer of a stored record is the one that its text writes, or the text is
refused; no integer is wrapped, rounded or taken from a number of another kind.
Nor is there a choice between values: a record gives each of its members once,
and only the staking records of a snapshot, which are a map, may give a key
again, with the last record for it.
-/

namespace WalletRows

namespace Json

variable {R : Type}

/-- An integer of a record: the name of its member, the bounds of its type, and
where it is found and put. -/
structure IntegerField (R : Type) where
  name : String
  least : Int
  most : Int
  value : R → Int
  put : Int → R → R

def IntegerType.field {α : Type} (type : IntegerType α) (name : String)
    (value : R → α) (put : α → R → R) : IntegerField R where
  name := name
  least := type.least
  most := type.most
  value record := type.toInt (value record)
  put number := put (type.ofInt number)

/-- A number written for an integer of a record is accepted if it is an integer
within the bounds, and then it is found there, with the rest of the record as
it was. -/
structure KeepsInteger (reader : Reader R) (field : IntegerField R) : Prop where
  accepts_iff : ∀ {value text result literal},
    OtherwiseAccepted reader field.name value text result →
      IsLiteral value literal →
        ((∃ changed, decode reader text = .ok changed) ↔
          literal.WritesInteger ∧ field.least ≤ literal.integer ∧
            literal.integer ≤ field.most)
  exact : ∀ {value text result literal changed},
    OtherwiseAccepted reader field.name value text result →
      IsLiteral value literal → decode reader text = .ok changed →
        field.value changed = literal.integer ∧
          changed = field.put literal.integer result

theorem IntegerType.keepsInteger {α : Type} (type : IntegerType α)
    {reader : Reader R} {name : String} {value : R → α} {put : α → R → R}
    (stores : StoresMember reader name type.reader put)
    (value_put : ∀ stored record, value (put stored record) = stored) :
    KeepsInteger reader (type.field name value put) where
  accepts_iff otherwise written := by
    simp only [stores otherwise, type.decode_iff written]
    constructor
    · rintro ⟨-, stored, ⟨writes, same⟩, -⟩
      rw [← same]
      exact ⟨writes, type.least_le stored, type.le_most stored⟩
    · rintro ⟨writes, least, most⟩
      exact ⟨_, type.ofInt _, ⟨writes, type.toInt_ofInt least most⟩, rfl⟩
  exact otherwise written decoded := by
    obtain ⟨stored, own, rfl⟩ := (stores otherwise _).mp decoded
    obtain ⟨-, same⟩ := (type.decode_iff written stored).mp own
    simp only [IntegerType.field, value_put, ← same, type.ofInt_toInt,
      true_and]

end Json

open Json

namespace Transaction

def integers : List (IntegerField Transaction) :=
  [IntegerType.int64.field "amount" amount fun value stored =>
      { stored with amount := value },
    IntegerType.int64.field "mix_denomination" mixDenomination
      fun value stored => { stored with mixDenomination := value },
    IntegerType.int32.field "mix_count" mixCount fun value stored =>
      { stored with mixCount := value },
    IntegerType.int32.field "block_height" blockHeight fun value stored =>
      { stored with blockHeight := value },
    IntegerType.int64.field "timestamp" timestamp fun value stored =>
      { stored with timestamp := value },
    IntegerType.int64.field "vote_reward" voteReward fun value stored =>
      { stored with voteReward := value },
    IntegerType.int32.field "days_to_vote_or_revoke" daysToSpend
      fun value stored => { stored with daysToSpend := value }]

theorem storesMember {α : Type} {own : Reader α} {name : String}
    {store : α → Transaction → Transaction} (regular : Regular own)
    (listed : Field.of name own store ∈ fields)
    (overwrites : ∀ value value' record,
      store value (store value' record) = store value record) :
    StoresMember reader name own store :=
  storesMember_record regular_fields pairwise_apart (by decide) "Transaction" {}
    regular listed overwrites

theorem keepsIntegers : ∀ field ∈ integers, KeepsInteger reader field := by
  have keeps {α : Type} (type : IntegerType α) {name : String}
      {value : Transaction → α} {put : α → Transaction → Transaction}
      (listed : Field.of name type.reader put ∈ fields)
      (overwrites : ∀ stored old record,
        put stored (put old record) = put stored record)
      (value_put : ∀ stored record, value (put stored record) = stored) :
      KeepsInteger reader (type.field name value put) :=
    type.keepsInteger (storesMember type.regular listed overwrites) value_put
  simp only [integers, List.forall_mem_cons]
  and_intros
  all_goals first
    | exact keeps _ (by simp [fields, IntegerType.int64, IntegerType.int32])
        (fun _ _ _ => rfl) fun _ _ => rfl
    | simp

theorem refusesRepeated : RefusesRepeated reader (fields.map Field.name) :=
  refusesRepeated_record regular_fields pairwise_apart (by decide)
    "Transaction" {}

end Transaction

namespace StakingRecord

theorem refusesRepeated : RefusesRepeated reader (fields.map Field.name) :=
  refusesRepeated_record regular_fields pairwise_apart (by decide)
    "StakingRecord" {}

theorem decode_spender_iff {value : List Char} {text : String}
    {result changed : StakingRecord}
    (otherwise : OtherwiseAccepted reader "spender" value text result)
    (present : value ≠ ['n', 'u', 'l', 'l']) :
    decode reader text = .ok changed ↔
      ∃ transaction,
        decode Transaction.reader (String.ofList value) = .ok transaction ∧
          { result with spender := some transaction } = changed := by
  have stores : StoresMember reader "spender" (optional Transaction.reader)
      fun value stored => { stored with spender := value } :=
    storesMember_record regular_fields pairwise_apart (by decide)
      "StakingRecord" {} (regular_optional Transaction.regular_reader)
      (by simp [fields]) fun _ _ _ => rfl
  simp only [stores otherwise, decode_optional_iff otherwise.isValue present]
  constructor
  · rintro ⟨_, ⟨transaction, decoded, rfl⟩, made⟩
    exact ⟨transaction, decoded, made⟩
  · rintro ⟨transaction, decoded, made⟩
    exact ⟨_, ⟨transaction, decoded, rfl⟩, made⟩

end StakingRecord

namespace Snapshot

def integers : List (IntegerField Snapshot) :=
  [IntegerType.int32.field "best_block_height" bestHeight fun value stored =>
      { stored with bestHeight := value },
    IntegerType.int32.field "required_confirmations" required
      fun value stored => { stored with required := value }]

theorem storesMember {α : Type} {own : Reader α} {name : String}
    {store : α → Snapshot → Snapshot} (regular : Regular own)
    (listed : Field.of name own store ∈ fields)
    (overwrites : ∀ value value' record,
      store value (store value' record) = store value record) :
    StoresMember reader name own store :=
  storesMember_record regular_fields pairwise_apart (by decide)
    "WalletSnapshot" {} regular listed overwrites

theorem keepsIntegers : ∀ field ∈ integers, KeepsInteger reader field := by
  have best : StoresMember reader "best_block_height" int32
      fun value stored => { stored with bestHeight := value } :=
    storesMember regular_int32 (by simp [fields]) fun _ _ _ => rfl
  have required : StoresMember reader "required_confirmations" int32
      fun value stored => { stored with required := value } :=
    storesMember regular_int32 (by simp [fields]) fun _ _ _ => rfl
  simp only [integers, List.forall_mem_cons]
  exact ⟨IntegerType.int32.keepsInteger best fun _ _ => rfl,
    IntegerType.int32.keepsInteger required fun _ _ => rfl, by simp⟩

theorem refusesRepeated : RefusesRepeated reader (fields.map Field.name) :=
  refusesRepeated_record regular_fields pairwise_apart (by decide)
    "WalletSnapshot" {}

theorem decode_transactions_iff {inner : List Char} {text : String}
    {parts : List (List Char)} {result changed : Snapshot}
    (otherwise : OtherwiseAccepted reader "transactions" ('[' :: inner) text
      result) (laid : Lays ']' true parts inner)
    (values : ∀ part ∈ parts, IsValue part) :
    decode reader text = .ok changed ↔
      ∃ transactions,
        List.Forall₂ (fun part transaction =>
          decode Transaction.reader (String.ofList part) = .ok transaction)
          parts transactions ∧
        { result with transactions := transactions } = changed := by
  have stores : StoresMember reader "transactions" (list Transaction.reader)
      fun value stored => { stored with transactions := value } :=
    storesMember (regular_list Transaction.regular_reader) (by simp [fields])
      fun _ _ _ => rfl
  simp only [stores otherwise,
    decode_list_iff Transaction.regular_reader laid values]

theorem decode_staking_iff {inner : List Char} {text : String}
    {members : List MemberText} {result changed : Snapshot}
    (otherwise : OtherwiseAccepted reader "staking" ('{' :: inner) text result)
    (laid : Lays '}' true (members.map MemberText.text) inner)
    (valid : ∀ member ∈ members, member.IsValid) :
    decode reader text = .ok changed ↔
      ∃ records, List.Forall₂ (IsEntryOf StakingRecord.reader) members records ∧
        { result with staking := Registry.ofList records } = changed := by
  have stores : StoresMember reader "staking" stakingReader
      fun value stored => { stored with staking := value } :=
    storesMember (regular_map StakingRecord.regular_reader _ _)
      (by simp [fields]) fun _ _ _ => rfl
  simp only [stores otherwise, stakingReader,
    decode_map_iff StakingRecord.regular_reader laid valid]
  constructor
  · rintro ⟨_, ⟨records, all, rfl⟩, made⟩
    exact ⟨records, all, made⟩
  · rintro ⟨records, all, made⟩
    exact ⟨_, ⟨records, all, rfl⟩, made⟩

theorem record?_of_last {inner : List Char} {text name : String}
    {before after : List MemberText} {member : MemberText}
    {result changed : Snapshot}
    (otherwise : OtherwiseAccepted reader "staking" ('{' :: inner) text result)
    (laid : Lays '}' true ((before ++ member :: after).map MemberText.text) inner)
    (valid : ∀ other ∈ before ++ member :: after, other.IsValid)
    (names : member.Names name) (last : ∀ other ∈ after, ¬ other.Names name)
    (decoded : decode reader text = .ok changed) :
    ∃ record,
      decode StakingRecord.reader (String.ofList member.value) = .ok record ∧
        changed.record? name = some record := by
  obtain ⟨records, all, rfl⟩ :=
    (decode_staking_iff otherwise laid valid).mp decoded
  obtain ⟨front, ⟨key, record⟩, back, own, later, rfl⟩ :=
    exists_middle_of_forall₂ all
  have same : key = name := own.1.unique names
  subst same
  have fresh : ∀ entry ∈ back, entry.1 ≠ key := by
    refine forall_of_forall₂ later ?_
    intro other listed entry isEntry repeated
    exact last other listed (repeated ▸ isEntry.1)
  exact ⟨record, own.2, Registry.get?_ofList_of_last fresh front record⟩

/-- A snapshot is accepted with the transactions and the staking records that
are accepted alone, and keeps the last of the records for one key. -/
structure DecodesByPart : Prop where
  transactions : ∀ {inner text parts result},
    OtherwiseAccepted reader "transactions" ('[' :: inner) text result →
      Lays ']' true parts inner → (∀ part ∈ parts, IsValue part) →
        ∀ changed, decode reader text = .ok changed ↔
          ∃ transactions,
            List.Forall₂ (fun part transaction =>
              decode Transaction.reader (String.ofList part) = .ok transaction)
              parts transactions ∧
            { result with transactions := transactions } = changed
  spender : ∀ {value text result},
    OtherwiseAccepted StakingRecord.reader "spender" value text result →
      value ≠ ['n', 'u', 'l', 'l'] →
        ∀ changed, decode StakingRecord.reader text = .ok changed ↔
          ∃ transaction,
            decode Transaction.reader (String.ofList value) = .ok transaction ∧
              { result with spender := some transaction } = changed
  staking : ∀ {inner text members result},
    OtherwiseAccepted reader "staking" ('{' :: inner) text result →
      Lays '}' true (members.map MemberText.text) inner →
        (∀ member ∈ members, member.IsValid) →
          ∀ changed, decode reader text = .ok changed ↔
            ∃ records,
              List.Forall₂ (IsEntryOf StakingRecord.reader) members records ∧
                { result with staking := Registry.ofList records } = changed
  lastRecord : ∀ {inner text name before member after result changed},
    OtherwiseAccepted reader "staking" ('{' :: inner) text result →
      Lays '}' true ((before ++ member :: after).map MemberText.text) inner →
        (∀ other ∈ before ++ member :: after, other.IsValid) →
          member.Names name → (∀ other ∈ after, ¬ other.Names name) →
            decode reader text = .ok changed →
              ∃ record,
                decode StakingRecord.reader (String.ofList member.value) =
                    .ok record ∧
                  changed.record? name = some record

theorem decodesByPart : DecodesByPart where
  transactions otherwise laid values _ :=
    decode_transactions_iff otherwise laid values
  spender otherwise present _ :=
    StakingRecord.decode_spender_iff otherwise present
  staking otherwise laid valid _ := decode_staking_iff otherwise laid valid
  lastRecord := record?_of_last

end Snapshot

/-- An integer of a stored record is kept as it is written or refused, and so is
each transaction of a snapshot; members of a record may not be repeated, and of
repeated entries of a map the last is kept. -/
theorem stored_values_are_kept_as_written :
    (∀ field ∈ Transaction.integers, KeepsInteger Transaction.reader field) ∧
    (∀ field ∈ Snapshot.integers, KeepsInteger Snapshot.reader field) ∧
    RefusesRepeated Transaction.reader (Transaction.fields.map Field.name) ∧
    RefusesRepeated StakingRecord.reader
      (StakingRecord.fields.map Field.name) ∧
    RefusesRepeated Snapshot.reader (Snapshot.fields.map Field.name) ∧
    Snapshot.DecodesByPart :=
  ⟨Transaction.keepsIntegers, Snapshot.keepsIntegers,
    Transaction.refusesRepeated, StakingRecord.refusesRepeated,
    Snapshot.refusesRepeated, Snapshot.decodesByPart⟩

namespace Json.MemberText

/-- The member of a name and a value, without blank characters. -/
def compact (name : String) (value : List Char) : MemberText :=
  ⟨name.toList.flatMap writtenCharacter ++ ['"'], [], [], value⟩

variable {name : String} {value : List Char}

theorem names_compact : (compact name value).Names name :=
  reads_stringBody name.toList []

theorem isValid_compact (isValue : IsValue value) :
    (compact name value).IsValid :=
  ⟨⟨isStringBody_written name.toList, blankRun_nil, blankRun_nil⟩, isValue⟩

theorem laysObject_compact (isValue : IsValue value) :
    LaysObject [compact name value]
      ('{' :: ((compact name value).text ++ ['}'])) := by
  have start : Separates true [] := blankRun_nil
  exact ⟨by simpa using isValid_compact isValue, [], _, [], blankRun_nil,
    blankRun_nil, .part start (.close blankRun_nil), by simp⟩

end Json.MemberText

open MemberText in
/-- The greatest amount is decoded and the next integer refused, a repeated
member is refused, and of two records for one key the last is kept. -/
theorem stored_values_are_kept_as_written_at_bounds :
    let snapshot : Snapshot :=
      { staking := Registry.ofList [("a", {}), ("a", { stage := some .live })] }
    (∃ transaction, decode Transaction.reader
          "\x7b\"amount\":9223372036854775807\x7d" = .ok transaction ∧
        transaction.amount.toInt = 9223372036854775807) ∧
      (¬ ∃ transaction, decode Transaction.reader
        "\x7b\"amount\":9223372036854775808\x7d" = .ok transaction) ∧
      (∃ error, decode StakingRecord.reader
        "\x7b\"stage\":null,\"stage\":null\x7d" = .error error) ∧
      snapshot.record? "a" = some { stage := some .live } := by
  intro snapshot
  have laws := stored_values_are_kept_as_written
  have start : Separates true [] := blankRun_nil
  have comma : Separates false [','] := ⟨[], [], blankRun_nil, blankRun_nil, rfl⟩
  have number {digits : List Char} (whole : IsWhole digits) :
      IsLiteral digits ⟨false, digits, [], none⟩ :=
    ⟨digits, ⟨⟨[], [], .none, .none, by simp⟩, whole⟩, rfl⟩
  have amounts := laws.1 _ List.mem_cons_self
  have amount {digits : List Char} (whole : IsWhole digits) :
      OtherwiseAccepted Transaction.reader "amount" digits
        (String.ofList ('{' :: ((compact "amount" digits).text ++ ['}']))) {} :=
    ⟨"\x7b\"amount\":0\x7d", [], [], compact "amount" ['0'],
      compact "amount" digits, laysObject_compact (.number (number (.inl rfl))),
      by decide +kernel, names_compact, names_compact, rfl, by
        rw [String.toList_ofList]
        exact laysObject_compact (.number (number whole))⟩
  have greatest : IsWhole "9223372036854775807".toList :=
    .inr ⟨⟨by simp, List.all_eq_true.mp (by decide)⟩, by decide⟩
  have beyond : IsWhole "9223372036854775808".toList :=
    .inr ⟨⟨by simp, List.all_eq_true.mp (by decide)⟩, by decide⟩
  have stage {value : List Char} (isValue : IsValue value) :
      (compact "stage" value).IsValid := isValid_compact isValue
  refine ⟨?_, ?_, ?_, ?_⟩
  · obtain ⟨transaction, decoded⟩ :=
      (amounts.accepts_iff (amount greatest) (number greatest)).mpr
        ⟨⟨rfl, rfl, by simp⟩, by decide, by decide⟩
    exact ⟨transaction, decoded,
      (amounts.exact (amount greatest) (number greatest) decoded).1⟩
  · intro accepted
    have bounds :=
      (amounts.accepts_iff (amount beyond) (number beyond)).mp accepted
    exact absurd bounds.2.2 (by decide)
  · have absent : IsValue ['n', 'u', 'l', 'l'] := .word (by simp [words])
    exact @laws.2.2.2.1 _ [] [] [] _ _ "stage" (by decide) names_compact
      names_compact ⟨by simpa using ⟨stage absent, stage absent⟩, [], _, [],
        blankRun_nil, blankRun_nil,
        .part start (.part comma (.close blankRun_nil)), rfl⟩
  · have empty : IsValue ['{', '}'] :=
      @IsValue.object [] ['}'] (by simp) (by simp) (.close blankRun_nil)
    have live := stage (.string (isStringBody_written "live".toList))
    have record : IsValue "\x7b\"stage\":\"live\"\x7d".toList :=
      @IsValue.object [_] _ (by simpa using live.keyed)
        (by simpa using live.value) (.part start (.close blankRun_nil))
    let first := compact "a" ['{', '}']
    let last := compact "a" "\x7b\"stage\":\"live\"\x7d".toList
    have entries : ∀ entry ∈ [first] ++ last :: [], entry.IsValid := by
      simpa using ⟨isValid_compact empty, isValid_compact record⟩
    have inner : Lays '}' true (([first] ++ last :: []).map MemberText.text) _ :=
      .part start (.part comma (.close blankRun_nil))
    have repeated : IsValue ('{' :: _) :=
      .object (fun entry listed => (entries entry listed).keyed)
        (fun entry listed => (entries entry listed).value) inner
    have staking : OtherwiseAccepted Snapshot.reader "staking" _
        "\x7b\"staking\":\x7b\"a\":\x7b\x7d,\"a\":\x7b\"stage\":\"live\"\x7d\x7d\x7d"
        {} :=
      ⟨"\x7b\"staking\":\x7b\x7d\x7d", [], [], compact "staking" ['{', '}'],
        compact "staking" _, laysObject_compact empty, by decide +kernel,
        names_compact, names_compact, rfl,
        @laysObject_compact "staking" _ repeated⟩
    have decoded : decode Snapshot.reader
        "\x7b\"staking\":\x7b\"a\":\x7b\x7d,\"a\":\x7b\"stage\":\"live\"\x7d\x7d\x7d" =
          .ok snapshot := by
      decide +kernel
    obtain ⟨found, own, kept⟩ := laws.2.2.2.2.2.lastRecord staking inner entries
      names_compact (by simp) decoded
    have alone : decode StakingRecord.reader (String.ofList last.value) =
        .ok { stage := some .live } := by
      decide +kernel
    rw [kept, Except.ok.inj (own.symm.trans alone)]

end WalletRows
