import WalletRows.Proofs.Json.MembersThatCount

/-!
# The first fields of a record

What is written is a value of the grammar.  A list of the written values of the
first fields is decoded field by field, and an object of the same members is
decoded name by name; both lead to the same record.
-/

namespace WalletRows

/-! ## Written values -/

theorem Decimal.isWhole_digits (number : Nat) : Json.IsWhole (digits number) := by
  obtain ⟨first, later, written, alone⟩ := digits_eq_cons number
  have all : ∀ digit ∈ digits number, digit.isDigit = true :=
    fun _ member => isDigit_of_mem_digits member
  rw [written] at all ⊢
  by_cases zero : first = '0'
  · obtain ⟨-, rfl⟩ := alone zero
    rw [zero]
    exact .inl rfl
  · exact .inr ⟨⟨by simp, all⟩, by simpa using zero⟩

namespace Json

theorem isLiteral_signed (value : Int) :
    IsLiteral (Decimal.signed value) (literalOf value) := by
  have unsigned : IsUnsigned (Decimal.digits value.natAbs) (literalOf value) :=
    ⟨⟨[], [], .none, .none, by simp [literalOf]⟩,
      Decimal.isWhole_digits value.natAbs⟩
  refine ⟨_, unsigned, ?_⟩
  cases value with
  | ofNat number => rfl
  | negSucc number => simp [Decimal.signed, literalOf]

theorem IsStringBody.written {body : List Char} (isBody : IsStringBody body)
    (character : Char) : IsStringBody (writtenCharacter character ++ body) := by
  cases letter? : escapeLetter? character with
  | some letter =>
      have known := escaped?_of_escapeLetter? letter?
      simp only [writtenCharacter, letter?, List.cons_append, List.nil_append]
      exact .letter (by rw [known]; rfl) isBody
  | none =>
      by_cases control : character < ' '
      · have small : character.toNat < 32 := control
        have high : Decimal.digit? 16 (hexDigit (character.toNat / 16)) =
            some (character.toNat / 16) := digit?_hexDigit (by omega)
        have low : Decimal.digit? 16 (hexDigit (character.toNat % 16)) =
            some (character.toNat % 16) := digit?_hexDigit (by omega)
        have hex : IsHexUnit ['0', '0', hexDigit (character.toNat / 16),
            hexDigit (character.toNat % 16)] := by
          have zero : (Decimal.digit? 16 '0').isSome = true := by decide
          refine ⟨rfl, ?_⟩
          simp only [List.forall_mem_cons, high, low]
          exact ⟨zero, zero, rfl, rfl, by simp⟩
        simp only [writtenCharacter, letter?, control, if_true]
        exact .unit hex isBody
      · simp only [writtenCharacter, letter?, control, if_false,
          List.singleton_append]
        refine .plain control ?_ ?_ isBody
        · rintro rfl
          simp [escapeLetter?] at letter?
        · rintro rfl
          simp [escapeLetter?] at letter?

theorem isStringBody_written (characters : List Char) :
    IsStringBody (characters.flatMap writtenCharacter ++ ['"']) := by
  induction characters with
  | nil => exact .quote
  | cons character characters ih =>
      rw [List.flatMap_cons, List.append_assoc]
      exact ih.written character

namespace Value

mutual

/-- What spells a value is one. -/
theorem Spells.isValue : (value : Value) → {text : List Char} →
    value.Spells text → IsValue text
  | .null, _, spells => by
      simp only [Spells, scalar] at spells
      exact .word (by simp [words, spells])
  | .boolean value, _, spells => by
      cases value <;> simp only [Spells, scalar] at spells <;>
        exact .word (by simp [words, spells])
  | .integer value, _, spells => by
      simp only [Spells, scalar] at spells
      rw [spells]
      exact .number (isLiteral_signed value)
  | .string value, _, spells => by
      simp only [Spells, scalar, writtenString, List.cons_append] at spells
      rw [spells]
      exact .string (isStringBody_written value.toList)
  | .list elements, _, spells => by
      rw [Spells] at spells
      obtain ⟨inner, spelled, rfl⟩ := spells
      obtain ⟨parts, laid, -, values⟩ := SpellsElements.lays elements spelled
      exact .list values laid
  | .object members, _, spells => by
      rw [Spells] at spells
      obtain ⟨inner, spelled, rfl⟩ := spells
      obtain ⟨parts, laid, keyed, values⟩ := SpellsMembers.lays members spelled
      exact .object keyed values laid

theorem SpellsElements.lays : (elements : List Value) → {first : Bool} →
    {text : List Char} → SpellsElements first elements text →
      ∃ parts, Lays ']' first parts text ∧
        List.Forall₂ Spells elements parts ∧ ∀ part ∈ parts, IsValue part
  | [], _, _, spells => by
      rw [SpellsElements] at spells
      obtain ⟨gap, blank, rfl⟩ := spells
      exact ⟨[], .close blank, .nil, by simp⟩
  | element :: elements, _, _, spells => by
      rw [SpellsElements] at spells
      obtain ⟨gap, written, later, separates, spelled, others, rfl⟩ := spells
      obtain ⟨parts, laid, all, values⟩ := SpellsElements.lays elements others
      exact ⟨written :: parts, .part separates laid, .cons spelled all,
        List.forall_mem_cons.mpr ⟨Spells.isValue element spelled, values⟩⟩

theorem SpellsMembers.lays : (members : List (String × Value)) →
    {first : Bool} → {text : List Char} → SpellsMembers first members text →
      ∃ parts : List MemberText, Lays '}' first (parts.map MemberText.text) text ∧
        (∀ part ∈ parts, part.IsKeyed) ∧ ∀ part ∈ parts, IsValue part.value
  | [], _, _, spells => by
      rw [SpellsMembers] at spells
      obtain ⟨gap, blank, rfl⟩ := spells
      exact ⟨[], .close blank, by simp, by simp⟩
  | (key, value) :: members, _, _, spells => by
      rw [SpellsMembers] at spells
      obtain ⟨gap, written, member, later, separates, spelled, isMember, others,
        rfl⟩ := spells
      obtain ⟨before, after, blank, blank', rfl⟩ := isMember
      obtain ⟨parts, laid, keyed, values⟩ := SpellsMembers.lays members others
      let part : MemberText :=
        ⟨key.toList.flatMap writtenCharacter ++ ['"'], before, after, written⟩
      have partKeyed : part.IsKeyed :=
        ⟨isStringBody_written key.toList, blank, blank'⟩
      have partValue : IsValue part.value := Spells.isValue value spelled
      refine ⟨part :: parts, ?_, List.forall_mem_cons.mpr ⟨partKeyed, keyed⟩,
        List.forall_mem_cons.mpr ⟨partValue, values⟩⟩
      have laid' : Lays '}' _ (part.text :: parts.map MemberText.text) _ :=
        .part separates laid
      simpa [part, MemberText.text, MemberText.unquoted] using laid'

end

end Value

/-! ## The first fields -/

variable {R : Type}

theorem Fills.take {fields : List (Field R)} {members : List (String × Value)}
    {record final : R} (fills : Fills fields members record final)
    (count : Nat) :
    ∃ result, Fills (fields.take count) (members.take count) record result := by
  induction fills generalizing count with
  | none record =>
      rw [List.take_nil, List.take_nil]
      exact ⟨record, .none record⟩
  | @member field fields value members record final update back others ih =>
      cases count with
      | zero => exact ⟨record, .none record⟩
      | succ count =>
          obtain ⟨result, taken⟩ := ih count
          exact ⟨result, .member back taken⟩

/-- The values of the first fields are placed in their order. -/
theorem Fills.placed {fields : List (Field R)} {members : List (String × Value)}
    {record final : R} (fills : Fills fields members record final)
    (more : List (Field R)) {parts : List (List Char)}
    (spelled : List.Forall₂ Value.Spells (members.map Prod.snd) parts) :
    Placed (fields ++ more) parts record final := by
  induction fills generalizing parts with
  | none record =>
      cases spelled
      exact .done _ record
  | @member field fields value members record final update back others ih =>
      cases spelled with
      | @cons _ part _ parts spells later =>
          have isValueOf : IsValueOf field.update part update :=
            ⟨Value.Spells.isValue value spells, fun gap rest blank ended =>
              back gap part rest blank spells ended⟩
          exact .next isValueOf (ih later)

theorem readsBack_positions {fields : List (Field R)}
    {members : List (String × Value)} {default final : R}
    (fills : Fills fields members default final) (more : List (Field R))
    (kind : String) :
    ReadsBack (record kind (fields ++ more) default)
      (.list (members.map Prod.snd)) final := by
  refine readsBack_afterBlank ?_
  intro text rest spells _
  rw [Value.Spells] at spells
  obtain ⟨inner, spelled, rfl⟩ := spells
  obtain ⟨parts, laid, all, -⟩ := Value.SpellsElements.lays _ spelled
  exact gives_behind_iff.mpr (laid.reads_positions (fills.placed more all) rest)

/-- The values of the first members in a list are decoded to what the object of
these members is decoded to, however many they are. -/
def DecodesFirstFields (reader : Reader R) (members : List (String × Value)) :
    Prop :=
  ∀ count, ∃ result,
    (∀ text : String,
      (Value.list ((members.take count).map Prod.snd)).Spells text.toList →
        decode reader text = .ok result) ∧
    ∀ text : String, (Value.object (members.take count)).Spells text.toList →
      decode reader text = .ok result

theorem Fills.decodesFirstFields {fields : List (Field R)}
    {members : List (String × Value)} {default final : R}
    (fills : Fills fields members default final)
    (distinct : (fields.map Field.name).Nodup) (kind : String) :
    DecodesFirstFields (record kind fields default) members := by
  intro count
  obtain ⟨result, first⟩ := fills.take count
  have all : fields.take count ++ fields.drop count = fields :=
    List.take_append_drop count fields
  rw [← all] at distinct ⊢
  exact ⟨result,
    fun _ spells =>
      decode_of_readsBack (readsBack_positions first _ kind) spells,
    fun _ spells =>
      decode_of_readsBack (readsBack_members kind first distinct) spells⟩

end Json

end WalletRows
