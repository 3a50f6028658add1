import Mathlib.Data.List.ReduceOption
import WalletRows.Proofs.Json.RegularReaders

/-!
# Records are read member by member

A member offers a record the change that its field makes of the value, or
nothing if no field has its name.  An object is read to a record exactly if its
members offer changes of different fields, and a list exactly if its parts are
values of the first fields in their order.
-/

namespace WalletRows

namespace Json

variable {R : Type}

/-! ## What a member offers -/

/-- A change of a record through one of its fields. -/
structure Change (R : Type) where
  name : String
  /-- What is done to the record. -/
  update : R → R

/-- What a member offers to a record with given fields. -/
inductive Offers (fields : List (Field R)) (member : MemberText) :
    Option (Change R) → Prop
  | change {field : Field R} {update : R → R} (keyed : member.IsKeyed)
      (named : TakesOff stringBody member.key field.name.toList)
      (found : fields.find? (fun other => other.name = field.name) = some field)
      (value : IsValueOf field.update member.value update) :
      Offers fields member (some ⟨field.name, update⟩)
  | nothing {name : List Char} (valid : member.IsValid)
      (named : TakesOff stringBody member.key name)
      (foreign : fields.find? (fun field => field.name = String.ofList name) =
        none) :
      Offers fields member none

/-- The draft behind a member. -/
def Draft.accept (draft : Draft R) : Option (Change R) → Draft R
  | none => draft
  | some change => ⟨change.name :: draft.given, change.update draft.record⟩

/-- A member takes a draft to another: it offers nothing, or a change of a field
that was not given before. -/
def Accepts (fields : List (Field R)) (draft : Draft R) (member : MemberText)
    (next : Draft R) : Prop :=
  ∃ offer, Offers fields member offer ∧
    (∀ change ∈ offer, change.name ∉ draft.given) ∧ next = draft.accept offer

theorem Accepts.isMemberOf {fields : List (Field R)} {draft next : Draft R}
    {member : MemberText} (accepts : Accepts fields draft member next) :
    IsMemberOf (Draft.member fields draft) member next := by
  obtain ⟨offer, offers, fresh, rfl⟩ := accepts
  cases offers with
  | @change field update keyed named found value =>
      have fresh : field.name ∉ draft.given := fresh _ rfl
      apply Json.isMemberOf keyed named value.isValue
      intro rest ended
      simp only [String.ofList_toList, found, fresh, if_false]
      exact (value.mapValue _).behindColon keyed.before keyed.after ended
  | @nothing name valid named foreign =>
      apply Json.isMemberOf valid.keyed named valid.value
      intro rest ended
      have skipped := valid.value.isValueOf_skipValue.mapValue fun () => draft
      simp only [foreign]
      exact skipped.behindColon valid.keyed.before valid.keyed.after ended

/-- Every member that is read offers something. -/
theorem Reads.draftMember_text {fields : List (Field R)}
    (regular : ∀ field ∈ fields, Regular field.update) {draft next : Draft R}
    {text rest : List Char}
    (reads : Reads (Draft.member fields draft) text next rest) :
    ∃ member, Accepts fields draft member next ∧
      text = member.unquoted ++ rest := by
  obtain ⟨key, afterKey, taken, left⟩ := gives_andThen_iff.mp reads
  obtain ⟨body, isBody, rfl, named⟩ := Reads.stringBody_text taken
  cases found : fields.find? fun field => field.name = String.ofList key with
  | some field =>
      simp only [found] at left
      have name : field.name = String.ofList key := by
        simpa using List.find?_some found
      split at left
      · exact absurd left not_gives_error
      · rename_i fresh
        obtain ⟨_, afterColon, colon, left⟩ := gives_andThen_iff.mp left
        obtain ⟨update, own, rfl⟩ := gives_mapValue_iff.mp left
        obtain ⟨before, after, value, blank, blank', isValueOf, rfl⟩ :=
          Reads.behindColon_text (regular field (List.mem_of_find?_eq_some found))
            (Gives.andThen colon own)
        -- The key that was read is the name of the field.
        rw [← String.toList_ofList (l := key), ← name] at named
        rw [← name] at found
        refine ⟨⟨body, before, after, value⟩, ⟨some ⟨field.name, update⟩,
          .change ⟨isBody, blank, blank'⟩ named found isValueOf, ?_, rfl⟩, ?_⟩
        · rintro _ ⟨⟩
          exact fresh
        · simp only [MemberText.unquoted, List.append_assoc, List.cons_append]
  | none =>
      simp only [found] at left
      obtain ⟨_, afterColon, colon, left⟩ := gives_andThen_iff.mp left
      obtain ⟨_, skipped, rfl⟩ := gives_mapValue_iff.mp left
      obtain ⟨before, after, value, blank, blank', isValueOf, rfl⟩ :=
        Reads.behindColon_text regular_skipValue (Gives.andThen colon skipped)
      refine ⟨⟨body, before, after, value⟩, ⟨none, .nothing
        ⟨⟨isBody, blank, blank'⟩, isValueOf.isValue⟩ named found, ?_, rfl⟩, ?_⟩
      · simp
      · simp only [MemberText.unquoted, List.append_assoc, List.cons_append]

/-! ## Values in the order of the fields -/

/-- Parts of a list are values of the first fields and take a record to
another. -/
inductive Placed : List (Field R) → List (List Char) → R → R → Prop
  | done (fields : List (Field R)) (record : R) : Placed fields [] record record
  | next {field : Field R} {fields : List (Field R)} {part : List Char}
      {parts : List (List Char)} {record final : R} {update : R → R}
      (value : IsValueOf field.update part update)
      (later : Placed fields parts (update record) final) :
      Placed (field :: fields) (part :: parts) record final

theorem Placed.isValue {fields : List (Field R)} {parts : List (List Char)}
    {record final : R} (placed : Placed fields parts record final) :
    ∀ part ∈ parts, IsValue part := by
  induction placed with
  | done fields record => simp
  | next value later ih => exact List.forall_mem_cons.mpr ⟨value.isValue, ih⟩

theorem reads_noElement {gap : List Char} (blank : BlankRun gap)
    (rest : List Char) : Reads noElement (gap ++ ']' :: rest) () rest := by
  rw [noElement, reads_afterBlank_iff, skipBlank_append blank]
  exact gives_ok

theorem Reads.noElement_text {text rest : List Char}
    (reads : Reads noElement text () rest) :
    ∃ gap, BlankRun gap ∧ text = gap ++ ']' :: rest := by
  unfold noElement at reads
  obtain ⟨gap, start, blank, rfl, -, here⟩ := reads.afterBlank_text
  rw [Reads] at here
  split at here
  · exact absurd here not_gives_error
  · obtain ⟨-, rfl⟩ := gives_ok_iff.mp here
    exact ⟨gap, blank, rfl⟩
  · split at here <;> exact absurd here not_gives_error
  · exact absurd here not_gives_error

/-- The parts of a list are read field by field. -/
theorem Lays.reads_positions {fields : List (Field R)} {first : Bool}
    {parts : List (List Char)} {inner : List Char}
    (laid : Lays ']' first parts inner) {record final : R}
    (placed : Placed fields parts record final) (rest : List Char) :
    Reads (positions fields record first) (inner ++ rest) final rest := by
  induction placed generalizing first inner with
  | done fields record =>
      cases laid with
      | @close _ gap blank =>
          rw [List.append_assoc, List.singleton_append]
          cases fields with
          | nil => exact Gives.mapValue (reads_noElement blank rest) _
          | cons field fields =>
              obtain ⟨shorter, step⟩ :=
                @nextElement_close .kept gap first blank rest
              rw [Reads, positions]
              simp only [step]
              exact gives_ok
  | next value later ih =>
      cases laid with
      | @part _ gap part behind _ separates others =>
          obtain ⟨character, left, rfl, solid, notClose⟩ := value.isValue.starts
          obtain ⟨shorter, step⟩ := @nextElement_part .kept gap first separates
            character solid notClose (left ++ (behind ++ rest))
          have reads := value.takes [] (behind ++ rest) blankRun_nil
            (others.endsNumber (.inl rfl) rest)
          rw [List.append_assoc, List.append_assoc, List.cons_append, Reads,
            positions]
          simp only [step, gives_widen_iff]
          exact Gives.andThen reads (ih others)

/-- What is read as values in the order of the fields has them as parts. -/
theorem Reads.positions_text {fields : List (Field R)}
    (regular : ∀ field ∈ fields, Regular field.update) {first : Bool}
    {record final : R} {text rest : List Char}
    (reads : Reads (positions fields record first) text final rest) :
    ∃ parts inner, Lays ']' first parts inner ∧
      Placed fields parts record final ∧ text = inner ++ rest := by
  induction fields generalizing first record text with
  | nil =>
      obtain ⟨_, left, rfl⟩ := gives_mapValue_iff.mp reads
      obtain ⟨gap, blank, rfl⟩ := Reads.noElement_text left
      exact ⟨[], gap ++ [']'], .close blank, .done _ _, by simp⟩
  | cons field fields ih =>
      rw [List.forall_mem_cons] at regular
      rw [Reads, positions] at reads
      beta_reduce at reads
      split at reads
      · exact absurd reads not_gives_error
      · rename_i left step
        obtain ⟨rfl, rfl⟩ := gives_ok_iff.mp reads
        obtain ⟨gap, blank, same⟩ := nextElement_eq_close step
        exact ⟨[], gap ++ [']'], .close blank, .done _ _, by simpa using same⟩
      · rename_i start within step
        rw [gives_widen_iff] at reads
        obtain ⟨update, later, taken, left⟩ := gives_andThen_iff.mp reads
        obtain ⟨gap, separates, same⟩ := nextElement_eq_part step
        obtain ⟨gap', written, blank, isValueOf, same'⟩ := regular.1 taken
        obtain ⟨parts, inner, laid, placed, same''⟩ := ih regular.2 left
        refine ⟨written :: parts, (gap ++ gap') ++ (written ++ inner),
          .part (separates.append blank) laid, .next isValueOf placed, ?_⟩
        simp only [same, same', same'', List.append_assoc]

/-! ## Records -/

def EndsInBracket (text : List Char) : Prop :=
  ∃ front closing, (closing = ']' ∨ closing = '}') ∧ text = front ++ [closing]

theorem Lays.endsInBracket {closing : Char} {first : Bool}
    {parts : List (List Char)} {inner : List Char}
    (laid : Lays closing first parts inner) :
    ∃ front, inner = front ++ [closing] := by
  induction laid with
  | @close first gap blank => exact ⟨gap, rfl⟩
  | @part first gap part later parts separates others ih =>
      obtain ⟨front, rfl⟩ := ih
      exact ⟨gap ++ (part ++ front), by simp⟩

/-- A record is read up to its closing bracket, whatever follows. -/
theorem Reads.record_text {kind : String} {fields : List (Field R)}
    (regular : ∀ field ∈ fields, Regular field.update) {default result : R}
    {text rest : List Char}
    (reads : Reads (record kind fields default) text result rest) :
    ∃ gap written, BlankRun gap ∧ IsValue written ∧ EndsInBracket written ∧
      TakesOff (record kind fields default) written result ∧
      text = gap ++ (written ++ rest) := by
  unfold record at reads
  obtain ⟨gap, start, blank, rfl, solid, here⟩ := reads.afterBlank_text
  rw [Reads] at here
  split at here
  · rw [gives_behind_iff] at here
    obtain ⟨parts, inner, laid, placed, rfl⟩ := Reads.positions_text regular here
    obtain ⟨front, same⟩ := laid.endsInBracket
    refine ⟨gap, '[' :: inner, blank, .list placed.isValue laid,
      ⟨'[' :: front, ']', .inl rfl, by rw [same]; rfl⟩, ?_, rfl⟩
    intro other
    rw [record, reads_afterBlank_iff, List.cons_append,
      skipBlank_of_not_isBlank (by decide)]
    exact gives_behind_iff.mpr (laid.reads_positions placed other)
  · rw [gives_behind_iff] at here
    obtain ⟨draft, taken, rfl⟩ := gives_mapValue_iff.mp here
    obtain ⟨members, inner, laid, runs, rfl⟩ :=
      Reads.members_text (Reads.draftMember_text regular) taken
    obtain ⟨front, same⟩ := laid.endsInBracket
    refine ⟨gap, '{' :: inner, blank,
      isValue_of_runs laid runs fun accepts => accepts.isMemberOf.isValid,
      ⟨'{' :: front, '}', .inr rfl, by rw [same]; rfl⟩, ?_, rfl⟩
    intro other
    rw [record, reads_afterBlank_iff, List.cons_append,
      skipBlank_of_not_isBlank (by decide)]
    exact gives_behind_iff.mpr
      (Gives.mapValue (laid.reads_members Accepts.isMemberOf runs other) _)
  · exact absurd here not_gives_error

theorem regular_record (kind : String) {fields : List (Field R)}
    (regular : ∀ field ∈ fields, Regular field.update) (default : R) :
    Regular (record kind fields default) := by
  intro text result rest reads
  obtain ⟨gap, written, blank, isValue, -, takes, same⟩ :=
    reads.record_text regular
  exact ⟨gap, written, blank, ⟨isValue, fun gap' rest' blank' _ =>
    (takes rest').behindBlanks blank'⟩, same⟩

theorem regular_field {α : Type} {reader : Reader α} (regular : Regular reader)
    (name : String) (store : α → R → R) :
    Regular (Field.of name reader store).update :=
  regular.mapValue store

end Json

end WalletRows
