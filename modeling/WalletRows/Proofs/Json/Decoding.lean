import WalletRows.Proofs.Json.BracketText
import WalletRows.Proofs.Named

/-!
# Decoders undo the written forms

For each kind of value that is stored, its decoder gives it back from every
spelling of its written form.  For a record this needs one fact for each of its
fields: that the field takes its value as the update that puts it in place.
-/

namespace WalletRows

namespace Json

open Value

/-! ## Values without parts -/

theorem reads_colon {gap : List Char} (blank : BlankRun gap)
    (rest : List Char) : Reads colon (gap ++ ':' :: rest) () rest := by
  rw [colon, reads_afterBlank_iff, skipBlank_append blank]
  exact gives_ok

theorem readsBack_text (value : String) :
    ReadsBack text (.string value) value := by
  refine readsBack_afterBlank ?_
  intro text rest spells _
  simp only [Spells, scalar, writtenString] at spells
  subst spells
  rw [List.append_assoc]
  have reads := Gives.mapValue (reads_stringBody value.toList rest) String.ofList
  rw [String.ofList_toList] at reads
  exact gives_behind_iff.mpr reads

theorem readsBack_boolean (value : Bool) :
    ReadsBack boolean (.boolean value) value := by
  refine readsBack_afterBlank ?_
  intro text rest spells _
  cases value with
  | true =>
      simp only [Spells, scalar] at spells
      subst spells
      exact gives_keyword ['r', 'u', 'e'] true rest
  | false =>
      simp only [Spells, scalar] at spells
      subst spells
      exact gives_keyword ['a', 'l', 's', 'e'] false rest

theorem readsBack_int32 (value : Int32) :
    ReadsBack int32 (.integer value.toInt) value := by
  intro gap text rest blank spells ended
  simp only [Spells, scalar] at spells
  subst spells
  have reads := reads_int32 ended value
  rw [int32, integer] at reads ⊢
  exact reads.behindBlanks blank

theorem readsBack_int64 (value : Int64) :
    ReadsBack int64 (.integer value.toInt) value := by
  intro gap text rest blank spells ended
  simp only [Spells, scalar] at spells
  subst spells
  have reads := reads_int64 ended value
  rw [int64, integer] at reads ⊢
  exact reads.behindBlanks blank

theorem named_name {α : Type} [Named α] [LawfulNamed α] (value : α) :
    named (Named.name value).toList = .ok value := by
  rw [named, String.ofList_toList, LawfulNamed.ofName?_name]

theorem readsBack_choice {α : Type} [Named α] [LawfulNamed α] (value : α) :
    ReadsBack choice (.ofNamed value) value := by
  refine readsBack_afterBlank ?_
  intro text rest spells _
  simp only [ofNamed, Spells, scalar, writtenString] at spells
  subst spells
  rw [List.append_assoc]
  exact gives_behind_iff.mpr
    (Gives.checkValue (reads_stringBody _ rest) (named_name value))

/-! ## Absent values and lists -/

theorem readsBack_none {α : Type} (reader : Reader α) :
    ReadsBack (optional reader) .null none := by
  refine readsBack_afterBlank ?_
  intro text rest spells _
  simp only [Spells, scalar] at spells
  subst spells
  exact gives_keyword ['u', 'l', 'l'] none rest

theorem readsBack_some {α : Type} {reader : Reader α} {value : Value}
    {result : α} (present : value ≠ .null)
    (back : ReadsBack reader value result) :
    ReadsBack (optional reader) value (some result) := by
  refine readsBack_afterBlank ?_
  intro text rest spells ended
  obtain ⟨first, later, starts, -, -, notNull⟩ := spells.starts
  have reads : Reads reader (text ++ rest) result rest :=
    back [] text rest blankRun_nil spells ended
  have notLetter : ∀ behind, text ++ rest ≠ 'n' :: behind := by
    rw [starts, List.cons_append]
    exact fun behind same => notNull present (List.cons.inj same).1
  rw [Reads]
  generalize text ++ rest = whole at reads notLetter
  split
  · exact absurd rfl (notLetter _)
  · exact Gives.mapValue reads some

theorem string_ne_null (text : String) : Value.string text ≠ .null := by
  intro null
  cases null

theorem ofNamed_ne_null {α : Type} [Named α] (value : α) :
    ofNamed value ≠ .null :=
  string_ne_null _

/-- A value that may be absent is given back if every value is. -/
theorem readsBack_optional {α : Type} {reader : Reader α}
    {toValue : α → Value} (present : ∀ value, toValue value ≠ .null)
    (back : ∀ value, ReadsBack reader (toValue value) value)
    (result : Option α) :
    ReadsBack (optional reader) (.ofOption toValue result) result := by
  cases result with
  | none => exact readsBack_none reader
  | some value => exact readsBack_some (present value) (back value)

theorem readsBack_list {α : Type} {item : Reader α} {toValue : α → Value}
    (back : ∀ value, ReadsBack item (toValue value) value)
    (values : List α) :
    ReadsBack (list item) (.list (values.map toValue)) values := by
  refine readsBack_afterBlank ?_
  intro text rest spells _
  rw [Spells] at spells
  obtain ⟨inner, spelled, rfl⟩ := spells
  exact gives_behind_iff.mpr (reads_elements back spelled rest)

/-! ## Members -/

/-- What reading a member goes through behind its opening quote. -/
theorem IsMember.text_eq {name : String} {written text : List Char}
    (isMember : IsMember name written text) (rest : List Char) :
    ∃ before after, BlankRun before ∧ BlankRun after ∧
      text ++ rest = name.toList.flatMap writtenCharacter ++
        '"' :: (before ++ ':' :: (after ++ (written ++ rest))) := by
  obtain ⟨before, after, blank, blank', rfl⟩ := isMember
  exact ⟨before, after, blank, blank', by simp⟩

/-- An entry is given back if its key and its value are. -/
theorem reads_entry {κ α : Type} {key : List Char → Except Error κ}
    {reader : Reader α} {name : String} {found : κ} {value : Value} {result : α}
    (accepted : key name.toList = .ok found)
    (back : ReadsBack reader value result) {written text rest : List Char}
    (spells : value.Spells written) (isMember : IsMember name written text)
    (ended : EndsNumber rest) :
    Reads (entry key reader) (text ++ rest) (found, result) rest := by
  obtain ⟨before, after, blank, blank', same⟩ := isMember.text_eq rest
  rw [same]
  have keyReads := Gives.checkValue (reads_stringBody name.toList
    (before ++ ':' :: (after ++ (written ++ rest)))) accepted
  have valueReads := back after written rest blank' spells ended
  exact keyReads.andThen
    (Gives.andThen (reads_colon blank _) (valueReads.mapValue (found, ·)))

section Maps

variable {κ α σ : Type} {key : List Char → Except Error κ} {reader : Reader α}
variable {insert : σ → κ → α → σ} (name : κ → String) (toValue : α → Value)

/-- The entries of a map are put into the collection in their written order. -/
theorem updates_entries (keys : ∀ choice, key (name choice).toList = .ok choice)
    (back : ∀ value, ReadsBack reader (toValue value) value)
    (entries : List (κ × α)) (state : σ) :
    Updates
      (fun entries text =>
        mapValue (fun (key, value) => insert entries key value)
          (entry key reader text))
      state (entries.map fun entry => (name entry.1, toValue entry.2))
      (entries.foldl (fun state entry => insert state entry.1 entry.2)
        state) := by
  induction entries generalizing state with
  | nil => exact .done state
  | cons first entries ih =>
      refine .next ?_ (ih _)
      intro written text rest spells isMember ended
      have reads := reads_entry (keys first.1) (back first.2) spells isMember
        ended
      exact Gives.mapValue reads _

theorem readsBack_map (keys : ∀ choice, key (name choice).toList = .ok choice)
    (back : ∀ value, ReadsBack reader (toValue value) value)
    (entries : List (κ × α)) (empty : σ) :
    ReadsBack (map key reader empty insert)
      (.object (entries.map fun entry => (name entry.1, toValue entry.2)))
      (entries.foldl (fun state entry => insert state entry.1 entry.2)
        empty) := by
  refine readsBack_afterBlank ?_
  intro text rest spells _
  rw [Spells] at spells
  obtain ⟨inner, spelled, rfl⟩ := spells
  exact gives_behind_iff.mpr
    ((updates_entries name toValue keys back entries empty).reads spelled rest)

end Maps

/-! ## Records -/

theorem readsBack_field {R α : Type} {reader : Reader α} {value : Value}
    {result : α} (back : ReadsBack reader value result) (name : String)
    (store : α → R → R) :
    ReadsBack (Field.of name reader store).update value (store result) := by
  intro gap text rest blank spells ended
  exact Gives.mapValue (back gap text rest blank spells ended) store

def Value.members : Value → List (String × Value)
  | .object members => members
  | _ => []

/-- Members in the order of the fields take a record to another: each value is
given back as the update that puts it in place. -/
inductive Fills {R : Type} :
    List (Field R) → List (String × Value) → R → R → Prop
  | none (record : R) : Fills [] [] record record
  | member {field : Field R} {fields : List (Field R)} {value : Value}
      {members : List (String × Value)} {record final : R} {update : R → R}
      (back : ReadsBack field.update value update)
      (others : Fills fields members (update record) final) :
      Fills (field :: fields) ((field.name, value) :: members) record final

/-- A member that was not given yet updates the record through its field. -/
theorem reads_member {R : Type} {fields : List (Field R)} {field : Field R}
    (found : fields.find? (fun other => other.name = field.name) = some field)
    {draft : Draft R} (fresh : field.name ∉ draft.given) {value : Value}
    {update : R → R} (back : ReadsBack field.update value update)
    {written text rest : List Char} (spells : value.Spells written)
    (isMember : IsMember field.name written text) (ended : EndsNumber rest) :
    Reads (Draft.member fields draft) (text ++ rest)
      ⟨field.name :: draft.given, update draft.record⟩ rest := by
  obtain ⟨before, after, blank, blank', same⟩ := isMember.text_eq rest
  rw [same]
  have keyReads := reads_stringBody field.name.toList
    (before ++ ':' :: (after ++ (written ++ rest)))
  have valueReads := back after written rest blank' spells ended
  refine Gives.andThen keyReads ?_
  simp only [String.ofList_toList, found, fresh, if_false]
  exact Gives.andThen (reads_colon blank _) (Gives.mapValue valueReads _)

theorem find?_name_of_mem {R : Type} {fields : List (Field R)}
    (distinct : (fields.map Field.name).Nodup) {field : Field R}
    (member : field ∈ fields) :
    fields.find? (fun other => other.name = field.name) = some field := by
  cases found : fields.find? (fun other => other.name = field.name) with
  | none =>
      have missing := List.find?_eq_none.mp found field member
      simp at missing
  | some other =>
      have same : other.name = field.name := by
        simpa using List.find?_some found
      exact congrArg some (List.inj_on_of_nodup_map distinct
        (List.mem_of_find?_eq_some found) member same)

/-- Reading the members updates the draft field by field. -/
theorem Fills.updates {R : Type} {all fields : List (Field R)}
    {members : List (String × Value)} {record final : R}
    (fills : Fills fields members record final)
    (found : ∀ field ∈ fields,
      all.find? (fun other => other.name = field.name) = some field)
    (distinct : (fields.map Field.name).Nodup) {given : List String}
    (fresh : ∀ field ∈ fields, field.name ∉ given) :
    ∃ names, Updates (Draft.member all) ⟨given, record⟩ members
      ⟨names, final⟩ := by
  induction fills generalizing given with
  | none record => exact ⟨given, .done _⟩
  | @member field fields value members record final update back others ih =>
      rw [List.map_cons, List.nodup_cons] at distinct
      -- The invariant: no field that is still to come was given.
      have later : ∀ other ∈ fields, other.name ∉ field.name :: given := by
        intro other isMember repeated
        rcases List.mem_cons.mp repeated with same | old
        · exact distinct.1 (List.mem_map.mpr ⟨other, isMember, same⟩)
        · exact fresh other (List.mem_cons_of_mem _ isMember) old
      obtain ⟨names, updates⟩ := ih
        (fun other isMember => found other (List.mem_cons_of_mem _ isMember))
        distinct.2 later
      refine ⟨names, .next ?_ updates⟩
      intro written text rest spells isMember ended
      exact @reads_member R all field (found field List.mem_cons_self)
        ⟨given, record⟩ (fresh field List.mem_cons_self) value update back
        written text rest spells isMember ended

/-- A record is given back from the members of its first fields if each of these
takes its value. -/
theorem readsBack_members {R : Type} (kind : String)
    {fields more : List (Field R)} {members : List (String × Value)}
    {default final : R} (fills : Fills fields members default final)
    (distinct : ((fields ++ more).map Field.name).Nodup) :
    ReadsBack (record kind (fields ++ more) default) (.object members)
      final := by
  refine readsBack_afterBlank ?_
  intro text rest spells _
  rw [Spells] at spells
  obtain ⟨inner, spelled, rfl⟩ := spells
  have known : ∀ field ∈ fields,
      (fields ++ more).find? (fun other => other.name = field.name) =
        some field := fun field member =>
    find?_name_of_mem distinct (List.mem_append_left more member)
  rw [List.map_append] at distinct
  obtain ⟨names, updates⟩ : ∃ names, Updates (Draft.member (fields ++ more))
      ⟨[], default⟩ members ⟨names, final⟩ :=
    fills.updates known (List.nodup_append.mp distinct).1 (by simp)
  exact gives_behind_iff.mpr
    (Gives.mapValue (updates.reads spelled rest) Draft.record)

theorem readsBack_record {R : Type} (kind : String) {fields : List (Field R)}
    {members : List (String × Value)} {default final : R}
    (fills : Fills fields members default final)
    (distinct : (fields.map Field.name).Nodup) :
    ReadsBack (record kind fields default) (.object members) final := by
  have back := @readsBack_members R kind fields [] members default final fills
  rw [List.append_nil] at back
  exact back distinct

/-- A text that spells a value is decoded to what its reader gives back. -/
theorem decode_of_readsBack {α : Type} {reader : Reader α} {value : Value}
    {result : α} (back : ReadsBack reader value result) {text : String}
    (spells : value.Spells text.toList) : decode reader text = .ok result := by
  have reads := back [] text.toList [] blankRun_nil spells (by simp [EndsNumber])
  rw [List.append_nil] at reads
  exact decode_of_reads reads rfl

end Json

end WalletRows
