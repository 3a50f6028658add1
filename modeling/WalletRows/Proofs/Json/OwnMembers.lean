import WalletRows.Proofs.Json.MembersThatCount

/-!
# The own members of a record

A record takes each of its own members from one place of an object: a second
member of the name is refused, and the value there may be exchanged for another
one without any effect on the rest of the record.  A value is taken within an
object exactly as its reader decodes it alone.
-/

namespace WalletRows

namespace Json

/-! ## Values alone -/

/-- What is decoded off the text of a value is what it is taken as in every
place. -/
theorem decode_value_iff {α : Type} {reader : Reader α} {text : List Char}
    (regular : Regular reader) (isValue : IsValue text) (value : α) :
    decode reader (String.ofList text) = .ok value ↔
      IsValueOf reader text value := by
  have ended : EndsNumber [] := by simp [EndsNumber]
  rw [decode_eq_ok_iff, String.toList_ofList]
  constructor
  · rintro ⟨rest, reads, blanks⟩
    obtain ⟨gap, written, blank, isValueOf, same⟩ := regular reads
    obtain ⟨after, blank', rest_eq⟩ := exists_gap rest
    rw [blanks, List.append_nil] at rest_eq
    subst rest_eq
    have ended' : EndsNumber rest := by
      simpa using Value.endsNumber_of_blankRun blank' ended
    have same : [] ++ (text ++ []) = gap ++ (written ++ rest) := by
      simpa using same
    obtain ⟨-, rfl, -⟩ :=
      isValue.unique isValueOf.isValue blankRun_nil blank ended ended' same
    exact isValueOf
  · intro isValueOf
    have reads := isValueOf.takes [] [] blankRun_nil ended
    rw [List.append_nil] at reads
    exact ⟨[], reads, rfl⟩

variable {R : Type}

theorem isValueOf_field_iff {α : Type} {reader : Reader α} {name : String}
    {store : α → R → R} (regular : Regular reader) {text : List Char}
    (isValue : IsValue text) (update : R → R) :
    IsValueOf (Field.of name reader store).update text update ↔
      ∃ value, decode reader (String.ofList text) = .ok value ∧
        store value = update := by
  rw [← decode_value_iff (regular_field regular name store) isValue]
  simp only [decode_eq_ok_iff, Field.of, Reads, gives_mapValue_iff]
  constructor
  · rintro ⟨rest, ⟨value, reads, same⟩, blanks⟩
    exact ⟨value, ⟨rest, reads, blanks⟩, same⟩
  · rintro ⟨value, ⟨rest, reads, blanks⟩, same⟩
    exact ⟨rest, ⟨value, reads, same⟩, blanks⟩

/-! ## Members of a name -/

/-- The key of a member spells a name. -/
def MemberText.Names (member : MemberText) (name : String) : Prop :=
  Reads stringBody member.key name.toList []

theorem MemberText.Names.takesOff {member : MemberText} {name : String}
    (names : member.Names name) :
    TakesOff stringBody member.key name.toList := by
  obtain ⟨body, -, same, takes⟩ := Reads.stringBody_text names
  rw [List.append_nil] at same
  rwa [same]

theorem MemberText.Names.unique {member : MemberText} {name name' : String}
    (names : member.Names name) (names' : member.Names name') : name = name' :=
  String.toList_inj.mp (Gives.unique names names').1

/-- A change that may be made behind each of the others may be made behind all
of them. -/
theorem applyChanges_update {changes : List (Change R)} {update : R → R}
    (commute : ∀ change ∈ changes, ∀ record,
      change.update (update record) = update (change.update record))
    (record : R) :
    applyChanges changes (update record) =
      update (applyChanges changes record) := by
  induction changes generalizing record with
  | nil => rfl
  | cons change changes ih =>
      rw [List.forall_mem_cons] at commute
      rw [applyChanges, applyChanges, List.foldl_cons, List.foldl_cons,
        commute.1]
      exact ih commute.2 (change.update record)

section Members

variable {fields : List (Field R)} {field : Field R} {default result : R}
variable {member : MemberText} {offer : Option (Change R)}
variable {members : List MemberText}
variable (known : fields.find? (fun other => other.name = field.name) =
  some field)

include known

theorem Offers.names_iff (offers : Offers fields member offer) :
    member.Names field.name ↔ offer.map Change.name = some field.name := by
  cases offers with
  | @change other update keyed named found value =>
      have spelled : member.Names other.name := by
        simpa [MemberText.Names] using named []
      rw [Option.map_some, Option.some_inj]
      exact ⟨spelled.unique, fun same => same ▸ spelled⟩
  | @nothing name valid named foreign =>
      constructor
      · intro names
        have same := (Gives.unique (named []) (names.takesOff [])).1
        rw [same, String.ofList_toList, known] at foreign
        cases foreign
      · rintro ⟨⟩

theorem Offers.own (offers : Offers fields member offer)
    (names : member.Names field.name) :
    ∃ update, IsValueOf field.update member.value update ∧
      offer = some ⟨field.name, update⟩ := by
  have named := (offers.names_iff known).mp names
  cases offers with
  | @change other update keyed spelled found value =>
      have same : other.name = field.name := Option.some.inj named
      rw [same, known] at found
      cases found
      exact ⟨update, value, rfl⟩
  | nothing => cases named

theorem name_mem_offers_iff {offers : List (Option (Change R))}
    (all : List.Forall₂ (Offers fields) members offers) :
    field.name ∈ offers.reduceOption.map Change.name ↔
      ∃ member ∈ members, member.Names field.name := by
  induction all with
  | nil => simp
  | @cons member offer members offers now later ih =>
      rw [List.exists_mem_cons_iff, ← ih, now.names_iff known]
      cases offer with
      | none => simp
      | some change => simp [eq_comm]

/-- A member of a field, in front of others that make a record without it,
changes that record. -/
theorem collects_cons_iff (apart : fields.Pairwise Apart)
    (valid : member.IsValid) (names : member.Names field.name) :
    Collects fields default (member :: members) result ↔
      ∃ update rest, IsValueOf field.update member.value update ∧
        Collects fields default members rest ∧
        (∀ other ∈ members, ¬ other.Names field.name) ∧
        update rest = result := by
  -- The change of the field may as well be made behind the others.
  have behind {update : R → R} {offers : List (Option (Change R))}
      (value : IsValueOf field.update member.value update)
      (all : List.Forall₂ (Offers fields) members offers)
      (fresh : field.name ∉ offers.reduceOption.map Change.name) :
      applyChanges offers.reduceOption (update default) =
        update (applyChanges offers.reduceOption default) := by
    have own : Offers fields member (some ⟨field.name, update⟩) :=
      .change valid.keyed names.takesOff known value
    refine applyChanges_update ?_ default
    intro change listed record
    obtain ⟨other, offered⟩ := offered_of_mem all listed
    have different : change.name ≠ field.name := fun same =>
      fresh (same ▸ List.mem_map_of_mem listed)
    exact update_comm apart offered own different record
  constructor
  · rintro ⟨_, all, distinct, made⟩
    cases all with
    | @cons _ offer _ offers now later =>
        obtain ⟨update, value, rfl⟩ := now.own known names
        rw [List.reduceOption_cons_of_some] at distinct made
        obtain ⟨fresh, distinct⟩ := List.nodup_cons.mp distinct
        have alone : ∀ other ∈ members, ¬ other.Names field.name :=
          fun other listed again =>
            fresh ((name_mem_offers_iff known later).mpr ⟨other, listed, again⟩)
        exact ⟨update, _, value, ⟨offers, later, distinct, rfl⟩, alone,
          (behind value later fresh).symm.trans made⟩
  · rintro ⟨update, _, value, ⟨offers, all, distinct, rfl⟩, alone, rfl⟩
    have fresh : field.name ∉ offers.reduceOption.map Change.name := by
      intro again
      obtain ⟨other, listed, named⟩ := (name_mem_offers_iff known all).mp again
      exact alone other listed named
    refine ⟨some ⟨field.name, update⟩ :: offers,
      .cons (.change valid.keyed names.takesOff known value) all, ?_, ?_⟩
    · rw [List.reduceOption_cons_of_some, List.map_cons, List.nodup_cons]
      exact ⟨fresh, distinct⟩
    · rw [List.reduceOption_cons_of_some]
      exact behind value all fresh

end Members

/-- Members make one record at most. -/
theorem Collects.unique {fields : List (Field R)} {default result result' : R}
    {members : List MemberText} (collects : Collects fields default members result)
    (collects' : Collects fields default members result') :
    result = result' := by
  obtain ⟨offers, all, -, rfl⟩ := collects
  obtain ⟨offers', all', -, rfl⟩ := collects'
  have unique : Relator.RightUnique (Offers fields) :=
    fun _ _ _ offers offers' => offers.unique offers'
  rw [unique.forall₂ all all']

/-! ## The laws -/

/-- A text has a value written for a member of an object that is accepted, and
decoded to a record, with another value there. -/
def OtherwiseAccepted (reader : Reader R) (name : String) (value : List Char)
    (text : String) (result : R) : Prop :=
  ∃ (accepted : String) (before after : List MemberText)
    (member other : MemberText),
    LaysObject (before ++ member :: after) accepted.toList ∧
      decode reader accepted = .ok result ∧ member.Names name ∧
        other.Names name ∧ other.value = value ∧
          LaysObject (before ++ other :: after) text.toList

theorem OtherwiseAccepted.isValue {reader : Reader R} {name : String}
    {value : List Char} {text : String} {result : R}
    (otherwise : OtherwiseAccepted reader name value text result) :
    IsValue value := by
  obtain ⟨_, before, after, _, other, -, -, -, -, rfl, laid⟩ := otherwise
  have place : other ∈ before ++ other :: after :=
    List.mem_append_right before List.mem_cons_self
  exact (laid.1 other place).value

/-- A text that is otherwise accepted is accepted if a reader decodes the value
of the member, and then it is what the reader decodes that is stored. -/
def StoresMember {α : Type} (reader : Reader R) (name : String) (own : Reader α)
    (store : α → R → R) : Prop :=
  ∀ ⦃value : List Char⦄ ⦃text : String⦄ ⦃result : R⦄,
    OtherwiseAccepted reader name value text result →
      ∀ changed, decode reader text = .ok changed ↔
        ∃ stored, decode own (String.ofList value) = .ok stored ∧
          store stored result = changed

/-- A record is refused if a name of its own is given twice, whatever stands
there. -/
def RefusesRepeated (reader : Reader R) (names : List String) : Prop :=
  ∀ ⦃text : String⦄ ⦃before between after : List MemberText⦄
    ⦃first second : MemberText⦄ ⦃name : String⦄, name ∈ names →
    first.Names name → second.Names name →
      LaysObject (before ++ first :: (between ++ second :: after)) text.toList →
        ∃ error, decode reader text = .error error

section Laws

variable {fields : List (Field R)} (regular : ∀ field ∈ fields, Regular field.update)
variable (apart : fields.Pairwise Apart) (distinct : (fields.map Field.name).Nodup)
variable (kind : String) (default : R)

include regular apart distinct

theorem storesMember_record {α : Type} {own : Reader α} (ownRegular : Regular own)
    {name : String} {store : α → R → R}
    (listed : Field.of name own store ∈ fields)
    (overwrites : ∀ value value' record,
      store value (store value' record) = store value record) :
    StoresMember (record kind fields default) name own store := by
  rintro _ text result ⟨accepted, before, after, member, other, laid, decoded,
    names, names', rfl, laid'⟩ changed
  have known := find?_name_of_mem distinct listed
  have place {member : MemberText} : member ∈ before ++ member :: after :=
    List.mem_append_right before List.mem_cons_self
  have valid : member.IsValid := laid.1 member place
  have valid' : other.IsValid := laid'.1 other place
  -- In front of the others, both members change the record that these make.
  have collects : Collects fields default (member :: (before ++ after)) result :=
    ((decode_object_iff regular laid).mp decoded).perm apart
      List.perm_middle.symm
  obtain ⟨update, rest, value, others, alone, rfl⟩ :=
    (collects_cons_iff known apart valid names).mp collects
  obtain ⟨old, -, rfl⟩ := (isValueOf_field_iff ownRegular valid.value _).mp value
  have exchanged : decode (record kind fields default) text = .ok changed ↔
      Collects fields default (other :: (before ++ after)) changed := by
    rw [decode_object_iff regular laid']
    exact ⟨fun collects => collects.perm apart List.perm_middle.symm,
      fun collects => collects.perm apart List.perm_middle⟩
  rw [exchanged, collects_cons_iff known apart valid' names']
  constructor
  · rintro ⟨_, rest', value, others', -, rfl⟩
    obtain ⟨found, decoded, rfl⟩ :=
      (isValueOf_field_iff ownRegular valid'.value _).mp value
    rw [others'.unique others]
    exact ⟨found, decoded, overwrites found old rest⟩
  · rintro ⟨found, decoded, rfl⟩
    exact ⟨store found, rest,
      (isValueOf_field_iff ownRegular valid'.value _).mpr ⟨found, decoded, rfl⟩,
      others, alone, (overwrites found old rest).symm⟩

theorem refusesRepeated_record :
    RefusesRepeated (record kind fields default) (fields.map Field.name) := by
  intro text before between after first second name listed names names' laid
  obtain ⟨field, own, rfl⟩ := List.mem_map.mp listed
  have known := find?_name_of_mem distinct own
  cases decoded : decode (record kind fields default) text with
  | error error => exact ⟨error, rfl⟩
  | ok result =>
      have valid : first.IsValid :=
        laid.1 first (List.mem_append_right before List.mem_cons_self)
      have collects : Collects fields default
          (first :: (before ++ (between ++ second :: after))) result :=
        ((decode_object_iff regular laid).mp decoded).perm apart
          List.perm_middle.symm
      obtain ⟨-, -, -, -, alone, -⟩ :=
        (collects_cons_iff known apart valid names).mp collects
      exact absurd names' (alone second (by simp))

end Laws

end Json

end WalletRows
