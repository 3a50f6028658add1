import Mathlib.Data.List.Pairwise
import Mathlib.Data.List.Perm.Basic
import WalletRows.Proofs.Json.RegularRecords

/-!
# The members that count

A record is what its members make of the default, each through its own field.
The changes of different fields do not disturb each other, so the order of the
members does not matter, nor do members that offer nothing or offer what the
default holds already.
-/

namespace WalletRows

namespace Json

variable {R : Type}

/-! ## Collecting the changes -/

/-- The record behind some changes. -/
def applyChanges (changes : List (Change R)) (record : R) : R :=
  changes.foldl (fun record change => change.update record) record

/-- Members offer changes of different fields that make a record of the
default. -/
def Collects (fields : List (Field R)) (default : R) (members : List MemberText)
    (result : R) : Prop :=
  ∃ offers, List.Forall₂ (Offers fields) members offers ∧
    (offers.reduceOption.map Change.name).Nodup ∧
    applyChanges offers.reduceOption default = result

section Runs

variable {fields : List (Field R)} {draft final : Draft R}
variable {members : List MemberText}

/-- The names in a draft are those of the members before, so that no member
offers a change of one of them. -/
theorem Runs.offers (runs : Runs (Accepts fields) draft members final) :
    ∃ offers, List.Forall₂ (Offers fields) members offers ∧
      (offers.reduceOption.map Change.name).Nodup ∧
      (∀ change ∈ offers.reduceOption, change.name ∉ draft.given) ∧
      applyChanges offers.reduceOption draft.record = final.record := by
  induction runs with
  | done draft => exact ⟨[], .nil, List.nodup_nil, by simp, rfl⟩
  | @next draft middle final member members now later ih =>
      obtain ⟨offer, offers, fresh, rfl⟩ := now
      obtain ⟨others, all, distinct, unused, made⟩ := ih
      refine ⟨offer :: others, .cons offers all, ?_⟩
      cases offer with
      | none => exact ⟨distinct, unused, made⟩
      | some change =>
          rw [List.reduceOption_cons_of_some, List.map_cons, List.nodup_cons,
            List.forall_mem_cons]
          refine ⟨⟨?_, distinct⟩, ⟨fresh change rfl, ?_⟩, made⟩
          · intro repeated
            obtain ⟨other, listed, same⟩ := List.mem_map.mp repeated
            exact unused other listed (same ▸ List.mem_cons_self)
          · intro other listed given
            exact unused other listed (List.mem_cons_of_mem _ given)

theorem runs_of_offers {offers : List (Option (Change R))}
    (all : List.Forall₂ (Offers fields) members offers)
    (distinct : (offers.reduceOption.map Change.name).Nodup)
    (unused : ∀ change ∈ offers.reduceOption, change.name ∉ draft.given) :
    ∃ final, Runs (Accepts fields) draft members final ∧
      final.record = applyChanges offers.reduceOption draft.record := by
  induction all generalizing draft with
  | nil => exact ⟨draft, .done draft, rfl⟩
  | @cons member offer members others now later ih =>
      cases offer with
      | none =>
          obtain ⟨final, runs, made⟩ := ih distinct unused
          exact ⟨final, .next ⟨none, now, by simp, rfl⟩ runs, made⟩
      | some change =>
          rw [List.reduceOption_cons_of_some, List.map_cons, List.nodup_cons]
            at distinct
          rw [List.reduceOption_cons_of_some, List.forall_mem_cons] at unused
          have fresh : ∀ other ∈ others.reduceOption,
              other.name ∉ change.name :: draft.given := by
            intro other listed repeated
            rcases List.mem_cons.mp repeated with same | given
            · exact distinct.1 (List.mem_map.mpr ⟨other, listed, same⟩)
            · exact unused.2 other listed given
          obtain ⟨final, runs, made⟩ :=
            @ih (draft.accept (some change)) distinct.2 fresh
          refine ⟨final, .next ⟨some change, now, ?_, rfl⟩ runs, made⟩
          rintro _ ⟨⟩
          exact unused.1

end Runs

/-! ## Changes of different fields -/

/-- What two fields read changes a record in either order to the same one. -/
def Apart (first second : Field R) : Prop :=
  ∀ ⦃text rest text' rest' : List Char⦄ ⦃update update' : R → R⦄,
    Reads first.update text update rest →
      Reads second.update text' update' rest' →
        ∀ record, update (update' record) = update' (update record)

instance : Std.Symm (@Apart R) where
  symm _ _ apart _ _ _ _ _ _ reads reads' record :=
    (apart reads' reads record).symm

theorem apart_of {α β : Type} {name name' : String} {reader : Reader α}
    {reader' : Reader β} {store : α → R → R} {store' : β → R → R}
    (commute : ∀ value value' record, store value (store' value' record) =
      store' value' (store value record)) :
    Apart (Field.of name reader store) (Field.of name' reader' store') := by
  intro text rest text' rest' update update' reads reads' record
  obtain ⟨value, -, rfl⟩ := gives_mapValue_iff.mp reads
  obtain ⟨value', -, rfl⟩ := gives_mapValue_iff.mp reads'
  exact commute value value' record

/-- A member is an offer of one change at most. -/
theorem Offers.unique {fields : List (Field R)} {member : MemberText}
    {offer offer' : Option (Change R)} (offers : Offers fields member offer)
    (offers' : Offers fields member offer') : offer = offer' := by
  cases offers with
  | change keyed named found value =>
      cases offers' with
      | change keyed' named' found' value' =>
          have names := (Gives.unique (named []) (named' [])).1
          rw [String.toList_inj] at names
          rw [names, found'] at found
          cases found
          have updates := (Gives.unique
            (value.takes [] [] blankRun_nil (by simp [EndsNumber]))
            (value'.takes [] [] blankRun_nil (by simp [EndsNumber]))).1
          rw [updates]
      | nothing valid named' foreign =>
          have names := (Gives.unique (named []) (named' [])).1
          rw [← names, String.ofList_toList, found] at foreign
          cases foreign
  | nothing valid named foreign =>
      cases offers' with
      | change keyed named' found value =>
          have names := (Gives.unique (named []) (named' [])).1
          rw [names, String.ofList_toList, found] at foreign
          cases foreign
      | nothing => rfl

theorem offered_of_mem {fields : List (Field R)} {members : List MemberText}
    {offers : List (Option (Change R))}
    (all : List.Forall₂ (Offers fields) members offers) {change : Change R}
    (listed : change ∈ offers.reduceOption) :
    ∃ member, Offers fields member (some change) := by
  have offered : ∀ offer ∈ offers, ∃ member, Offers fields member offer :=
    ((List.forall₂_and_left offers members).mp
      (all.flip.imp fun _ _ now => ⟨⟨_, now⟩, now⟩)).1
  exact offered _ (List.reduceOption_mem_iff.mp listed)

/-- A member with a name of its own offers nothing. -/
theorem offers_nothing {fields : List (Field R)} {member : MemberText}
    (valid : member.IsValid) {name : String}
    (named : Reads stringBody member.key name.toList [])
    (foreign : name ∉ fields.map Field.name) : Offers fields member none := by
  obtain ⟨body, -, same, takes⟩ := Reads.stringBody_text named
  rw [List.append_nil] at same
  rw [← same] at takes
  refine .nothing valid takes ?_
  rw [String.ofList_toList, List.find?_eq_none]
  intro field listed known
  rw [decide_eq_true_eq] at known
  exact foreign (List.mem_map.mpr ⟨field, listed, known⟩)

section Fields

variable {fields : List (Field R)} (apart : fields.Pairwise Apart)
variable {default result : R} {members members' : List MemberText}

include apart

/-- Changes of different fields may be made in either order. -/
theorem update_comm {member member' : MemberText} {change change' : Change R}
    (offers : Offers fields member (some change))
    (offers' : Offers fields member' (some change'))
    (different : change.name ≠ change'.name) (record : R) :
    change.update (change'.update record) =
      change'.update (change.update record) := by
  cases offers with
  | @change field update keyed named found value =>
      cases offers' with
      | @change field' update' keyed' named' found' value' =>
          have other : field ≠ field' := fun same => different (by rw [same])
          have apart : Apart field field' :=
            apart.forall (List.mem_of_find?_eq_some found)
              (List.mem_of_find?_eq_some found') other
          exact apart
            (value.takes [] [] blankRun_nil (by simp [EndsNumber]))
            (value'.takes [] [] blankRun_nil (by simp [EndsNumber])) record

/-- Members make the same record in every order. -/
theorem Collects.perm (collects : Collects fields default members result)
    (order : members'.Perm members) : Collects fields default members' result := by
  obtain ⟨offers, all, distinct, rfl⟩ := collects
  obtain ⟨offers', all', order'⟩ := List.perm_comp_forall₂ order all
  have changes : offers.reduceOption.Perm offers'.reduceOption :=
    (order'.filterMap id).symm
  refine ⟨offers', all', (changes.map Change.name).nodup_iff.mp distinct, ?_⟩
  refine (changes.foldl_eq' ?_ default).symm
  intro change listed change' listed' record
  by_cases same : change.name = change'.name
  · -- Equal names stand at one place of the list.
    rw [List.inj_on_of_nodup_map distinct listed listed' same]
  · obtain ⟨member, offered⟩ := offered_of_mem all listed
    obtain ⟨member', offered'⟩ := offered_of_mem all listed'
    exact (update_comm apart offered offered' same record).symm

/-- A member that offers nothing may stand anywhere. -/
theorem Collects.insert {before after : List MemberText} {member : MemberText}
    (collects : Collects fields default (before ++ after) result)
    (offers : Offers fields member none) :
    Collects fields default (before ++ member :: after) result := by
  obtain ⟨others, all, distinct, made⟩ := collects
  have first : Collects fields default (member :: (before ++ after)) result :=
    ⟨none :: others, .cons offers all, distinct, made⟩
  exact first.perm apart List.perm_middle

/-- A member that offers what the default holds already may be left out. -/
theorem Collects.remove {before after : List MemberText} {member : MemberText}
    (collects : Collects fields default (before ++ member :: after) result)
    (alone : Collects fields default [member] default) :
    Collects fields default (before ++ after) result := by
  obtain ⟨offers, all, distinct, made⟩ :=
    collects.perm apart List.perm_middle.symm
  obtain ⟨_, all', -, kept⟩ := alone
  cases all with
  | @cons _ offer _ others now later =>
      cases all' with
      | cons own none =>
          cases none
          cases own.unique now
          cases offer with
          | none => exact ⟨others, later, distinct, made⟩
          | some change =>
              have kept : change.update default = default := kept
              rw [List.reduceOption_cons_of_some] at distinct made
              rw [List.map_cons, List.nodup_cons] at distinct
              refine ⟨others, later, distinct.2, ?_⟩
              rw [applyChanges, List.foldl_cons, kept] at made
              exact made

end Fields

/-! ## Decoding -/

theorem decode_eq_ok_iff {α : Type} {reader : Reader α} {text : String}
    {value : α} :
    decode reader text = .ok value ↔
      ∃ rest, Reads reader text.toList value rest ∧ skipBlank rest = [] := by
  constructor
  · intro decoded
    rw [decode] at decoded
    split at decoded
    · cases decoded
    · rename_i found rest shorter answer
      split at decoded
      · rename_i ended
        cases decoded
        exact ⟨rest, ⟨shorter, answer⟩, ended⟩
      · cases decoded
  · rintro ⟨rest, reads, ended⟩
    exact decode_of_reads reads ended

section Objects

variable {fields : List (Field R)} {kind : String} {default result : R}

/-- What is decoded off an object are the changes that its members offer. -/
theorem decode_object_iff (regular : ∀ field ∈ fields, Regular field.update)
    {members : List MemberText} {text : String}
    (laid : LaysObject members text.toList) :
    decode (record kind fields default) text = .ok result ↔
      Collects fields default members result := by
  obtain ⟨valid, before, inner, after, blank, blank', lays, same⟩ := laid
  have skipped : skipBlank text.toList = '{' :: (inner ++ after) := by
    rw [same, skipBlank_append blank]
    rfl
  rw [decode_eq_ok_iff]
  constructor
  · rintro ⟨rest, reads, ended⟩
    rw [record, reads_afterBlank_iff, skipped] at reads
    obtain ⟨draft, taken, rfl⟩ :=
      gives_mapValue_iff.mp (gives_behind_iff.mp reads)
    obtain ⟨members', inner', lays', runs, split⟩ :=
      Reads.members_text (Reads.draftMember_text regular) taken
    have valid' : ∀ member ∈ members', member.IsValid :=
      runs.forall_of_step fun accepts => accepts.isMemberOf.isValid
    -- The members that were read are those that the text was laid from.
    obtain rfl := lays.unique_members lays' valid valid' split
    obtain ⟨offers, all, distinct, -, made⟩ := runs.offers
    exact ⟨offers, all, distinct, made⟩
  · rintro ⟨offers, all, distinct, made⟩
    obtain ⟨final, runs, collected⟩ : ∃ final,
        Runs (Accepts fields) ⟨[], default⟩ members final ∧
          final.record = applyChanges offers.reduceOption default :=
      runs_of_offers all distinct (by simp)
    have reads : Reads (Json.members .kept (Draft.member fields) ⟨[], default⟩ true)
        (inner ++ after) final after :=
      lays.reads_members Accepts.isMemberOf runs after
    refine ⟨after, ?_, ?_⟩
    · rw [record, reads_afterBlank_iff, skipped, ← made, ← collected]
      exact gives_behind_iff.mpr (Gives.mapValue reads Draft.record)
    · rw [← List.append_nil after, skipBlank_append blank']
      rfl

/-- What is decoded off a text with an opening brace is an object. -/
theorem exists_laysObject (regular : ∀ field ∈ fields, Regular field.update)
    {text : String} {later : List Char}
    (starts : skipBlank text.toList = '{' :: later)
    (decoded : decode (record kind fields default) text = .ok result) :
    ∃ members, LaysObject members text.toList := by
  obtain ⟨rest, reads, ended⟩ := decode_eq_ok_iff.mp decoded
  obtain ⟨before, blank, same⟩ := exists_gap text.toList
  obtain ⟨after, blank', same'⟩ := exists_gap rest
  rw [record, reads_afterBlank_iff, starts] at reads
  obtain ⟨draft, taken, rfl⟩ := gives_mapValue_iff.mp (gives_behind_iff.mp reads)
  obtain ⟨members, inner, lays, runs, rfl⟩ :=
    Reads.members_text (Reads.draftMember_text regular) taken
  rw [ended, List.append_nil] at same'
  refine ⟨members, runs.forall_of_step fun accepts => accepts.isMemberOf.isValid,
    before, inner, after, blank, blank', lays, ?_⟩
  rw [same, starts, same']

end Objects

/-! ## The laws -/

/-- What a reader decodes off objects depends only on the members that count:
not on their order, not on members with other names, and not on members that
give their field what the default holds. -/
structure DependsOnMembers (reader : Reader R) (names : List String)
    (default : R) : Prop where
  /-- An object text is a list of members, in one way. -/
  laid : ∀ {text : String} {value : R} {later : List Char},
    skipBlank text.toList = '{' :: later → decode reader text = .ok value →
      ∃! members, LaysObject members text.toList
  /-- Members may be put in another order. -/
  permuted : ∀ {text other : String} {value : R}
    {members members' : List MemberText}, LaysObject members text.toList →
      decode reader text = .ok value → members'.Perm members →
        LaysObject members' other.toList → decode reader other = .ok value
  /-- A member with another name may be put anywhere. -/
  inserted : ∀ {text other : String} {value : R}
    {before after : List MemberText} {member : MemberText} {name : String},
      LaysObject (before ++ after) text.toList → decode reader text = .ok value →
        Reads stringBody member.key name.toList [] → name ∉ names →
          LaysObject (before ++ member :: after) other.toList →
            decode reader other = .ok value
  /-- A member may be left out if it gives its field what the default holds:
  alone, it is decoded to the default. -/
  removed : ∀ {text other alone : String} {value : R}
    {before after : List MemberText} {member : MemberText},
      LaysObject (before ++ member :: after) text.toList →
        decode reader text = .ok value → LaysObject [member] alone.toList →
          decode reader alone = .ok default →
            LaysObject (before ++ after) other.toList →
              decode reader other = .ok value

theorem dependsOnMembers_record (kind : String) {fields : List (Field R)}
    (regular : ∀ field ∈ fields, Regular field.update)
    (apart : fields.Pairwise Apart) (default : R) :
    DependsOnMembers (record kind fields default) (fields.map Field.name)
      default where
  laid starts decoded := by
    obtain ⟨members, laid⟩ := exists_laysObject regular starts decoded
    exact ⟨members, laid, fun other laid' => laid'.unique laid⟩
  permuted laid decoded order laid' := by
    have collects := (decode_object_iff regular laid).mp decoded
    exact (decode_object_iff regular laid').mpr (collects.perm apart order)
  inserted laid decoded named foreign laid' := by
    have collects := (decode_object_iff regular laid).mp decoded
    have valid := laid'.1 _ (List.mem_append_right _ List.mem_cons_self)
    have offers := offers_nothing valid named foreign
    exact (decode_object_iff regular laid').mpr (collects.insert apart offers)
  removed laid decoded laid'' kept laid' := by
    have collects := (decode_object_iff regular laid).mp decoded
    have alone := (decode_object_iff regular laid'').mp kept
    exact (decode_object_iff regular laid').mpr (collects.remove apart alone)

end Json

end WalletRows
