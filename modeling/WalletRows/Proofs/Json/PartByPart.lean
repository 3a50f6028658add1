import WalletRows.Proofs.Json.OwnMembers
import WalletRows.Proofs.Registry

/-!
# Lists and maps are decoded part by part

The parts of a list and the entries of a map are decoded as if each stood alone,
and all of them have to be accepted.  The entries are put into the map in
their order, so the one given last for a key stays.
-/

namespace WalletRows

namespace Json

/-! ## Lists side by side -/

section SideBySide

variable {α β : Type} {has : α → β → Prop} {results : List β}

theorem forall₂_congr {has' : α → β → Prop} {parts : List α}
    (alike : ∀ part ∈ parts, ∀ result, has part result ↔ has' part result) :
    List.Forall₂ has parts results ↔ List.Forall₂ has' parts results := by
  induction parts generalizing results with
  | nil => simp
  | cons part parts ih =>
      rw [List.forall_mem_cons] at alike
      cases results with
      | nil => simp
      | cons result results =>
          rw [List.forall₂_cons, List.forall₂_cons, alike.1, ih alike.2]

theorem forall_of_forall₂ {parts : List α} {right : β → Prop}
    (all : List.Forall₂ has parts results)
    (each : ∀ part ∈ parts, ∀ result, has part result → right result) :
    ∀ result ∈ results, right result := by
  induction all with
  | nil => simp
  | cons now later ih =>
      rw [List.forall_mem_cons] at each ⊢
      exact ⟨each.1 _ now, ih each.2⟩

theorem exists_middle_of_forall₂ {before after : List α} {part : α}
    (all : List.Forall₂ has (before ++ part :: after) results) :
    ∃ front result back, has part result ∧ List.Forall₂ has after back ∧
      results = front ++ result :: back := by
  induction before generalizing results with
  | nil =>
      cases all with
      | cons now later => exact ⟨[], _, _, now, later, rfl⟩
  | cons first before ih =>
      cases all with
      | cons now later =>
          obtain ⟨front, result, back, here, behind, rfl⟩ := ih later
          exact ⟨_ :: front, result, back, here, behind, rfl⟩

end SideBySide

variable {α σ : Type} {reader : Reader α}

/-! ## Lists -/

theorem decode_list_iff (regular : Regular reader) {parts : List (List Char)}
    {inner : List Char} (laid : Lays ']' true parts inner)
    (values : ∀ part ∈ parts, IsValue part) (results : List α) :
    decode (list reader) (String.ofList ('[' :: inner)) = .ok results ↔
      List.Forall₂ (fun part result =>
        decode reader (String.ofList part) = .ok result) parts results := by
  rw [decode_value_iff (regular_list regular) (.list values laid),
    forall₂_congr fun part listed result =>
      decode_value_iff regular (values part listed) result]
  constructor
  · intro isValueOf
    have reads := isValueOf.takes [] [] blankRun_nil (by simp [EndsNumber])
    rw [List.append_nil, List.nil_append, list, reads_afterBlank_iff,
      skipBlank_of_not_isBlank (by decide)] at reads
    obtain ⟨parts', inner', laid', taken, same⟩ :=
      Reads.elements_text regular (gives_behind_iff.mp reads)
    rw [← List.append_nil inner] at same
    have values' := forall_part taken IsValueOf.isValue
    obtain rfl := laid.unique_elements laid' values values' same
    exact taken
  · intro taken
    refine isValueOf_afterBlank (.list values laid) ?_
    intro rest _
    exact gives_behind_iff.mpr (laid.reads_elements taken rest)

/-! ## Maps -/

/-- A member is an entry of a map: its key is spelled, and its value is
decoded. -/
def IsEntryOf (reader : Reader α) (member : MemberText) (entry : String × α) :
    Prop :=
  member.Names entry.1 ∧ decode reader (String.ofList member.value) = .ok entry.2

/-- A member puts its entry into a collection. -/
def PutsEntry (reader : Reader α) (insert : σ → String → α → σ) (entries : σ)
    (member : MemberText) (grown : σ) : Prop :=
  ∃ entry, member.IsValid ∧ IsEntryOf reader member entry ∧
    insert entries entry.1 entry.2 = grown

section Maps

variable {insert : σ → String → α → σ} {entries grown : σ}
variable (regular : Regular reader)

include regular

theorem PutsEntry.isMemberOf {member : MemberText}
    (puts : PutsEntry reader insert entries member grown) :
    IsMemberOf
      (fun text => mapValue (fun (key, value) => insert entries key value)
        (entry (fun key => .ok (String.ofList key)) reader text))
      member grown := by
  obtain ⟨⟨name, value⟩, valid, ⟨names, decoded⟩, rfl⟩ := puts
  have isValueOf := (decode_value_iff regular valid.value value).mp decoded
  have named : TakesOff (fun text => checkValue
      (fun key => .ok (String.ofList key)) (stringBody text)) member.key name :=
    fun other =>
      Gives.checkValue (names.takesOff other) (by rw [String.ofList_toList])
  have isMember : IsMemberOf (entry (fun key => .ok (String.ofList key)) reader)
      member (name, value) :=
    isMemberOf valid.keyed named valid.value fun _ ended =>
      (isValueOf.mapValue (name, ·)).behindColon valid.keyed.before
        valid.keyed.after ended
  exact isMember.mapValue _

theorem Reads.putsEntry_text {text rest : List Char}
    (reads : Reads
      (fun text => mapValue (fun (key, value) => insert entries key value)
        (entry (fun key => .ok (String.ofList key)) reader text))
      text grown rest) :
    ∃ member, PutsEntry reader insert entries member grown ∧
      text = member.unquoted ++ rest := by
  obtain ⟨⟨name, value⟩, taken, rfl⟩ := gives_mapValue_iff.mp reads
  obtain ⟨found, afterKey, taken, left⟩ := gives_andThen_iff.mp taken
  obtain ⟨characters, spelled, same⟩ := gives_checkValue_iff.mp taken
  cases same
  obtain ⟨body, isBody, rfl, takes⟩ := Reads.stringBody_text spelled
  obtain ⟨_, middle, colon, left⟩ := gives_andThen_iff.mp left
  obtain ⟨_, own, same⟩ := gives_mapValue_iff.mp left
  cases same
  obtain ⟨before, after, written, blank, blank', isValueOf, rfl⟩ :=
    Reads.behindColon_text regular (Gives.andThen colon own)
  let member : MemberText := ⟨body, before, after, written⟩
  have valid : member.IsValid := ⟨⟨isBody, blank, blank'⟩, isValueOf.isValue⟩
  have names : member.Names (String.ofList characters) := by
    simpa [MemberText.Names, member] using takes []
  refine ⟨member, ⟨(String.ofList characters, value), valid, ⟨names, ?_⟩, rfl⟩, ?_⟩
  · exact (decode_value_iff regular valid.value value).mpr isValueOf
  · simp only [member, MemberText.unquoted, List.append_assoc, List.cons_append]

omit regular in
theorem runs_putsEntry_iff {members : List MemberText}
    (valid : ∀ member ∈ members, member.IsValid) :
    Runs (PutsEntry reader insert) entries members grown ↔
      ∃ found, List.Forall₂ (IsEntryOf reader) members found ∧
        found.foldl (fun state entry => insert state entry.1 entry.2) entries =
          grown := by
  induction members generalizing entries with
  | nil =>
      constructor
      · rintro ⟨⟩
        exact ⟨[], .nil, rfl⟩
      · rintro ⟨_, ⟨⟩, rfl⟩
        exact .done entries
  | cons member members ih =>
      rw [List.forall_mem_cons] at valid
      constructor
      · rintro (_ | ⟨⟨entry, -, isEntry, rfl⟩, later⟩)
        obtain ⟨found, all, made⟩ := (ih valid.2).mp later
        exact ⟨entry :: found, .cons isEntry all, made⟩
      · rintro ⟨_, _ | ⟨isEntry, all⟩, made⟩
        exact .next ⟨_, valid.1, isEntry, rfl⟩ ((ih valid.2).mpr ⟨_, all, made⟩)

theorem decode_map_iff {members : List MemberText} {inner : List Char}
    (laid : Lays '}' true (members.map MemberText.text) inner)
    (valid : ∀ member ∈ members, member.IsValid) (empty result : σ) :
    decode (map (fun key => .ok (String.ofList key)) reader empty insert)
        (String.ofList ('{' :: inner)) = .ok result ↔
      ∃ found, List.Forall₂ (IsEntryOf reader) members found ∧
        found.foldl (fun state entry => insert state entry.1 entry.2) empty =
          result := by
  have isValue : IsValue ('{' :: inner) :=
    .object (fun member listed => (valid member listed).keyed)
      (fun member listed => (valid member listed).value) laid
  rw [decode_value_iff (regular_map regular empty insert) isValue,
    ← runs_putsEntry_iff valid]
  constructor
  · intro isValueOf
    have reads := isValueOf.takes [] [] blankRun_nil (by simp [EndsNumber])
    rw [List.append_nil, List.nil_append, map, reads_afterBlank_iff,
      skipBlank_of_not_isBlank (by decide)] at reads
    obtain ⟨members', inner', laid', runs, same⟩ := Reads.members_text
      (Reads.putsEntry_text regular) (gives_behind_iff.mp reads)
    have valid' : ∀ member ∈ members', member.IsValid :=
      runs.forall_of_step fun puts => (puts.isMemberOf regular).isValid
    rw [← List.append_nil inner] at same
    obtain rfl := laid.unique_members laid' valid valid' same
    exact runs
  · intro runs
    refine isValueOf_afterBlank isValue ?_
    intro rest _
    exact gives_behind_iff.mpr
      (laid.reads_members (PutsEntry.isMemberOf regular) runs rest)

end Maps

/-! ## Values that may be absent -/

theorem decode_optional_iff {text : List Char} (isValue : IsValue text)
    (present : text ≠ ['n', 'u', 'l', 'l']) (result : Option α) :
    decode (optional reader) (String.ofList text) = .ok result ↔
      ∃ value, decode reader (String.ofList text) = .ok value ∧
        some value = result := by
  have solid := isValue.skipBlank_append blankRun_nil []
  rw [List.append_nil, List.nil_append] at solid
  have notLetter : ∀ behind, text ≠ 'n' :: behind := by
    rintro behind rfl
    cases isValue with
    | word known => simp_all [words]
    | number written =>
        obtain ⟨first, later, same, starts⟩ := written.starts
        cases same
        simp at starts
  simp only [decode_eq_ok_iff, String.toList_ofList]
  constructor
  · rintro ⟨rest, reads, ended⟩
    rw [optional, reads_afterBlank_iff, solid, Reads] at reads
    split at reads
    · exact absurd rfl (notLetter _)
    · obtain ⟨value, taken, rfl⟩ := gives_mapValue_iff.mp reads
      exact ⟨value, ⟨rest, taken, ended⟩, rfl⟩
  · rintro ⟨value, ⟨rest, reads, ended⟩, rfl⟩
    refine ⟨rest, ?_, ended⟩
    rw [optional, reads_afterBlank_iff, solid, Reads]
    split
    · exact absurd rfl (notLetter _)
    · exact Gives.mapValue reads some

end Json

end WalletRows
