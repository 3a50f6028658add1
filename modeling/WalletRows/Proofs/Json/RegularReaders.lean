import WalletRows.Proofs.Json.Skipping

/-!
# Decoders read values

Whatever a decoder reads is a value of the grammar, and the same text is decoded
to the same result wherever it stands.  So the text of a value can be moved
within a larger text, or to another one.
-/

namespace WalletRows

namespace Json

variable {α : Type}

/-! ## Values without parts -/

theorem regular_text : Regular text := by
  unfold text
  apply regular_afterBlank
  intro text result rest solid reads
  rw [Reads] at reads
  split at reads
  · rw [gives_behind_iff] at reads
    obtain ⟨characters, taken, rfl⟩ := gives_mapValue_iff.mp reads
    obtain ⟨body, isBody, rfl, takes⟩ := Reads.stringBody_text taken
    refine ⟨'"' :: body, isValueOf_afterBlank (.string isBody) ?_, rfl⟩
    intro other _
    exact gives_behind_iff.mpr (Gives.mapValue (takes other) _)
  · exact absurd reads not_gives_error

theorem regular_boolean : Regular boolean := by
  unfold boolean
  apply regular_afterBlank
  intro text result rest solid reads
  rw [Reads] at reads
  split at reads
  · obtain ⟨rfl, rfl⟩ := gives_keyword_iff.mp reads
    refine ⟨['t', 'r', 'u', 'e'],
      isValueOf_afterBlank (.word (by simp [words])) ?_, rfl⟩
    exact fun other _ => gives_keyword_iff.mpr ⟨rfl, rfl⟩
  · obtain ⟨rfl, rfl⟩ := gives_keyword_iff.mp reads
    refine ⟨['f', 'a', 'l', 's', 'e'],
      isValueOf_afterBlank (.word (by simp [words])) ?_, rfl⟩
    exact fun other _ => gives_keyword_iff.mpr ⟨rfl, rfl⟩
  · exact absurd reads not_gives_error

theorem regular_unit : Regular unit := by
  unfold unit
  apply regular_afterBlank
  intro text result rest solid reads
  rw [Reads] at reads
  split at reads
  · obtain ⟨rfl, -⟩ := gives_keyword_iff.mp reads
    refine ⟨['n', 'u', 'l', 'l'],
      isValueOf_afterBlank (.word (by simp [words])) ?_, rfl⟩
    exact fun other _ => gives_keyword_iff.mpr ⟨rfl, rfl⟩
  · exact absurd reads not_gives_error

theorem regular_integer (expected : String) (ofInt? : Int → Option α) :
    Regular (integer expected ofInt?) := by
  unfold integer
  apply regular_afterBlank
  intro text result rest solid reads
  rw [Reads] at reads
  split at reads
  · exact absurd reads not_gives_error
  · split at reads
    · rename_i number
      obtain ⟨value, taken, held⟩ := gives_checkValue_iff.mp reads
      obtain ⟨literal, taken, meant⟩ := gives_checkValue_iff.mp taken
      obtain ⟨written, isLiteral, same⟩ := Reads.numberLiteral_text taken
      obtain ⟨first, later, rfl, -⟩ := isLiteral.starts
      obtain ⟨rfl, rfl⟩ := List.cons.inj same
      refine ⟨_, isValueOf_afterBlank (.number isLiteral) ?_, rfl⟩
      intro other ended
      have reads := isLiteral.reads ended (.unfinished .value)
      rw [List.cons_append] at reads ⊢
      rw [Reads]
      simp only [number, if_true]
      exact Gives.checkValue (Gives.checkValue reads meant) held
    · exact absurd reads not_gives_error

theorem regular_int32 : Regular int32 :=
  regular_integer "i32" int32OfInt?

theorem regular_int64 : Regular int64 :=
  regular_integer "i64" int64OfInt?

/-! ## Absent values and choices -/

theorem regular_optional {reader : Reader α} (regular : Regular reader) :
    Regular (optional reader) := by
  unfold optional
  apply regular_afterBlank
  intro text result rest solid reads
  rw [Reads] at reads
  split at reads
  · obtain ⟨rfl, rfl⟩ := gives_keyword_iff.mp reads
    refine ⟨['n', 'u', 'l', 'l'],
      isValueOf_afterBlank (.word (by simp [words])) ?_, rfl⟩
    exact fun other _ => gives_keyword_iff.mpr ⟨rfl, rfl⟩
  · rename_i present
    obtain ⟨value, taken, rfl⟩ := gives_mapValue_iff.mp reads
    obtain ⟨gap, written, blank, isValueOf, same⟩ := regular taken
    have here : text = written ++ rest := by
      rw [← solid, same]
      exact isValueOf.isValue.skipBlank_append blank rest
    refine ⟨written, isValueOf_afterBlank isValueOf.isValue ?_, here⟩
    intro other ended
    have reads := isValueOf.takes [] other blankRun_nil ended
    obtain ⟨first, later, rfl, -⟩ := isValueOf.isValue.starts
    have notNull : ∀ behind, first :: later ++ other ≠ 'n' :: behind := by
      intro behind null
      rw [List.cons_append] at here null
      rw [(List.cons.inj null).1] at here
      exact present _ here
    rw [List.nil_append] at reads
    rw [Reads]
    generalize first :: later ++ other = whole at reads notNull
    split
    · exact absurd rfl (notNull _)
    · exact Gives.mapValue reads some

theorem Reads.nameKey_text [Named α] {text rest : List Char} {result : α}
    (reads : Reads nameKey text result rest) :
    ∃ gap body, BlankRun gap ∧ IsStringBody body ∧
      text = gap ++ '"' :: (body ++ rest) ∧
      TakesOff nameKey (gap ++ '"' :: body) result := by
  unfold nameKey at reads
  obtain ⟨gap, start, blank, rfl, -, here⟩ := reads.afterBlank_text
  rw [Reads] at here
  split at here
  · exact absurd here not_gives_error
  · rw [gives_behind_iff] at here
    obtain ⟨characters, taken, accepted⟩ := gives_checkValue_iff.mp here
    obtain ⟨body, isBody, rfl, takes⟩ := Reads.stringBody_text taken
    refine ⟨gap, body, blank, isBody, rfl, ?_⟩
    intro other
    rw [List.append_assoc, nameKey, reads_afterBlank_iff,
      skipBlank_append blank]
    exact gives_behind_iff.mpr (Gives.checkValue (takes other) accepted)
  · exact absurd here not_gives_error
  · exact absurd here not_gives_error

theorem Reads.onlyMember_text {text rest : List Char}
    (reads : Reads onlyMember text () rest) :
    ∃ gap, BlankRun gap ∧ text = gap ++ '}' :: rest := by
  unfold onlyMember at reads
  obtain ⟨gap, start, blank, rfl, -, here⟩ := reads.afterBlank_text
  rw [Reads] at here
  split at here
  · exact absurd here not_gives_error
  · obtain ⟨-, rfl⟩ := gives_ok_iff.mp here
    exact ⟨gap, blank, rfl⟩
  · exact absurd here not_gives_error

/-- A choice in an object is the key of its only member, which carries
nothing. -/
theorem Reads.nameObject_text [Named α] {text rest : List Char} {result : α}
    (reads : Reads nameObject text result rest) :
    ∃ inner, IsValue ('{' :: inner) ∧ text = inner ++ rest ∧
      TakesOff nameObject inner result := by
  obtain ⟨found, afterKey, taken, left⟩ := gives_andThen_iff.mp reads
  obtain ⟨_, afterColon, taken', left⟩ := gives_andThen_iff.mp left
  obtain ⟨_, afterValue, taken'', left⟩ := gives_andThen_iff.mp left
  obtain ⟨_, closed, rfl⟩ := gives_mapValue_iff.mp left
  obtain ⟨gap, body, blank, isBody, rfl, takes⟩ := Reads.nameKey_text taken
  obtain ⟨before, blank', rfl⟩ := Reads.colon_text taken'
  obtain ⟨after, value, blank'', isValueOf, rfl⟩ := regular_unit taken''
  obtain ⟨closing, blank''', rfl⟩ := Reads.onlyMember_text closed
  let member : MemberText := ⟨body, before, after, value⟩
  have keyed : member.IsKeyed := ⟨isBody, blank', blank''⟩
  have laid : Lays '}' true ([member].map MemberText.text)
      (gap ++ (member.text ++ (closing ++ ['}']))) :=
    .part blank (.close blank''')
  refine ⟨gap ++ (member.text ++ (closing ++ ['}'])),
    .object (by simpa using keyed) (by simpa using isValueOf.isValue) laid, ?_, ?_⟩
  · simp [member, MemberText.text, MemberText.unquoted]
  · intro other
    have ended : EndsNumber (closing ++ '}' :: other) :=
      Value.endsNumber_of_blankRun blank''' (by simp [EndsNumber])
    have same : gap ++ (member.text ++ (closing ++ ['}'])) ++ other =
        gap ++ '"' :: body ++
          (before ++ ':' :: (after ++ (value ++ (closing ++ '}' :: other)))) := by
      simp [member, MemberText.text, MemberText.unquoted]
    rw [same]
    refine Gives.andThen (takes _) (Gives.andThen (reads_colon blank' _)
      (Gives.andThen (isValueOf.takes after _ blank'' ended) ?_))
    have closes : Reads onlyMember (closing ++ '}' :: other) () other := by
      rw [onlyMember, reads_afterBlank_iff, skipBlank_append blank''']
      exact gives_ok
    exact Gives.mapValue closes _

theorem regular_choice [Named α] : Regular (choice : Reader α) := by
  unfold choice
  apply regular_afterBlank
  intro text result rest solid reads
  rw [Reads] at reads
  split at reads
  · exact absurd reads not_gives_error
  · rw [gives_behind_iff] at reads
    obtain ⟨characters, taken, accepted⟩ := gives_checkValue_iff.mp reads
    obtain ⟨body, isBody, rfl, takes⟩ := Reads.stringBody_text taken
    refine ⟨'"' :: body, isValueOf_afterBlank (.string isBody) ?_, rfl⟩
    intro other _
    exact gives_behind_iff.mpr (Gives.checkValue (takes other) accepted)
  · rw [gives_behind_iff] at reads
    obtain ⟨inner, isValue, rfl, takes⟩ := Reads.nameObject_text reads
    refine ⟨'{' :: inner, isValueOf_afterBlank isValue ?_, rfl⟩
    exact fun other _ => gives_behind_iff.mpr (takes other)
  · exact absurd reads not_gives_error

/-! ## Lists and maps -/

theorem regular_list {item : Reader α} (regular : Regular item) :
    Regular (list item) := by
  unfold list
  apply regular_afterBlank
  intro text result rest solid reads
  rw [Reads] at reads
  split at reads
  · rw [gives_behind_iff] at reads
    obtain ⟨parts, inner, laid, taken, rfl⟩ := Reads.elements_text regular reads
    have isValue : IsValue ('[' :: inner) :=
      .list (forall_part taken IsValueOf.isValue) laid
    refine ⟨'[' :: inner, isValueOf_afterBlank isValue ?_, rfl⟩
    intro other _
    exact gives_behind_iff.mpr (laid.reads_elements taken other)
  · exact absurd reads not_gives_error

theorem Runs.forall_of_step {σ : Type} {step : σ → MemberText → σ → Prop}
    {right : MemberText → Prop} {state final : σ} {members : List MemberText}
    (runs : Runs step state members final)
    (each : ∀ {state member middle}, step state member middle → right member) :
    ∀ member ∈ members, right member := by
  induction runs with
  | done => simp
  | next now later ih => exact List.forall_mem_cons.mpr ⟨each now, ih⟩

/-- An object whose members are read one after the other. -/
theorem isValue_of_runs {σ : Type} {step : σ → MemberText → σ → Prop}
    {state final : σ} {members : List MemberText} {inner : List Char}
    (laid : Lays '}' true (members.map MemberText.text) inner)
    (runs : Runs step state members final)
    (valid : ∀ {state member middle}, step state member middle →
      member.IsValid) : IsValue ('{' :: inner) :=
  have all := runs.forall_of_step valid
  .object (fun member listed => (all member listed).keyed)
    (fun member listed => (all member listed).value) laid

section Maps

variable {κ σ : Type} {key : List Char → Except Error κ} {value : Reader α}

theorem Reads.entry_text (regular : Regular value) {text rest : List Char}
    {result : κ × α} (reads : Reads (entry key value) text result rest) :
    ∃ member, IsMemberOf (entry key value) member result ∧
      text = member.unquoted ++ rest := by
  obtain ⟨found, afterKey, taken, left⟩ := gives_andThen_iff.mp reads
  obtain ⟨characters, taken, accepted⟩ := gives_checkValue_iff.mp taken
  obtain ⟨body, isBody, rfl, takes⟩ := Reads.stringBody_text taken
  obtain ⟨before, after, written, blank, blank', isValueOf, rfl⟩ :=
    Reads.behindColon_text (regular.mapValue (found, ·)) left
  refine ⟨⟨body, before, after, written⟩, ?_, ?_⟩
  · exact isMemberOf ⟨isBody, blank, blank'⟩
      (fun other => Gives.checkValue (takes other) accepted) isValueOf.isValue
      fun _ ended => isValueOf.behindColon blank blank' ended
  · simp only [MemberText.unquoted, List.append_assoc, List.cons_append]

theorem IsMemberOf.mapValue {β : Type} {reader : Reader α} {member : MemberText}
    {result : α} (isMemberOf : IsMemberOf reader member result)
    (function : α → β) :
    IsMemberOf (fun text => Json.mapValue function (reader text)) member
      (function result) where
  isValid := isMemberOf.isValid
  takes rest ended := Gives.mapValue (isMemberOf.takes rest ended) function

theorem regular_map (regular : Regular value) (empty : σ)
    (insert : σ → κ → α → σ) : Regular (map key value empty insert) := by
  unfold map
  apply regular_afterBlank
  intro text result rest solid reads
  rw [Reads] at reads
  -- One member puts its entry under its key.
  let reader (entries : σ) : Reader σ := fun text =>
    mapValue (fun found => insert entries found.1 found.2) (entry key value text)
  split at reads
  · rw [gives_behind_iff] at reads
    have each : ∀ {entries grown : σ} {text rest : List Char},
        Reads (reader entries) text grown rest →
          ∃ member, IsMemberOf (reader entries) member grown ∧
            text = member.unquoted ++ rest := by
      intro entries grown text rest reads
      obtain ⟨found, taken, rfl⟩ := gives_mapValue_iff.mp reads
      obtain ⟨member, isMemberOf, same⟩ := Reads.entry_text regular taken
      exact ⟨member, isMemberOf.mapValue _, same⟩
    obtain ⟨members, inner, laid, runs, rfl⟩ := Reads.members_text each reads
    refine ⟨'{' :: inner, isValueOf_afterBlank
      (isValue_of_runs laid runs IsMemberOf.isValid) ?_, rfl⟩
    intro other _
    exact gives_behind_iff.mpr (laid.reads_members id runs other)
  · exact absurd reads not_gives_error

end Maps

end Json

end WalletRows
