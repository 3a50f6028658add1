import WalletRows.Proofs.Json.BracketScanning
import WalletRows.Proofs.Json.Decoding
import WalletRows.Proofs.Json.NumberScanning

/-!
# What is passed over

A value is passed over exactly if the grammar has it, however deep it nests.
The grammar is therefore unambiguous: the front of a text is at most one string,
at most one value that ends there, and a list of members in at most one way.
-/

namespace WalletRows

namespace Json

/-! ## Readers of values -/

section Readers

variable {α β : Type}

/-- Readers that pass over blank characters first need no care for them. -/
theorem isValueOf_afterBlank {reader : Reader α} {text : List Char} {result : α}
    (isValue : IsValue text)
    (takes : ∀ rest, EndsNumber rest → Reads reader (text ++ rest) result rest) :
    IsValueOf (afterBlank reader) text result where
  isValue := isValue
  takes gap rest blank ended := by
    rw [reads_afterBlank_iff, isValue.skipBlank_append blank]
    exact takes rest ended

theorem regular_afterBlank {reader : Reader α}
    (here : ∀ {text : List Char} {result : α} {rest : List Char},
      skipBlank text = text → Reads reader text result rest →
        ∃ written, IsValueOf (afterBlank reader) written result ∧
          text = written ++ rest) : Regular (afterBlank reader) := by
  intro text result rest reads
  obtain ⟨gap, start, blank, rfl, solid, reads⟩ := reads.afterBlank_text
  obtain ⟨written, isValueOf, rfl⟩ := here solid reads
  exact ⟨gap, written, blank, isValueOf, rfl⟩

theorem IsValueOf.mapValue {reader : Reader α} {text : List Char} {result : α}
    (isValueOf : IsValueOf reader text result) (function : α → β) :
    IsValueOf (fun text => Json.mapValue function (reader text)) text
      (function result) where
  isValue := isValueOf.isValue
  takes gap rest blank ended :=
    Gives.mapValue (isValueOf.takes gap rest blank ended) function

theorem Regular.mapValue {reader : Reader α} (regular : Regular reader)
    (function : α → β) :
    Regular fun text => Json.mapValue function (reader text) := by
  intro text result rest reads
  obtain ⟨value, taken, rfl⟩ := gives_mapValue_iff.mp reads
  obtain ⟨gap, written, blank, isValueOf, same⟩ := regular taken
  exact ⟨gap, written, blank, isValueOf.mapValue function, same⟩

/-- A colon and the value behind it. -/
theorem Reads.behindColon_text {reader : Reader α} (regular : Regular reader)
    {text rest : List Char} {result : α}
    (reads : Gives (andThen (colon text) fun () => reader) result rest) :
    ∃ before after value, BlankRun before ∧ BlankRun after ∧
      IsValueOf reader value result ∧
      text = before ++ ':' :: (after ++ (value ++ rest)) := by
  obtain ⟨_, middle, taken, left⟩ := gives_andThen_iff.mp reads
  obtain ⟨before, blank, rfl⟩ := Reads.colon_text taken
  obtain ⟨after, value, blank', isValueOf, rfl⟩ := regular left
  exact ⟨before, after, value, blank, blank', isValueOf, rfl⟩

theorem IsValueOf.behindColon {reader : Reader α} {value : List Char}
    {result : α} (isValueOf : IsValueOf reader value result)
    {before after rest : List Char} (blank : BlankRun before)
    (blank' : BlankRun after) (ended : EndsNumber rest) :
    Gives (andThen (colon (before ++ ':' :: (after ++ (value ++ rest))))
      fun () => reader) result rest :=
  Gives.andThen (reads_colon blank _) (isValueOf.takes after rest blank' ended)

/-- A key, a colon and a value make a member. -/
theorem isMemberOf {κ : Type} {key : Reader κ} {found : κ}
    {tail : κ → Reader α} {member : MemberText} {result : α}
    (keyed : member.IsKeyed) (named : TakesOff key member.key found)
    (isValue : IsValue member.value)
    (takes : ∀ rest, EndsNumber rest →
      Reads (tail found)
        (member.before ++ ':' :: (member.after ++ (member.value ++ rest)))
        result rest) :
    IsMemberOf (fun text => andThen (key text) tail) member result where
  isValid := ⟨keyed, isValue⟩
  takes rest ended := by
    have unquoted : member.unquoted ++ rest = member.key ++
        (member.before ++ ':' ::
          (member.after ++ (member.value ++ rest))) := by
      simp only [MemberText.unquoted, List.append_assoc, List.cons_append]
    rw [unquoted]
    exact Gives.andThen (named _) (takes rest ended)

end Readers

/-! ## Passing over values -/

def skipMember (depth : Nat) : Reader Unit :=
  fun text =>
    andThen (skipString text) fun () afterKey =>
      andThen (colon afterKey) fun () => skipNested depth

structure IsSkipped (depth : Nat) (member : MemberText) : Prop where
  keyed : member.IsKeyed
  value : IsValueOf (skipNested depth) member.value ()

theorem IsSkipped.isMemberOf {depth : Nat} {member : MemberText}
    (skipped : IsSkipped depth member) :
    IsMemberOf (skipMember depth) member () :=
  Json.isMemberOf skipped.keyed skipped.keyed.key.takesOff
    skipped.value.isValue fun _ ended =>
      skipped.value.behindColon skipped.keyed.before skipped.keyed.after ended

theorem Reads.skipMember_text {depth : Nat} (regular : Regular (skipNested depth))
    {text rest : List Char} (reads : Reads (skipMember depth) text () rest) :
    ∃ member, IsSkipped depth member ∧ text = member.unquoted ++ rest := by
  obtain ⟨_, middle, taken, left⟩ := gives_andThen_iff.mp reads
  obtain ⟨body, isBody, rfl⟩ := Reads.skipString_text taken
  obtain ⟨before, after, value, blank, blank', isValueOf, rfl⟩ :=
    Reads.behindColon_text regular left
  refine ⟨⟨body, before, after, value⟩, ⟨⟨isBody, blank, blank'⟩, isValueOf⟩, ?_⟩
  simp only [MemberText.unquoted, List.append_assoc, List.cons_append]

/-- Without a state, members only have to be right. -/
theorem runs_unit_iff {right : MemberText → Prop} {members : List MemberText} :
    Runs (fun (_ : Unit) member _ => right member) () members () ↔
      ∀ member ∈ members, right member := by
  constructor
  · intro runs
    induction members with
    | nil => simp
    | cons member members ih =>
        cases runs with
        | next now later => exact List.forall_mem_cons.mpr ⟨now, ih later⟩
  · intro all
    induction members with
    | nil => exact .done ()
    | cons member members ih =>
        rw [List.forall_mem_cons] at all
        exact .next all.1 (ih all.2)

theorem isValueOf_skipNested_word (depth : Nat) {text : List Char}
    (known : text ∈ words) : IsValueOf (skipNested (depth + 1)) text () := by
  have isValue : IsValue text := .word known
  rw [skipNested]
  apply isValueOf_afterBlank isValue
  intro rest _
  simp only [words, List.mem_cons, List.not_mem_nil, or_false] at known
  rcases known with rfl | rfl | rfl
  · exact gives_keyword ['u', 'l', 'l'] () rest
  · exact gives_keyword ['r', 'u', 'e'] () rest
  · exact gives_keyword ['a', 'l', 's', 'e'] () rest

theorem isValueOf_skipNested_number (depth : Nat) {text : List Char}
    {literal : NumberLiteral} (written : IsLiteral text literal) :
    IsValueOf (skipNested (depth + 1)) text () := by
  rw [skipNested]
  apply isValueOf_afterBlank (.number written)
  intro rest ended
  have reads := written.reads ended (.malformed .invalidNumber)
  obtain ⟨first, later, rfl, starts⟩ := written.starts
  have number : (decide (first = '-') || first.isDigit) = true := by
    rcases starts with minus | digit <;> simp [*]
  rw [List.cons_append] at reads ⊢
  rw [Reads]
  -- The first character is that of a number and of nothing else.
  generalize whole : first :: (later ++ rest) = text at reads
  split <;> cases whole
  iterate 6 simp at number
  rw [if_pos number]
  exact Gives.mapValue reads _

theorem isValueOf_skipNested_string (depth : Nat) {body : List Char}
    (quoted : IsStringBody body) :
    IsValueOf (skipNested (depth + 1)) ('"' :: body) () := by
  rw [skipNested]
  apply isValueOf_afterBlank (.string quoted)
  intro rest _
  exact gives_behind_iff.mpr (quoted.takesOff rest)

theorem isValueOf_skipNested_list {depth : Nat} {parts : List (List Char)}
    {inner : List Char}
    (values : ∀ part ∈ parts, IsValueOf (skipNested depth) part ())
    (laid : Lays ']' true parts inner) :
    IsValueOf (skipNested (depth + 1)) ('[' :: inner) () := by
  have isValue : IsValue ('[' :: inner) :=
    .list (fun part member => (values part member).isValue) laid
  have taken : List.Forall₂ (IsValueOf (skipNested depth)) parts
      (parts.map fun _ => ()) := by
    rw [List.forall₂_map_right_iff]
    exact List.forall₂_same.mpr values
  rw [skipNested]
  apply isValueOf_afterBlank isValue
  intro rest _
  exact gives_behind_iff.mpr (Gives.mapValue (laid.reads_elements taken rest) _)

theorem isValueOf_skipNested_object {depth : Nat} {members : List MemberText}
    {inner : List Char} (skipped : ∀ member ∈ members, IsSkipped depth member)
    (laid : Lays '}' true (members.map MemberText.text) inner) :
    IsValueOf (skipNested (depth + 1)) ('{' :: inner) () := by
  have isValue : IsValue ('{' :: inner) :=
    .object (fun member listed => (skipped member listed).keyed)
      (fun member listed => (skipped member listed).value.isValue) laid
  rw [skipNested]
  apply isValueOf_afterBlank isValue
  intro rest _
  exact gives_behind_iff.mpr
    (laid.reads_members IsSkipped.isMemberOf (runs_unit_iff.mpr skipped) rest)

/-- What is passed over is a value. -/
theorem regular_skipNested (depth : Nat) : Regular (skipNested depth) := by
  induction depth with
  | zero =>
      intro text result rest reads
      exact absurd reads not_gives_error
  | succ depth ih =>
      rw [skipNested]
      apply regular_afterBlank
      rw [← skipNested]
      intro text result rest solid reads
      rw [Reads] at reads
      -- One case for each first character: none, the brackets, a quote, the three
      -- words, and any other one.
      split at reads
      · exact absurd reads not_gives_error
      · rw [gives_behind_iff] at reads
        obtain ⟨values, taken, -⟩ := gives_mapValue_iff.mp reads
        obtain ⟨parts, inner, laid, all, rfl⟩ := Reads.elements_text ih taken
        have each : ∀ part ∈ parts, IsValueOf (skipNested depth) part () :=
          forall_part all id
        exact ⟨_, isValueOf_skipNested_list each laid, rfl⟩
      · rw [gives_behind_iff] at reads
        obtain ⟨members, inner, laid, runs, rfl⟩ :=
          Reads.members_text (Reads.skipMember_text ih) reads
        exact ⟨_, isValueOf_skipNested_object (runs_unit_iff.mp runs) laid, rfl⟩
      · rw [gives_behind_iff] at reads
        obtain ⟨body, isBody, rfl⟩ := Reads.skipString_text reads
        exact ⟨_, isValueOf_skipNested_string depth isBody, rfl⟩
      · obtain ⟨rfl, -⟩ := gives_keyword_iff.mp reads
        exact ⟨['n', 'u', 'l', 'l'],
          isValueOf_skipNested_word depth (by simp [words]), rfl⟩
      · obtain ⟨rfl, -⟩ := gives_keyword_iff.mp reads
        exact ⟨['t', 'r', 'u', 'e'],
          isValueOf_skipNested_word depth (by simp [words]), rfl⟩
      · obtain ⟨rfl, -⟩ := gives_keyword_iff.mp reads
        exact ⟨['f', 'a', 'l', 's', 'e'],
          isValueOf_skipNested_word depth (by simp [words]), rfl⟩
      · split at reads
        · obtain ⟨literal, taken, -⟩ := gives_mapValue_iff.mp reads
          obtain ⟨written, isLiteral, same⟩ := Reads.numberLiteral_text taken
          exact ⟨written, isValueOf_skipNested_number depth isLiteral, same⟩
        · exact absurd reads not_gives_error

theorem Lays.length_pos {closing : Char} {first : Bool}
    {parts : List (List Char)} {inner : List Char}
    (laid : Lays closing first parts inner) : 0 < inner.length := by
  induction laid with
  | close blank => simp
  | part separates others ih =>
      simp only [List.length_append]
      omega

theorem Lays.length_lt {closing : Char} {first : Bool}
    {parts : List (List Char)} {inner part : List Char}
    (laid : Lays closing first parts inner) (member : part ∈ parts) :
    part.length < inner.length := by
  induction laid with
  | close blank => cases member
  | part separates others ih =>
      have closed := others.length_pos
      simp only [List.length_append]
      rcases List.mem_cons.mp member with rfl | listed
      · omega
      · have := ih listed
        omega

/-- A value nests less deep than it is long. -/
theorem IsValue.isValueOf_skipNested {text : List Char} (isValue : IsValue text)
    {depth : Nat} (deep : text.length ≤ depth) :
    IsValueOf (skipNested depth) text () := by
  have positive : 0 < text.length := by
    obtain ⟨first, later, rfl, -⟩ := isValue.starts
    exact Nat.succ_pos _
  obtain ⟨depth, rfl⟩ := Nat.exists_eq_succ_of_ne_zero (n := depth) (by omega)
  clear positive
  -- Each part is shorter than the brackets around it, so one level of depth less
  -- is still enough for it.
  induction isValue generalizing depth with
  | word known => exact isValueOf_skipNested_word depth known
  | number written => exact isValueOf_skipNested_number depth written
  | string quoted => exact isValueOf_skipNested_string depth quoted
  | @list parts inner values laid ih =>
      refine isValueOf_skipNested_list ?_ laid
      intro part member
      have shorter := laid.length_lt member
      rw [List.length_cons] at deep
      obtain ⟨depth, rfl⟩ := Nat.exists_eq_succ_of_ne_zero (n := depth) (by omega)
      exact ih part member depth (by omega)
  | @object members inner keyed values laid ih =>
      refine isValueOf_skipNested_object ?_ laid
      intro member listed
      have shorter := laid.length_lt (List.mem_map_of_mem listed)
      have within : member.value.length < member.text.length := by
        simp only [MemberText.text, MemberText.unquoted, List.length_cons,
          List.length_append]
        omega
      rw [List.length_cons] at deep
      obtain ⟨depth, rfl⟩ := Nat.exists_eq_succ_of_ne_zero (n := depth) (by omega)
      exact ⟨keyed member listed, ih member listed depth (by omega)⟩

/-- Every value is passed over. -/
theorem IsValue.isValueOf_skipValue {text : List Char} (isValue : IsValue text) :
    IsValueOf skipValue text () where
  isValue := isValue
  takes gap rest blank ended := by
    have long : text.length ≤ (gap ++ (text ++ rest)).length := by
      simp only [List.length_append]
      omega
    exact (isValue.isValueOf_skipNested long).takes gap rest blank ended

/-- Only values are passed over. -/
theorem regular_skipValue : Regular skipValue := by
  intro text result rest reads
  obtain ⟨gap, written, blank, isValueOf, same⟩ :=
    regular_skipNested text.length reads
  exact ⟨gap, written, blank, isValueOf.isValue.isValueOf_skipValue, same⟩

/-! ## One way to read a text -/

theorem Gives.unique {α : Type} {text : List Char}
    {answer : Except Error (α × Rest text)} {value value' : α}
    {rest rest' : List Char} (first : Gives answer value rest)
    (second : Gives answer value' rest') : value = value' ∧ rest = rest' := by
  obtain ⟨shorter, same⟩ := first
  rw [same] at second
  exact gives_ok_iff.mp second

theorem IsStringBody.unique {body body' rest rest' : List Char}
    (isBody : IsStringBody body) (isBody' : IsStringBody body')
    (same : body ++ rest = body' ++ rest') : body = body' ∧ rest = rest' := by
  have first := isBody.takesOff rest
  have second := isBody'.takesOff rest'
  rw [← same] at second
  obtain ⟨-, rfl⟩ := Gives.unique first second
  exact ⟨List.append_cancel_right same, rfl⟩

theorem BlankRun.unique {gap gap' rest rest' : List Char} (blank : BlankRun gap)
    (blank' : BlankRun gap') (solid : skipBlank rest = rest)
    (solid' : skipBlank rest' = rest') (same : gap ++ rest = gap' ++ rest') :
    gap = gap' ∧ rest = rest' := by
  have skipped := congrArg skipBlank same
  rw [skipBlank_append blank, skipBlank_append blank', solid, solid'] at skipped
  subst skipped
  exact ⟨List.append_cancel_right same, rfl⟩

theorem IsValue.unique {gap gap' value value' rest rest' : List Char}
    (isValue : IsValue value) (isValue' : IsValue value') (blank : BlankRun gap)
    (blank' : BlankRun gap') (ended : EndsNumber rest)
    (ended' : EndsNumber rest')
    (same : gap ++ (value ++ rest) = gap' ++ (value' ++ rest')) :
    gap = gap' ∧ value = value' ∧ rest = rest' := by
  -- Passing over both values is one run of the same reader.
  have first := isValue.isValueOf_skipValue.takes gap rest blank ended
  have second := isValue'.isValueOf_skipValue.takes gap' rest' blank' ended'
  rw [← same] at second
  obtain ⟨-, rfl⟩ := Gives.unique first second
  have solid := isValue.skipBlank_append blankRun_nil rest
  have solid' := isValue'.skipBlank_append blankRun_nil rest
  obtain ⟨rfl, values⟩ := blank.unique blank' solid solid' same
  exact ⟨rfl, List.append_cancel_right values, rfl⟩

/-- A member is taken off the front of a text in at most one way. -/
theorem MemberText.IsValid.unique {member member' : MemberText}
    {rest rest' : List Char} (valid : member.IsValid) (valid' : member'.IsValid)
    (ended : EndsNumber rest) (ended' : EndsNumber rest')
    (same : member.unquoted ++ rest = member'.unquoted ++ rest') :
    member = member' ∧ rest = rest' := by
  obtain ⟨key, before, after, value⟩ := member
  obtain ⟨key', before', after', value'⟩ := member'
  simp only [MemberText.unquoted, List.append_assoc, List.cons_append] at same
  obtain ⟨rfl, colons⟩ := valid.keyed.key.unique valid'.keyed.key same
  obtain ⟨rfl, values⟩ :=
    valid.keyed.before.unique valid'.keyed.before rfl rfl colons
  obtain ⟨rfl, rfl, rfl⟩ := valid.value.unique valid'.value valid.keyed.after
    valid'.keyed.after ended ended' (List.cons.inj values).2
  exact ⟨rfl, rfl⟩

/-- Only one part of a text can start behind what separates it. -/
theorem Separates.unique {first : Bool} {gap gap' rest rest' : List Char}
    (separates : Separates first gap) (separates' : Separates first gap')
    (solid : skipBlank rest = rest) (solid' : skipBlank rest' = rest')
    (same : gap ++ rest = gap' ++ rest') : rest = rest' := by
  cases first with
  | true => exact (BlankRun.unique separates separates' solid solid' same).2
  | false =>
      obtain ⟨before, after, front, back, rfl⟩ := separates
      obtain ⟨before', after', front', back', rfl⟩ := separates'
      simp only [List.append_assoc, List.cons_append] at same
      obtain ⟨-, behind⟩ := front.unique front' rfl rfl same
      exact (back.unique back' solid solid' (List.cons.inj behind).2).2

section Parts

variable {closing : Char} (bracket : closing = ']' ∨ closing = '}')

include bracket

/-- Where a bracket is closed, no part starts. -/
theorem Separates.ne_close {first : Bool} {gap gap' rest rest' : List Char}
    {character : Char} (separates : Separates first gap) (blank : BlankRun gap')
    (solid : isBlank character = false) (notClose : character ≠ closing) :
    gap' ++ closing :: rest' ≠ gap ++ character :: rest := by
  intro same
  have closes : skipBlank (closing :: rest') = closing :: rest' :=
    skipBlank_of_not_isBlank (by rcases bracket with rfl | rfl <;> decide) rest'
  cases first with
  | true =>
      have starts := skipBlank_of_not_isBlank solid rest
      obtain ⟨-, behind⟩ := blank.unique separates closes starts same
      exact notClose (List.cons.inj behind).1.symm
  | false =>
      obtain ⟨before, after, front, -, rfl⟩ := separates
      rw [List.append_assoc, List.cons_append] at same
      obtain ⟨-, behind⟩ := blank.unique front closes rfl same
      rw [(List.cons.inj behind).1] at bracket
      revert bracket
      decide

/-- A text is laid from one list of parts at most, if each part is taken off the
front of a text in at most one way. -/
theorem Lays.unique {τ : Type} {text : τ → List Char} {right : τ → Prop}
    (starts : ∀ {part}, right part → ∃ character later,
      text part = character :: later ∧ isBlank character = false ∧
        character ≠ closing)
    (taken : ∀ {part part' : τ} {rest rest' : List Char}, right part →
      right part' → EndsNumber rest → EndsNumber rest' →
        text part ++ rest = text part' ++ rest' → part = part' ∧ rest = rest')
    {first : Bool} {parts parts' : List τ} {inner inner' rest rest' : List Char}
    (laid : Lays closing first (parts.map text) inner)
    (laid' : Lays closing first (parts'.map text) inner')
    (all : ∀ part ∈ parts, right part) (all' : ∀ part ∈ parts', right part)
    (same : inner ++ rest = inner' ++ rest') : parts = parts' := by
  have solid {part : τ} (isRight : right part) (rest : List Char) :
      skipBlank (text part ++ rest) = text part ++ rest := by
    obtain ⟨character, later, written, solid, -⟩ := starts isRight
    rw [written, List.cons_append, skipBlank_of_not_isBlank solid]
  have ne_close {first : Bool} {gap gap' later rest rest' : List Char} {part : τ}
      (separates : Separates first gap) (blank : BlankRun gap')
      (isRight : right part) :
      gap' ++ [closing] ++ rest' ≠ gap ++ (text part ++ later) ++ rest := by
    obtain ⟨character, behind, written, solid, notClose⟩ := starts isRight
    rw [written, List.append_assoc, List.append_assoc, List.append_assoc]
    exact separates.ne_close bracket blank solid notClose
  induction parts generalizing first parts' inner inner' with
  | nil =>
      cases laid with
      | close blank =>
          cases parts' with
          | nil => rfl
          | cons part' parts' =>
              rw [List.forall_mem_cons] at all'
              cases laid' with
              | part separates others =>
                  exact absurd same (ne_close separates blank all'.1)
  | cons part parts ih =>
      rw [List.forall_mem_cons] at all
      cases laid with
      | part separates others =>
          cases parts' with
          | nil =>
              cases laid' with
              | close blank =>
                  exact absurd same.symm (ne_close separates blank all.1)
          | cons part' parts' =>
              rw [List.forall_mem_cons] at all'
              cases laid' with
              | part separates' others' =>
                  simp only [List.append_assoc] at same
                  have here := separates.unique separates' (solid all.1 _)
                    (solid all'.1 _) same
                  obtain ⟨rfl, behind⟩ := taken all.1 all'.1
                    (others.endsNumber bracket rest)
                    (others'.endsNumber bracket rest') here
                  rw [ih others others' all.2 all'.2 behind]

end Parts

theorem Lays.unique_members {first : Bool} {members members' : List MemberText}
    {inner inner' rest rest' : List Char}
    (laid : Lays '}' first (members.map MemberText.text) inner)
    (laid' : Lays '}' first (members'.map MemberText.text) inner')
    (valid : ∀ member ∈ members, member.IsValid)
    (valid' : ∀ member ∈ members', member.IsValid)
    (same : inner ++ rest = inner' ++ rest') : members = members' := by
  refine Lays.unique (.inr rfl) ?_ ?_ laid laid' valid valid' same
  · intro member valid
    exact ⟨'"', member.unquoted, rfl, by decide, by decide⟩
  · intro member member' rest rest' valid valid' ended ended' same
    exact valid.unique valid' ended ended' (List.cons.inj same).2

theorem Lays.unique_elements {first : Bool} {parts parts' : List (List Char)}
    {inner inner' rest rest' : List Char} (laid : Lays ']' first parts inner)
    (laid' : Lays ']' first parts' inner')
    (values : ∀ part ∈ parts, IsValue part)
    (values' : ∀ part ∈ parts', IsValue part)
    (same : inner ++ rest = inner' ++ rest') : parts = parts' := by
  rw [← List.map_id parts] at laid
  rw [← List.map_id parts'] at laid'
  refine Lays.unique (.inl rfl) IsValue.starts ?_ laid laid' values values' same
  intro part part' rest rest' isValue isValue' ended ended' same
  exact (isValue.unique isValue' blankRun_nil blankRun_nil ended ended' same).2

/-- A text is an object with one list of members at most. -/
theorem LaysObject.unique {members members' : List MemberText}
    {text : List Char} (laid : LaysObject members text)
    (laid' : LaysObject members' text) : members = members' := by
  obtain ⟨valid, before, inner, after, blank, -, lays, rfl⟩ := laid
  obtain ⟨valid', before', inner', after', blank', -, lays', same⟩ := laid'
  obtain ⟨-, inners⟩ := blank.unique blank' rfl rfl same
  exact lays.unique_members lays' valid valid' (List.cons.inj inners).2

end Json

end WalletRows
