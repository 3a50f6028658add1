import Mathlib.Data.Nat.Init
import WalletRows.Proofs.Json.Spelling
import WalletRows.Proofs.Json.StringText

/-!
# Lists and objects read back

The elements of a spelled list are read back one after the other if the reader
of elements gives each back.  Members of an object take a state along, and a
spelled object is read to the state behind its last member.
-/

namespace WalletRows

namespace Json

open Value

/-- A reader gives a result back from every spelling of a value, behind any
blank characters and whatever follows, as long as that does not go on with a
number. -/
def ReadsBack {α : Type} (reader : Reader α) (value : Value) (result : α) :
    Prop :=
  ∀ gap text rest, BlankRun gap → value.Spells text → EndsNumber rest →
    Reads reader (gap ++ (text ++ rest)) result rest

/-- Readers that pass over blank characters first need no care for them. -/
theorem readsBack_afterBlank {α : Type} {reader : Reader α} {value : Value}
    {result : α}
    (reads : ∀ text rest, value.Spells text → EndsNumber rest →
      Reads reader (text ++ rest) result rest) :
    ReadsBack (afterBlank reader) value result := by
  intro gap text rest blank spells ended
  obtain ⟨first, later, starts, solid, -⟩ := spells.starts
  have skipped : skipBlank (gap ++ (text ++ rest)) = text ++ rest := by
    rw [skipBlank_append blank, starts, List.cons_append,
      skipBlank_of_not_isBlank solid]
  rw [reads_afterBlank_iff, skipped]
  exact reads text rest spells ended

/-! ## Steps from part to part -/

section Steps

variable {care : Care} {gap : List Char}

theorem nextElement_close {first : Bool} (blank : BlankRun gap)
    (rest : List Char) :
    ∃ shorter, nextElement care first (gap ++ ']' :: rest) =
      .ok (.close ⟨rest, shorter⟩) := by
  have skipped : skipBlank (gap ++ ']' :: rest) = ']' :: rest := by
    rw [skipBlank_append blank]
    rfl
  refine ⟨by simp; omega, ?_⟩
  unfold nextElement
  split
  · simp_all
  · rename_i same _
    rw [skipped] at same
    cases same
    rfl
  · rename_i notClose same _
    rw [skipped] at same
    cases same
    exact (notClose rfl).elim

theorem nextElement_first (blank : BlankRun gap) {character : Char}
    (solid : isBlank character = false) (notClose : character ≠ ']')
    (rest : List Char) :
    ∃ shorter, nextElement care true (gap ++ character :: rest) =
      .ok (.part ⟨character :: rest, shorter⟩) := by
  have skipped : skipBlank (gap ++ character :: rest) = character :: rest := by
    rw [skipBlank_append blank, skipBlank_of_not_isBlank solid]
  refine ⟨by simp, ?_⟩
  unfold nextElement
  split
  · simp_all
  · rename_i same _
    rw [skipped] at same
    exact (notClose (List.cons.inj same).1).elim
  · rename_i same _
    rw [skipped] at same
    cases same
    rfl

theorem nextElement_next {before after : List Char} (blank : BlankRun before)
    (blank' : BlankRun after) {character : Char}
    (solid : isBlank character = false) (notClose : character ≠ ']')
    (rest : List Char) :
    ∃ shorter,
      nextElement care false (before ++ ',' :: (after ++ character :: rest)) =
        .ok (.part ⟨character :: rest, shorter⟩) := by
  have comma : skipBlank (before ++ ',' :: (after ++ character :: rest)) =
      ',' :: (after ++ character :: rest) := by
    rw [skipBlank_append blank]
    rfl
  have skipped : skipBlank (after ++ character :: rest) = character :: rest := by
    rw [skipBlank_append blank', skipBlank_of_not_isBlank solid]
  refine ⟨by simp; omega, ?_⟩
  unfold nextElement
  split
  · simp_all
  · simp_all
  · rename_i same _
    rw [comma] at same
    cases same
    rw [if_neg Bool.false_ne_true, if_pos rfl]
    generalize length_skipBlank_le (after ++ character :: rest) = within
    revert within
    rw [skipped]
    intro within
    split
    · rename_i same _
      cases same
    · rename_i same _
      exact (notClose (List.cons.inj same).1).elim
    · rfl

theorem nextMember_close {first : Bool} (blank : BlankRun gap)
    (rest : List Char) :
    ∃ shorter, nextMember care first (gap ++ '}' :: rest) =
      .ok (.close ⟨rest, shorter⟩) := by
  have skipped : skipBlank (gap ++ '}' :: rest) = '}' :: rest := by
    rw [skipBlank_append blank]
    rfl
  refine ⟨by simp; omega, ?_⟩
  unfold nextMember
  split
  · simp_all
  · rename_i same _
    rw [skipped] at same
    cases same
    rfl
  · rename_i notClose same _
    rw [skipped] at same
    cases same
    exact (notClose rfl).elim

theorem nextMember_first (blank : BlankRun gap) (rest : List Char) :
    ∃ shorter, nextMember care true (gap ++ '"' :: rest) =
      .ok (.part ⟨rest, shorter⟩) := by
  have skipped : skipBlank (gap ++ '"' :: rest) = '"' :: rest := by
    rw [skipBlank_append blank]
    rfl
  refine ⟨by simp; omega, ?_⟩
  unfold nextMember
  split
  · simp_all
  · simp_all
  · rename_i same _
    rw [skipped] at same
    cases same
    rfl

theorem nextMember_next {before after : List Char} (blank : BlankRun before)
    (blank' : BlankRun after) (rest : List Char) :
    ∃ shorter,
      nextMember care false (before ++ ',' :: (after ++ '"' :: rest)) =
        .ok (.part ⟨rest, shorter⟩) := by
  have comma : skipBlank (before ++ ',' :: (after ++ '"' :: rest)) =
      ',' :: (after ++ '"' :: rest) := by
    rw [skipBlank_append blank]
    rfl
  have skipped : skipBlank (after ++ '"' :: rest) = '"' :: rest := by
    rw [skipBlank_append blank']
    rfl
  refine ⟨by simp; omega, ?_⟩
  unfold nextMember
  split
  · simp_all
  · simp_all
  · rename_i same _
    rw [comma] at same
    cases same
    simp only [Bool.false_eq_true, if_false, if_true]
    split
    · simp_all
    · rename_i same _
      rw [skipped] at same
      cases same
      rfl
    · simp_all
    · rename_i notQuote _ same _
      rw [skipped] at same
      cases same
      exact (notQuote rfl).elim

/-- The next element starts behind what separates it from the one before. -/
theorem nextElement_part {first : Bool} (separates : Separates first gap)
    {character : Char} (solid : isBlank character = false)
    (notClose : character ≠ ']') (rest : List Char) :
    ∃ shorter, nextElement care first (gap ++ character :: rest) =
      .ok (.part ⟨character :: rest, shorter⟩) := by
  cases first with
  | true => exact nextElement_first separates solid notClose rest
  | false =>
      obtain ⟨before, after, blank, blank', rfl⟩ := separates
      rw [List.append_assoc, List.cons_append]
      exact nextElement_next blank blank' solid notClose rest

/-- The key of the next member starts behind what separates it from the member
before. -/
theorem nextMember_part {first : Bool} (separates : Separates first gap)
    (rest : List Char) :
    ∃ shorter, nextMember care first (gap ++ '"' :: rest) =
      .ok (.part ⟨rest, shorter⟩) := by
  cases first with
  | true => exact nextMember_first separates rest
  | false =>
      obtain ⟨before, after, blank, blank', rfl⟩ := separates
      rw [List.append_assoc, List.cons_append]
      exact nextMember_next blank blank' rest

end Steps

/-! ## Runs over all parts -/

/-- Reading an element that is followed by others. -/
theorem Reads.elements_cons {α : Type} {care : Care} {item : Reader α}
    {first : Bool} {gap start later rest : List Char} {value : α}
    {values : List α} {character : Char} {behind : List Char}
    (separates : Separates first gap) (starts : start = character :: behind)
    (solid : isBlank character = false) (notClose : character ≠ ']')
    (reads : Reads item start value later)
    (others : Reads (elements care item false) later values rest) :
    Reads (elements care item first) (gap ++ start) (value :: values) rest := by
  obtain ⟨shorter, step⟩ := @nextElement_part care gap first separates
    character solid notClose behind
  obtain ⟨less, answer⟩ := reads
  rw [Reads, elements]
  subst starts
  simp only [step, answer, gives_widen_iff]
  exact Gives.mapValue others _

/-- A spelled list is read back element by element. -/
theorem reads_elements {α : Type} {care : Care} {item : Reader α}
    {toValue : α → Value} {values : List α}
    (back : ∀ value, ReadsBack item (toValue value) value)
    {first : Bool} {text : List Char}
    (spells : SpellsElements first (values.map toValue) text)
    (rest : List Char) :
    Reads (elements care item first) (text ++ rest) values rest := by
  induction values generalizing first text with
  | nil =>
      rw [List.map_nil, SpellsElements] at spells
      obtain ⟨gap, blank, rfl⟩ := spells
      obtain ⟨shorter, step⟩ := @nextElement_close care gap first blank rest
      rw [List.append_assoc, List.singleton_append, Reads, elements]
      simp only [step]
      exact gives_ok
  | cons value values ih =>
      rw [List.map_cons, SpellsElements] at spells
      obtain ⟨gap, written, later, separates, spelled, others, rfl⟩ := spells
      obtain ⟨character, behind, starts, solid, notClose, -⟩ := spelled.starts
      have reads : Reads item (written ++ (later ++ rest)) value
          (later ++ rest) :=
        back value [] written _ blankRun_nil spelled (others.endsNumber rest)
      rw [List.append_assoc, List.append_assoc]
      exact Reads.elements_cons separates
        (by rw [starts, List.cons_append]) solid notClose reads (ih others)

/-- Reading members takes a state to another, member by member. -/
inductive Updates {σ : Type} (member : σ → Reader σ) :
    σ → List (String × Value) → σ → Prop
  | done (state : σ) : Updates member state [] state
  | next {state middle final : σ} {key : String} {value : Value}
      {others : List (String × Value)}
      (reads : ∀ written text rest, value.Spells written →
        IsMember key written text → EndsNumber rest →
          Reads (member state) (text ++ rest) middle rest)
      (later : Updates member middle others final) :
      Updates member state ((key, value) :: others) final

/-- A spelled object is read to the state behind its last member. -/
theorem Updates.reads {σ : Type} {care : Care} {member : σ → Reader σ}
    {state final : σ} {parts : List (String × Value)}
    (updates : Updates member state parts final) {first : Bool}
    {text : List Char} (spells : SpellsMembers first parts text)
    (rest : List Char) :
    Reads (members care member state first) (text ++ rest) final rest := by
  induction updates generalizing first text with
  | done state =>
      rw [SpellsMembers] at spells
      obtain ⟨gap, blank, rfl⟩ := spells
      obtain ⟨shorter, step⟩ := @nextMember_close care gap first blank rest
      rw [List.append_assoc, List.singleton_append, Reads, members]
      simp only [step]
      exact gives_ok
  | next reads later ih =>
      rw [SpellsMembers] at spells
      obtain ⟨gap, written, part, behind, separates, spelled, isMember, others,
        rfl⟩ := spells
      obtain ⟨shorter, step⟩ := @nextMember_part care gap first separates
        (part ++ (behind ++ rest))
      obtain ⟨less, answer⟩ :=
        reads written part _ spelled isMember (others.endsNumber rest)
      rw [List.append_assoc, List.cons_append, List.append_assoc, Reads,
        members]
      simp only [step, answer, gives_widen_iff]
      exact ih others

end Json

end WalletRows
