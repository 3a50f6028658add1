import Mathlib.Data.List.Forall2
import WalletRows.Proofs.Json.BracketText
import WalletRows.Proofs.Json.Scanning

/-!
# What lists and objects are read off a text

A reader that takes values of the grammar takes each of them as the same result
in every place.  Then a list is read exactly from the parts of its grammar, and
an object from its members, each of which takes a state to the next.
-/

namespace WalletRows

namespace Json

/-- A text is a value that a reader takes as a given result, behind any blank
characters and whatever follows, as long as that does not go on with a number. -/
structure IsValueOf {α : Type} (reader : Reader α) (text : List Char)
    (result : α) : Prop where
  isValue : IsValue text
  takes : ∀ gap rest, BlankRun gap → EndsNumber rest →
    Reads reader (gap ++ (text ++ rest)) result rest

/-- What a reader reads is a value, and it is taken as the same result in every
place. -/
def Regular {α : Type} (reader : Reader α) : Prop :=
  ∀ ⦃text : List Char⦄ ⦃result : α⦄ ⦃rest : List Char⦄,
    Reads reader text result rest →
      ∃ gap written, BlankRun gap ∧ IsValueOf reader written result ∧
        text = gap ++ (written ++ rest)

/-! ## Steps from part to part -/

section Steps

variable {care : Care} {first : Bool} {text : List Char}

theorem nextElement_eq_close {rest : Rest text}
    (step : nextElement care first text = .ok (.close rest)) :
    ∃ gap, BlankRun gap ∧ text = gap ++ ']' :: rest.1 := by
  obtain ⟨gap, blank, same⟩ := exists_gap text
  unfold nextElement at step
  split at step
  · cases step
  · rename_i closing _
    cases step
    rw [closing] at same
    exact ⟨gap, blank, same⟩
  · split at step
    · cases step
    · split at step
      · split at step
        · cases step
        · cases step
        · cases step
      · cases step

theorem nextElement_eq_part {start : Tail text}
    (step : nextElement care first text = .ok (.part start)) :
    ∃ gap, Separates first gap ∧ text = gap ++ start.1 := by
  obtain ⟨gap, blank, same⟩ := exists_gap text
  unfold nextElement at step
  split at step
  · cases step
  · cases step
  · rename_i character later _ _ starts _
    rw [starts] at same
    split at step
    · rename_i isFirst
      cases step
      rw [isFirst]
      exact ⟨gap, blank, same⟩
    · rename_i notFirst
      split at step
      · rename_i comma
        subst comma
        obtain ⟨gap', blank', same'⟩ := exists_gap later
        split at step
        · cases step
        · cases step
        · cases step
          rw [(Bool.not_eq_true _).mp notFirst]
          refine ⟨gap ++ ',' :: gap', ⟨gap, gap', blank, blank', rfl⟩, ?_⟩
          rw [List.append_assoc, List.cons_append, ← same']
          exact same
      · cases step

theorem nextMember_eq_close {rest : Rest text}
    (step : nextMember care first text = .ok (.close rest)) :
    ∃ gap, BlankRun gap ∧ text = gap ++ '}' :: rest.1 := by
  obtain ⟨gap, blank, same⟩ := exists_gap text
  unfold nextMember at step
  split at step
  · cases step
  · rename_i closing _
    cases step
    rw [closing] at same
    exact ⟨gap, blank, same⟩
  · split at step
    · split at step
      · cases step
      · cases step
    · split at step
      · split at step
        · cases step
        · cases step
        · cases step
        · cases step
      · cases step

theorem nextMember_eq_part {start : Tail text}
    (step : nextMember care first text = .ok (.part start)) :
    ∃ gap, Separates first gap ∧ text = gap ++ '"' :: start.1 := by
  obtain ⟨gap, blank, same⟩ := exists_gap text
  unfold nextMember at step
  split at step
  · cases step
  · cases step
  · rename_i character later _ _ starts _
    rw [starts] at same
    split at step
    · rename_i isFirst
      split at step
      · rename_i quote
        cases step
        rw [quote] at same
        rw [isFirst]
        exact ⟨gap, blank, same⟩
      · cases step
    · rename_i notFirst
      split at step
      · rename_i comma
        subst comma
        obtain ⟨gap', blank', same'⟩ := exists_gap later
        split at step
        · cases step
        · rename_i quote _
          cases step
          rw [quote] at same'
          rw [(Bool.not_eq_true _).mp notFirst]
          refine ⟨gap ++ ',' :: gap', ⟨gap, gap', blank, blank', rfl⟩, ?_⟩
          rw [List.append_assoc, List.cons_append, ← same']
          exact same
        · cases step
        · cases step
      · cases step

end Steps

/-! ## Lists -/

/-- What holds of every part that has a value holds of all parts. -/
theorem forall_part {α : Type} {has : List Char → α → Prop}
    {right : List Char → Prop} {parts : List (List Char)} {values : List α}
    (all : List.Forall₂ has parts values)
    (each : ∀ {part value}, has part value → right part) :
    ∀ part ∈ parts, right part :=
  ((List.forall₂_and_left parts values).mp
    (all.imp fun _ _ now => ⟨each now, now⟩)).1

/-- The parts of a list are read one after the other. -/
theorem Lays.reads_elements {α : Type} {care : Care} {item : Reader α}
    {first : Bool} {parts : List (List Char)} {values : List α}
    {inner : List Char} (laid : Lays ']' first parts inner)
    (taken : List.Forall₂ (IsValueOf item) parts values) (rest : List Char) :
    Reads (elements care item first) (inner ++ rest) values rest := by
  induction laid generalizing values with
  | @close first gap blank =>
      cases taken
      obtain ⟨shorter, step⟩ := @nextElement_close care gap first blank rest
      rw [List.append_assoc, List.singleton_append, Reads, elements]
      simp only [step]
      exact gives_ok
  | @part first gap part later parts separates others ih =>
      cases taken with
      | cons value values =>
          obtain ⟨character, behind, starts, solid, notClose⟩ :=
            value.isValue.starts
          have reads := value.takes [] (later ++ rest) blankRun_nil
            (others.endsNumber (.inl rfl) rest)
          rw [List.append_assoc, List.append_assoc]
          exact Reads.elements_cons separates
            (by rw [starts, List.cons_append]) solid notClose reads (ih values)

/-- What is read as a list has parts, each of them read. -/
theorem Reads.elements_text {α : Type} {care : Care} {item : Reader α}
    (regular : Regular item) {first : Bool} {text : List Char}
    {values : List α} {rest : List Char}
    (reads : Reads (elements care item first) text values rest) :
    ∃ parts inner, Lays ']' first parts inner ∧
      List.Forall₂ (IsValueOf item) parts values ∧ text = inner ++ rest := by
  -- The parts are not known yet, so the induction is on the length of the text.
  induction length : text.length using Nat.strong_induction_on
    generalizing text first values with
  | _ size ih =>
      subst length
      rw [Reads, elements] at reads
      split at reads
      · exact absurd reads not_gives_error
      · rename_i left step
        obtain ⟨rfl, rfl⟩ := gives_ok_iff.mp reads
        obtain ⟨gap, blank, same⟩ := nextElement_eq_close step
        exact ⟨[], gap ++ [']'], .close blank, .nil, by simpa using same⟩
      · rename_i start within step
        split at reads
        · exact absurd reads not_gives_error
        · rename_i value later shorter taken
          rw [gives_widen_iff] at reads
          obtain ⟨others, left, rfl⟩ := gives_mapValue_iff.mp reads
          obtain ⟨gap, separates, same⟩ := nextElement_eq_part step
          obtain ⟨gap', written, blank, isValueOf, same'⟩ :=
            regular ⟨shorter, taken⟩
          obtain ⟨parts, inner, laid, all, same''⟩ := ih later.length
            (Nat.lt_of_lt_of_le shorter within) left rfl
          refine ⟨written :: parts, (gap ++ gap') ++ (written ++ inner),
            .part (separates.append blank) laid, .cons isValueOf all, ?_⟩
          simp only [same, same', same'', List.append_assoc]

/-! ## Objects -/

/-- A text is a member that a reader behind opening quotes takes as a given
result. -/
structure IsMemberOf {σ : Type} (reader : Reader σ) (member : MemberText)
    (result : σ) : Prop where
  isValid : member.IsValid
  takes : ∀ rest, EndsNumber rest →
    Reads reader (member.unquoted ++ rest) result rest

/-- Members take a state to another, one step for each member. -/
inductive Runs {σ : Type} (step : σ → MemberText → σ → Prop) :
    σ → List MemberText → σ → Prop
  | done (state : σ) : Runs step state [] state
  | next {state middle final : σ} {member : MemberText}
      {members : List MemberText} (now : step state member middle)
      (later : Runs step middle members final) :
      Runs step state (member :: members) final

section Objects

variable {σ : Type} {care : Care} {reader : σ → Reader σ}
variable {step : σ → MemberText → σ → Prop} {state final : σ} {first : Bool}

theorem Lays.nextMember_close {inner : List Char} (laid : Lays '}' first [] inner)
    (rest : List Char) :
    ∃ shorter, nextMember care first (inner ++ rest) =
      .ok (.close ⟨rest, shorter⟩) := by
  cases laid with
  | close blank =>
      rw [List.append_assoc, List.singleton_append]
      exact Json.nextMember_close blank rest

theorem Lays.nextMember_part {member : MemberText} {parts : List (List Char)}
    {inner : List Char} (laid : Lays '}' first (member.text :: parts) inner)
    (rest : List Char) :
    ∃ later, Lays '}' false parts later ∧
      ∃ shorter, nextMember care first (inner ++ rest) =
        .ok (.part ⟨member.unquoted ++ (later ++ rest), shorter⟩) := by
  cases laid with
  | part separates others =>
      refine ⟨_, others, ?_⟩
      rw [List.append_assoc, MemberText.text, List.cons_append,
        List.cons_append, List.append_assoc]
      exact Json.nextMember_part separates _

/-- The members of an object are read one after the other. -/
theorem Lays.reads_members {parts : List MemberText} {inner : List Char}
    (laid : Lays '}' first (parts.map MemberText.text) inner)
    (taken : ∀ {state member middle}, step state member middle →
      IsMemberOf (reader state) member middle)
    (runs : Runs step state parts final) (rest : List Char) :
    Reads (members care reader state first) (inner ++ rest) final rest := by
  induction runs generalizing first inner with
  | done state =>
      obtain ⟨shorter, answer⟩ := @Lays.nextMember_close care _ _ laid rest
      rw [Reads, members]
      simp only [answer]
      exact gives_ok
  | next now others ih =>
      obtain ⟨later, laid', shorter, answer⟩ :=
        @Lays.nextMember_part care _ _ _ _ laid rest
      obtain ⟨less, taken⟩ := (taken now).takes (later ++ rest)
        (laid'.endsNumber (.inr rfl) rest)
      rw [Reads, members]
      simp only [answer, taken, gives_widen_iff]
      exact ih laid'

/-- What is read as an object has members, each of them read. -/
theorem Reads.members_text {text rest : List Char}
    (regular : ∀ {state middle : σ} {text rest : List Char},
      Reads (reader state) text middle rest →
        ∃ member, step state member middle ∧ text = member.unquoted ++ rest)
    (reads : Reads (members care reader state first) text final rest) :
    ∃ parts inner, Lays '}' first (parts.map MemberText.text) inner ∧
      Runs step state parts final ∧ text = inner ++ rest := by
  -- As for lists, with the state behind each member for the value of a part.
  induction length : text.length using Nat.strong_induction_on
    generalizing text first state with
  | _ size ih =>
      subst length
      rw [Reads, members] at reads
      split at reads
      · exact absurd reads not_gives_error
      · rename_i left close
        obtain ⟨rfl, rfl⟩ := gives_ok_iff.mp reads
        obtain ⟨gap, blank, same⟩ := nextMember_eq_close close
        exact ⟨[], gap ++ ['}'], .close blank, .done _, by simpa using same⟩
      · rename_i start within part
        split at reads
        · exact absurd reads not_gives_error
        · rename_i middle later shorter taken
          rw [gives_widen_iff] at reads
          obtain ⟨gap, separates, same⟩ := nextMember_eq_part part
          obtain ⟨member, now, same'⟩ := regular ⟨shorter, taken⟩
          obtain ⟨parts, inner, laid, runs, same''⟩ := ih later.length
            (Nat.lt_of_lt_of_le shorter within) reads rfl
          refine ⟨member :: parts, gap ++ (member.text ++ inner),
            .part separates laid, .next now runs, ?_⟩
          simp only [same, same', same'', MemberText.text, List.append_assoc,
            List.cons_append]

end Objects

end Json

end WalletRows
