import WalletRows.Json.Decode

/-!
# What readers take off a text

The answer of a reader holds a value, what is left of the text, and a proof that
it is less than before.  `Gives` states an answer without that proof, and `Reads`
says what a reader takes off a text; the text of `Reads` may be rewritten.  Every
way to put answers together has one equivalence here, which says what the whole
gives in terms of what its parts give.
-/

namespace WalletRows

namespace Json

/-- A reader answers with a value and leaves a rest. -/
def Gives {α : Type} {text : List Char}
    (answer : Except Error (α × Rest text)) (value : α) (rest : List Char) :
    Prop :=
  ∃ shorter, answer = .ok (value, ⟨rest, shorter⟩)

/-- A reader takes a value off a text and leaves a rest. -/
def Reads {α : Type} (reader : Reader α) (text : List Char) (value : α)
    (rest : List Char) : Prop :=
  Gives (reader text) value rest

section Combinators

variable {α β : Type} {text : List Char} {value : α} {result : β}
variable {rest : List Char}

theorem gives_ok {left : Rest text} :
    Gives (.ok (value, left)) value left.1 :=
  ⟨left.2, rfl⟩

@[simp]
theorem not_gives_error {error : Error} :
    ¬ @Gives α text (.error error) value rest := by
  rintro ⟨shorter, impossible⟩
  cases impossible

@[simp]
theorem gives_ok_iff {found : α} {left : Rest text} :
    Gives (.ok (found, left)) value rest ↔ found = value ∧ left.1 = rest := by
  constructor
  · rintro ⟨shorter, same⟩
    cases same
    exact ⟨rfl, rfl⟩
  · rintro ⟨rfl, rfl⟩
    exact gives_ok

@[simp]
theorem gives_widen_iff {inner outer : List Char}
    {within : inner.length ≤ outer.length}
    {answer : Except Error (α × Rest inner)} :
    Gives (widen within answer) value rest ↔ Gives answer value rest := by
  cases answer with
  | error error => simp [widen]
  | ok found =>
      obtain ⟨found, left⟩ := found
      simp [widen, Rest.widen]

@[simp]
theorem gives_behind_iff {first : Char} {later : List Char}
    {answer : Except Error (α × Rest later)} :
    Gives (@behind α first later answer) value rest ↔
      Gives answer value rest :=
  gives_widen_iff

theorem reads_afterBlank_iff {reader : Reader α} :
    Reads (afterBlank reader) text value rest ↔
      Reads reader (skipBlank text) value rest :=
  gives_widen_iff

theorem gives_mapValue_iff {function : α → β}
    {answer : Except Error (α × Rest text)} :
    Gives (mapValue function answer) result rest ↔
      ∃ value, Gives answer value rest ∧ function value = result := by
  cases answer with
  | error error => simp [mapValue]
  | ok found =>
      obtain ⟨found, left⟩ := found
      simp only [mapValue, gives_ok_iff]
      constructor
      · rintro ⟨changed, same⟩
        exact ⟨found, ⟨rfl, same⟩, changed⟩
      · rintro ⟨_, ⟨rfl, same⟩, changed⟩
        exact ⟨changed, same⟩

theorem gives_checkValue_iff {function : α → Except Error β}
    {answer : Except Error (α × Rest text)} :
    Gives (checkValue function answer) result rest ↔
      ∃ value, Gives answer value rest ∧ function value = .ok result := by
  cases answer with
  | error error => simp [checkValue]
  | ok found =>
      obtain ⟨found, left⟩ := found
      simp only [checkValue, gives_ok_iff]
      cases checked : function found with
      | error error =>
          simp only [not_gives_error, false_iff]
          rintro ⟨_, ⟨rfl, _⟩, accepted⟩
          rw [checked] at accepted
          cases accepted
      | ok changed =>
          simp only [gives_ok_iff]
          constructor
          · rintro ⟨rfl, same⟩
            exact ⟨found, ⟨rfl, same⟩, checked⟩
          · rintro ⟨_, ⟨rfl, same⟩, accepted⟩
            rw [checked] at accepted
            exact ⟨Except.ok.inj accepted, same⟩

theorem gives_andThen_iff {answer : Except Error (α × Rest text)}
    {next : α → Reader β} :
    Gives (andThen answer next) result rest ↔
      ∃ value middle, Gives answer value middle ∧
        Gives (next value middle) result rest := by
  cases answer with
  | error error => simp [andThen]
  | ok found =>
      obtain ⟨found, left⟩ := found
      simp only [andThen, gives_widen_iff, gives_ok_iff]
      constructor
      · intro later
        exact ⟨found, left.1, ⟨rfl, rfl⟩, later⟩
      · rintro ⟨_, _, ⟨rfl, rfl⟩, later⟩
        exact later

theorem Gives.mapValue {answer : Except Error (α × Rest text)}
    (gives : Gives answer value rest) (function : α → β) :
    Gives (mapValue function answer) (function value) rest :=
  gives_mapValue_iff.mpr ⟨value, gives, rfl⟩

theorem Gives.checkValue {answer : Except Error (α × Rest text)}
    (gives : Gives answer value rest) {function : α → Except Error β}
    (accepted : function value = .ok result) :
    Gives (checkValue function answer) result rest :=
  gives_checkValue_iff.mpr ⟨value, gives, accepted⟩

theorem Gives.andThen {answer : Except Error (α × Rest text)}
    {middle : List Char} (first : Gives answer value middle)
    {next : α → Reader β} (second : Gives (next value middle) result rest) :
    Gives (andThen answer next) result rest :=
  gives_andThen_iff.mpr ⟨value, middle, first, second⟩

end Combinators

section Blanks

/-- A text of blank characters only. -/
def BlankRun (gap : List Char) : Prop :=
  ∀ character ∈ gap, isBlank character = true

theorem blankRun_nil : BlankRun [] := by
  simp [BlankRun]

theorem skipBlank_append {gap : List Char} (blank : BlankRun gap)
    (text : List Char) : skipBlank (gap ++ text) = skipBlank text := by
  induction gap with
  | nil => rfl
  | cons character gap ih =>
      rw [List.cons_append, skipBlank, if_pos (blank character (by simp))]
      exact ih fun later member => blank later (by simp [member])

theorem skipBlank_of_not_isBlank {character : Char}
    (solid : isBlank character = false) (rest : List Char) :
    skipBlank (character :: rest) = character :: rest := by
  simp [skipBlank, solid]

theorem Reads.behindBlanks {α : Type} {reader : Reader α} {text : List Char}
    {value : α} {rest : List Char} {gap : List Char}
    (reads : Reads (afterBlank reader) text value rest)
    (blank : BlankRun gap) :
    Reads (afterBlank reader) (gap ++ text) value rest := by
  rw [reads_afterBlank_iff, skipBlank_append blank]
  exact reads_afterBlank_iff.mp reads

end Blanks

/-- A literal is read off a text that goes on with its letters. -/
theorem literal_append (letters rest : List Char) :
    ∃ within, literal (letters ++ rest) letters = .ok ⟨rest, within⟩ := by
  induction letters with
  | nil => exact ⟨by simp, by simp [literal, Tail.all]⟩
  | cons letter letters ih =>
      obtain ⟨within, final⟩ := ih
      exact ⟨by simp; omega, by simp [literal, final, Tail.behind]⟩

theorem gives_keyword {α : Type} {first : Char} (letters : List Char)
    (value : α) (rest : List Char) :
    Gives (@keyword α first letters value (letters ++ rest)) value rest := by
  obtain ⟨within, final⟩ := literal_append letters rest
  exact ⟨Nat.lt_succ_of_le within, by simp only [keyword, final]⟩

/-- A whole text is decoded if its reader leaves only blank characters. -/
theorem decode_of_reads {α : Type} {reader : Reader α} {text : String}
    {value : α} {rest : List Char}
    (reads : Reads reader text.toList value rest)
    (ended : skipBlank rest = []) : decode reader text = .ok value := by
  obtain ⟨shorter, answer⟩ := reads
  simp only [decode, answer, ended]

end Json

end WalletRows
