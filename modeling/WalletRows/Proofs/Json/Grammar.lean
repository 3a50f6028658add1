import WalletRows.Proofs.Json.Spelling

/-!
# The grammar of JSON texts

Which texts are values is said without a reader: strings, numbers and literals
by their characters, lists and objects by the texts of their parts.  The parts
of a list or object are laid out in order, separated by commas among blank
characters, up to the closing bracket.
-/

namespace WalletRows

namespace Json

/-! ## Strings and numbers -/

def IsHexUnit (digits : List Char) : Prop :=
  digits.length = 4 ∧
    ∀ digit ∈ digits, (Decimal.digit? 16 digit).isSome = true

/-- A string behind its opening quote, up to and with the closing one. -/
inductive IsStringBody : List Char → Prop
  | quote : IsStringBody ['"']
  | plain {character : Char} {body : List Char} (solid : ¬ character < ' ')
      (notQuote : character ≠ '"') (notBackslash : character ≠ '\\')
      (later : IsStringBody body) : IsStringBody (character :: body)
  | letter {letter : Char} {body : List Char}
      (known : (escaped? letter).isSome = true) (later : IsStringBody body) :
      IsStringBody ('\\' :: letter :: body)
  | unit {digits body : List Char} (hex : IsHexUnit digits)
      (later : IsStringBody body) :
      IsStringBody ('\\' :: 'u' :: (digits ++ body))

/-- At least one digit, and nothing else. -/
def IsDigits (digits : List Char) : Prop :=
  digits ≠ [] ∧ ∀ digit ∈ digits, digit.isDigit = true

/-- The digits before the point start with a zero only if it stands alone. -/
def IsWhole (digits : List Char) : Prop :=
  digits = ['0'] ∨ IsDigits digits ∧ digits.head? ≠ some '0'

/-- A point with digits behind it, or nothing. -/
inductive IsFraction : List Char → List Char → Prop
  | none : IsFraction [] []
  | digits {digits : List Char} (filled : IsDigits digits) :
      IsFraction ('.' :: digits) digits

/-- The sign of an exponent, which may be left out. -/
inductive IsExponentSign : List Char → Bool → Prop
  | none : IsExponentSign [] false
  | plus : IsExponentSign ['+'] false
  | minus : IsExponentSign ['-'] true

inductive IsExponent : List Char → Option (Bool × List Char) → Prop
  | none : IsExponent [] none
  | some {mark : Char} {sign digits : List Char} {negative : Bool}
      (marked : mark = 'e' ∨ mark = 'E') (signed : IsExponentSign sign negative)
      (filled : IsDigits digits) :
      IsExponent (mark :: (sign ++ digits)) (some (negative, digits))

/-- A text is the text of a number literal behind its sign. -/
structure IsUnsigned (text : List Char) (literal : NumberLiteral) : Prop where
  parts : ∃ fraction exponent, IsFraction fraction literal.fraction ∧
    IsExponent exponent literal.exponent ∧
    text = literal.whole ++ (fraction ++ exponent)
  whole : IsWhole literal.whole

def IsLiteral (text : List Char) (literal : NumberLiteral) : Prop :=
  ∃ unsigned, IsUnsigned unsigned literal ∧
    text = if literal.negative then '-' :: unsigned else unsigned

/-! ## Lists and objects -/

/-- The texts of parts, each behind what separates it from the part before, up
to and with the closing bracket. -/
inductive Lays (closing : Char) : Bool → List (List Char) → List Char → Prop
  | close {first : Bool} {gap : List Char} (blank : BlankRun gap) :
      Lays closing first [] (gap ++ [closing])
  | part {first : Bool} {gap part later : List Char}
      {parts : List (List Char)} (separates : Separates first gap)
      (others : Lays closing false parts later) :
      Lays closing first (part :: parts) (gap ++ (part ++ later))

/-- The text of a member of an object, in its pieces. -/
structure MemberText where
  /-- The key behind its opening quote, with the closing one. -/
  key : List Char
  /-- The blank characters in front of the colon. -/
  before : List Char
  /-- The blank characters behind the colon. -/
  after : List Char
  value : List Char

namespace MemberText

/-- The member behind its opening quote. -/
def unquoted (member : MemberText) : List Char :=
  member.key ++ (member.before ++ ':' :: (member.after ++ member.value))

def text (member : MemberText) : List Char :=
  '"' :: member.unquoted

/-- A member has a key and a colon among blank characters. -/
structure IsKeyed (member : MemberText) : Prop where
  key : IsStringBody member.key
  before : BlankRun member.before
  after : BlankRun member.after

end MemberText

/-- The values that are written as a word. -/
def words : List (List Char) :=
  [['n', 'u', 'l', 'l'], ['t', 'r', 'u', 'e'], ['f', 'a', 'l', 's', 'e']]

inductive IsValue : List Char → Prop
  | word {text : List Char} (known : text ∈ words) : IsValue text
  | number {text : List Char} {literal : NumberLiteral}
      (written : IsLiteral text literal) : IsValue text
  | string {body : List Char} (quoted : IsStringBody body) :
      IsValue ('"' :: body)
  | list {parts : List (List Char)} {inner : List Char}
      (values : ∀ part ∈ parts, IsValue part)
      (laid : Lays ']' true parts inner) : IsValue ('[' :: inner)
  | object {members : List MemberText} {inner : List Char}
      (keyed : ∀ member ∈ members, member.IsKeyed)
      (values : ∀ member ∈ members, IsValue member.value)
      (laid : Lays '}' true (members.map MemberText.text) inner) :
      IsValue ('{' :: inner)

/-- A member with a key, a colon and a value. -/
structure MemberText.IsValid (member : MemberText) : Prop where
  keyed : member.IsKeyed
  value : IsValue member.value

/-- A whole text is an object with given members. -/
def LaysObject (members : List MemberText) (text : List Char) : Prop :=
  (∀ member ∈ members, member.IsValid) ∧
    ∃ before inner after, BlankRun before ∧ BlankRun after ∧
      Lays '}' true (members.map MemberText.text) inner ∧
      text = before ++ '{' :: (inner ++ after)

/-! ## How values start and what may follow them -/

theorem IsDigits.eq_cons {digits : List Char} (some : IsDigits digits) :
    ∃ first later, digits = first :: later ∧ first.isDigit = true := by
  obtain ⟨first, later, rfl⟩ := List.exists_cons_of_ne_nil some.1
  exact ⟨first, later, rfl, some.2 first List.mem_cons_self⟩

theorem IsWhole.isDigits {digits : List Char} (whole : IsWhole digits) :
    IsDigits digits := by
  rcases whole with zero | ⟨some, -⟩
  · subst zero
    exact ⟨by simp, by simp⟩
  · exact some

/-- A number starts with a minus sign or a digit. -/
theorem IsLiteral.starts {text : List Char} {literal : NumberLiteral}
    (written : IsLiteral text literal) :
    ∃ first later, text = first :: later ∧
      (first = '-' ∨ first.isDigit = true) := by
  obtain ⟨unsigned, ⟨⟨fraction, exponent, -, -, same⟩, whole⟩, rfl⟩ := written
  obtain ⟨first, later, leading, digit⟩ := whole.isDigits.eq_cons
  split
  · exact ⟨_, _, rfl, .inl rfl⟩
  · rw [same, leading, List.cons_append]
    exact ⟨_, _, rfl, .inr digit⟩

/-- A value starts with a character that is neither blank nor a closing
bracket. -/
theorem IsValue.starts {text : List Char} (isValue : IsValue text) :
    ∃ first later, text = first :: later ∧ isBlank first = false ∧
      first ≠ ']' := by
  cases isValue with
  | word known =>
      simp only [words, List.mem_cons, List.not_mem_nil, or_false] at known
      rcases known with rfl | rfl | rfl <;>
        exact ⟨_, _, rfl, by decide, by decide⟩
  | string _ | list _ _ | object _ _ _ =>
      exact ⟨_, _, rfl, by decide, by decide⟩
  | number written =>
      obtain ⟨first, later, same, starts⟩ := written.starts
      refine ⟨first, later, same, isBlank_of_signed starts, ?_⟩
      rintro rfl
      rcases starts with minus | digit <;> contradiction

theorem IsValue.skipBlank_append {text gap : List Char} (isValue : IsValue text)
    (blank : BlankRun gap) (rest : List Char) :
    skipBlank (gap ++ (text ++ rest)) = text ++ rest := by
  obtain ⟨first, later, rfl, solid, -⟩ := isValue.starts
  rw [Json.skipBlank_append blank, List.cons_append,
    skipBlank_of_not_isBlank solid]

/-- A number ends in front of the parts that follow it. -/
theorem Lays.endsNumber {closing : Char} {parts : List (List Char)}
    {text : List Char} (laid : Lays closing false parts text)
    (bracket : closing = ']' ∨ closing = '}') (rest : List Char) :
    EndsNumber (text ++ rest) := by
  cases laid with
  | close blank =>
      rw [List.append_assoc]
      apply Value.endsNumber_of_blankRun blank
      rcases bracket with rfl | rfl <;> simp [EndsNumber]
  | part separates _ =>
      obtain ⟨before, after, blank, -, rfl⟩ := separates
      simp only [List.append_assoc, List.cons_append]
      exact Value.endsNumber_of_blankRun blank (by simp [EndsNumber])

theorem Separates.append {first : Bool} {gap more : List Char}
    (separates : Separates first gap) (blank : BlankRun more) :
    Separates first (gap ++ more) := by
  have append {left right : List Char} (blank : BlankRun left)
      (blank' : BlankRun right) : BlankRun (left ++ right) := by
    intro character member
    rcases List.mem_append.mp member with front | back
    · exact blank character front
    · exact blank' character back
  cases first with
  | true => exact append separates blank
  | false =>
      obtain ⟨before, after, blank', blank'', rfl⟩ := separates
      refine ⟨before, after ++ more, blank', append blank'' blank, ?_⟩
      rw [List.append_assoc, List.cons_append]

end Json

end WalletRows
