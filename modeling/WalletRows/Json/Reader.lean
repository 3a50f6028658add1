import WalletRows.Json.Error

/-!
# Readers of JSON text

A reader takes what is left of a text and either refuses it or returns a value
together with the part of the text behind it.  Every value has at least one
character, so what is left is always shorter than what was given; readers of
lists and objects recurse on that.
-/

namespace WalletRows

namespace Json

/-- What is left of a text after something was read from its front. -/
abbrev Rest (text : List Char) :=
  { rest : List Char // rest.length < text.length }

/-- What is left of a text after something, or nothing, was read. -/
abbrev Tail (text : List Char) :=
  { rest : List Char // rest.length ≤ text.length }

abbrev Reader (α : Type) :=
  (text : List Char) → Except Error (α × Rest text)

/-- What is left of a tail is left of the whole. -/
def Rest.widen {inner outer : List Char} (within : inner.length ≤ outer.length)
    (rest : Rest inner) : Rest outer :=
  ⟨rest.1, Nat.lt_of_lt_of_le rest.2 within⟩

/-- The answer of a reader of the tail of a text as an answer for the text. -/
def widen {α : Type} {inner outer : List Char}
    (within : inner.length ≤ outer.length) :
    Except Error (α × Rest inner) → Except Error (α × Rest outer)
  | .error error => .error error
  | .ok (value, rest) => .ok (value, rest.widen within)

/-- Nothing was read of a text yet. -/
def Tail.all (text : List Char) : Tail text :=
  ⟨text, Nat.le_refl _⟩

/-- What is left behind the first character of a text. -/
def Rest.behind (first : Char) (rest : List Char) : Rest (first :: rest) :=
  ⟨rest, Nat.lt_succ_self _⟩

/-- What is left behind the first character is left of the whole text. -/
def Tail.behind (first : Char) {rest : List Char} (tail : Tail rest) :
    Tail (first :: rest) :=
  ⟨tail.1, Nat.le_succ_of_le tail.2⟩

/-- The answer of a reader behind the first character of a text as an answer for
the text. -/
def behind {α : Type} {first : Char} {rest : List Char}
    (answer : Except Error (α × Rest rest)) :
    Except Error (α × Rest (first :: rest)) :=
  widen (Nat.le_succ _) answer

/-- Read on from where a reader stopped. -/
def andThen {α β : Type} {text : List Char}
    (answer : Except Error (α × Rest text)) (next : α → Reader β) :
    Except Error (β × Rest text) :=
  match answer with
  | .error error => .error error
  | .ok (value, rest) => widen (Nat.le_of_lt rest.2) (next value rest.1)

def mapValue {α β : Type} {text : List Char} (function : α → β) :
    Except Error (α × Rest text) → Except Error (β × Rest text)
  | .error error => .error error
  | .ok (value, rest) => .ok (function value, rest)

/-- Apply a function that may refuse the value that was read. -/
def checkValue {α β : Type} {text : List Char} (function : α → Except Error β) :
    Except Error (α × Rest text) → Except Error (β × Rest text)
  | .error error => .error error
  | .ok (value, rest) =>
      match function value with
      | .error error => .error error
      | .ok result => .ok (result, rest)

/-- The characters that may stand between the parts of a text. -/
def isBlank (character : Char) : Bool :=
  character = ' ' || character = '\n' || character = '\t' || character = '\r'

def skipBlank : List Char → List Char
  | [] => []
  | character :: rest =>
      if isBlank character then skipBlank rest else character :: rest

theorem length_skipBlank_le (text : List Char) :
    (skipBlank text).length ≤ text.length := by
  induction text with
  | nil => simp [skipBlank]
  | cons character rest ih =>
      by_cases blank : isBlank character
      · simp [skipBlank, blank]
        omega
      · simp [skipBlank, blank]

/-- Read a value that blank characters may precede. -/
def afterBlank {α : Type} (reader : Reader α) : Reader α :=
  fun text => widen (length_skipBlank_le text) (reader (skipBlank text))

/-- Read the letters that complete a literal. -/
def literal (text : List Char) : List Char → Except Error (Tail text)
  | [] => .ok (.all text)
  | letter :: letters =>
      match text with
      | [] => .error (.unfinished .value)
      | character :: rest =>
          if character = letter then
            match literal rest letters with
            | .error error => .error error
            | .ok final => .ok (final.behind character)
          else
            .error (.malformed .expectedLiteral)

/-- Read a literal with a value behind its first letter. -/
def keyword {α : Type} {first : Char} (letters : List Char) (value : α)
    (text : List Char) : Except Error (α × Rest (first :: text)) :=
  match literal text letters with
  | .error error => .error error
  | .ok ⟨final, within⟩ => .ok (value, ⟨final, Nat.lt_succ_of_le within⟩)

end Json

end WalletRows
