import WalletRows.Text.Decimal

/-!
# Templates

A template is a text with numbered holes such as `{0}`.  It is read once from
front to back, and each hole is filled with its argument as it stands.  A brace
that opens no hole is ordinary text.  A template can also be cut into pieces and
holes, which depends on the template and on the number of arguments alone.
-/

namespace WalletRows

inductive Segment where
  /-- Text that is kept. -/
  | piece (text : List Char)
  /-- A place for the argument with a number; `source` stands there between
  the braces. -/
  | hole (index : Nat) (source : List Char)
deriving DecidableEq

namespace Template

/-- The hole at the front of the text behind an opening brace: its number, what
stands between the braces, and the text behind it.  The number is a numeral
below the number of arguments. -/
def hole? (count : Nat) (text : List Char) :
    Option (Nat × List Char × List Char) :=
  let source := text.takeWhile (· ≠ '}')
  match text.dropWhile (· ≠ '}'), Decimal.read 10 Decimal.maxUInt64 source with
  | _ :: rest, .ok index =>
      if index < count then some (index, source, rest) else none
  | _, _ => none

theorem length_of_hole? {count : Nat} {text : List Char} {index : Nat}
    {source rest : List Char}
    (found : hole? count text = some (index, source, rest)) :
    rest.length < text.length := by
  have shorter : (text.dropWhile (· ≠ '}')).length ≤ text.length :=
    (List.dropWhile_suffix _).length_le
  unfold hole? at found
  simp only at found
  split at found
  · rename_i brace rest' index' split _
    split at found
    · simp only [Option.some.injEq, Prod.mk.injEq] at found
      rw [split] at shorter
      simp only [List.length_cons] at shorter
      rw [← found.2.2]
      omega
    · simp at found
  · simp at found

/-- Fill the holes of a template.  Reading goes on behind a hole, and right
behind a brace that opens none. -/
def fill (template : List Char) (arguments : List (List Char)) : List Char :=
  match template with
  | [] => []
  | character :: rest =>
      if character = '{' then
        match _found : hole? arguments.length rest with
        | some (index, _, later) =>
            arguments.getD index [] ++ fill later arguments
        | none => character :: fill rest arguments
      else
        character :: fill rest arguments
termination_by template.length
decreasing_by
  · have := length_of_hole? _found
    simp
    omega
  · simp
  · simp

/-- Put a character before the parts, into the piece at their front if there is
one. -/
def cons (character : Char) : List Segment → List Segment
  | .piece text :: rest => .piece (character :: text) :: rest
  | segments => .piece [character] :: segments

def segments (count : Nat) : List Char → List Segment
  | [] => []
  | character :: rest =>
      if character = '{' then
        match _found : hole? count rest with
        | some (index, source, later) =>
            .hole index source :: segments count later
        | none => cons character (segments count rest)
      else
        cons character (segments count rest)
termination_by text => text.length
decreasing_by
  · have := length_of_hole? _found
    simp
    omega
  · simp
  · simp

/-- The text of a part when its hole is filled. -/
def Segment.fill (arguments : List (List Char)) : Segment → List Char
  | .piece text => text
  | .hole index _ => arguments.getD index []

/-- The text of a part as it stands in the template. -/
def Segment.written : Segment → List Char
  | .piece text => text
  | .hole _ source => '{' :: source ++ ['}']

end Template

end WalletRows
