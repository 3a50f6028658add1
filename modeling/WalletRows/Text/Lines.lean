/-!
# Lines of a text

A line ends at a newline, or at a carriage return followed by one.  A text that
ends with a line end has no empty last line.
-/

namespace WalletRows

/-- Split a text at its newlines; the last piece stays even if it is empty. -/
def splitNewlines : List Char → List (List Char)
  | [] => [[]]
  | '\n' :: rest => [] :: splitNewlines rest
  | character :: rest =>
      match splitNewlines rest with
      | [] => [[character]]
      | line :: lines => (character :: line) :: lines

/-- Remove a carriage return from the end of a line. -/
def dropReturn (line : List Char) : List Char :=
  if line.getLast? = some '\r' then line.dropLast else line

/-- The lines of a text.  Only a piece that a newline ended loses its carriage
return. -/
def textLines (text : List Char) : List (List Char) :=
  let pieces := splitNewlines text
  let ended := pieces.dropLast.map dropReturn
  match pieces.getLast? with
  | none | some [] => ended
  | some last => ended ++ [last]

end WalletRows
