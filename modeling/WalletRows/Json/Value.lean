import WalletRows.Json.Text
import WalletRows.Named

/-!
# Writing of JSON text

A value to be written is a tree.  It has a compact form without blank
characters, and an indented form with one element or member on each line.
-/

namespace WalletRows

namespace Json

inductive Value where
  | null
  | boolean (value : Bool)
  | integer (value : Int)
  | string (value : String)
  | list (elements : List Value)
  | object (members : List (String × Value))

namespace Value

def ofOption {α : Type} (toValue : α → Value) : Option α → Value
  | none => .null
  | some value => toValue value

/-- A choice is written as its name. -/
def ofNamed {α : Type} [Named α] (value : α) : Value :=
  .string (Named.name value)

/-- The text of a value that has no parts. -/
def scalar : Value → List Char
  | .null => ['n', 'u', 'l', 'l']
  | .boolean true => ['t', 'r', 'u', 'e']
  | .boolean false => ['f', 'a', 'l', 's', 'e']
  | .integer value => Decimal.signed value
  | .string value => writtenString value.toList
  | .list _ => ['[', ']']
  | .object _ => ['{', '}']

mutual

/-- The text of a value without blank characters. -/
def compact : Value → List Char
  | .list elements => '[' :: compactElements true elements ++ [']']
  | .object members => '{' :: compactMembers true members ++ ['}']
  | value => value.scalar

/-- The elements of a list, each but the first behind a comma. -/
def compactElements : Bool → List Value → List Char
  | _, [] => []
  | first, element :: rest =>
      (if first then [] else [',']) ++ compact element ++
        compactElements false rest

/-- The members of an object, each but the first behind a comma. -/
def compactMembers : Bool → List (String × Value) → List Char
  | _, [] => []
  | first, (key, value) :: rest =>
      (if first then [] else [',']) ++ writtenString key.toList ++ ':' ::
        compact value ++ compactMembers false rest

end

/-- A line end and the blanks that start a line at a depth. -/
def newLine (depth : Nat) : List Char :=
  '\n' :: List.replicate (2 * depth) ' '

mutual

/-- The text of a value with its parts on lines of their own, one step deeper
than the value. -/
def indented (depth : Nat) : Value → List Char
  | .list (element :: rest) =>
      '[' :: indentedElements (depth + 1) true (element :: rest) ++
        newLine depth ++ [']']
  | .object (member :: rest) =>
      '{' :: indentedMembers (depth + 1) true (member :: rest) ++
        newLine depth ++ ['}']
  | value => value.scalar

/-- The elements of a list, each on its line. -/
def indentedElements (depth : Nat) : Bool → List Value → List Char
  | _, [] => []
  | first, element :: rest =>
      (if first then [] else [',']) ++ newLine depth ++
        indented depth element ++ indentedElements depth false rest

/-- The members of an object, each on its line. -/
def indentedMembers (depth : Nat) : Bool → List (String × Value) → List Char
  | _, [] => []
  | first, (key, value) :: rest =>
      (if first then [] else [',']) ++ newLine depth ++
        writtenString key.toList ++ ':' :: ' ' ::
        indented depth value ++ indentedMembers depth false rest

end

/-- The indented text of a whole value. -/
def pretty (value : Value) : String :=
  .ofList (value.indented 0)

end Value

end Json

end WalletRows
