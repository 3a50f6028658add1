import WalletRows.Text.Combining
import WalletRows.Text.Unprintable

/-!
# Quoted text

Messages show a text between double quotes.  Inside, a quote and a backslash
follow a backslash, the usual control characters have a letter, and every other
character that would not be seen on its own is shown by its code point.
-/

namespace WalletRows

/-- The letter or sign that stands behind a backslash for a character. -/
def quotedLetter? : Char → Option Char
  | '\x00' => some '0'
  | '\t' => some 't'
  | '\n' => some 'n'
  | '\r' => some 'r'
  | '"' => some '"'
  | '\\' => some '\\'
  | _ => none

/-- Whether a character stands inside a quoted text as it is.  Combining
characters do not, but for the two Japanese sound marks that have a place of
their own. -/
def isShown (character : Char) : Bool :=
  !unprintableCharacters.contains character &&
    (!combiningCharacters.contains character ||
      character = '\uff9e' || character = '\uff9f')

def quotedCharacter (character : Char) : List Char :=
  match quotedLetter? character with
  | some letter => ['\\', letter]
  | none =>
      if isShown character then [character]
      else ['\\', 'u', '{'] ++ Nat.toDigits 16 character.toNat ++ ['}']

/-- A text between double quotes. -/
def quoted (text : List Char) : List Char :=
  '"' :: text.flatMap quotedCharacter ++ ['"']

end WalletRows
