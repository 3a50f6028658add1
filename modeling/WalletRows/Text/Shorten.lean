/-!
# Shortened text

A text that is too long for its place is cut and ends in three dots.  Lengths
count characters, so a cut never splits one.
-/

namespace WalletRows

def ellipsis : List Char := ['.', '.', '.']

/-- The number of characters that stay when a text is cut to `limit`.  The dots
count as part of the limit only where they leave room for something else. -/
def keptLength (limit : Nat) : Nat :=
  if 3 < limit then limit - 3 else limit

/-- Cut a text that has more than `limit` characters. -/
def shorten (limit : Nat) (text : List Char) : List Char :=
  if text.length ≤ limit then
    text
  else
    text.take (keptLength limit) ++ ellipsis

end WalletRows
