/-!
# Ranges of characters

A property of characters is a table of ranges of code points in ascending
order.
-/

namespace WalletRows

/-- A property of characters as a table of ranges, both ends included. -/
structure CharacterTable where
  /-- The least and greatest code point of each range, in ascending order. -/
  ranges : List (Nat × Nat)

namespace CharacterTable

/-- Whether a code point lies in one of the ranges.  They ascend, so the search
ends at a range that starts behind it. -/
def covers (code : Nat) : List (Nat × Nat) → Bool
  | [] => false
  | (first, last) :: rest =>
      if code < first then false else code ≤ last || covers code rest

def contains (table : CharacterTable) (character : Char) : Bool :=
  covers character.toNat table.ranges

end CharacterTable

end WalletRows
