/-!
# Named choices

A choice among finitely many values is stored by name.  The names are also
listed in messages, in the order of the values.
-/

namespace WalletRows

/-- A type of finitely many values, each with a name of its own. -/
class Named (α : Type) where
  /-- The values in their listed order. -/
  all : List α
  name : α → String

namespace Named

def ofName? {α : Type} [Named α] (name : String) : Option α :=
  (all : List α).find? fun value => Named.name value = name

/-- The names in their listed order. -/
def names (α : Type) [Named α] : List String :=
  (all : List α).map Named.name

end Named

end WalletRows
