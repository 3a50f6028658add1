import Mathlib.Data.List.Nodup
import WalletRows.Row

/-!
# Lawful names

The values of a named type are listed once each, and a value is found by its
name.
-/

namespace WalletRows

/-- A type of named values whose list is complete and whose names differ. -/
class LawfulNamed (α : Type) [Named α] : Prop where
  mem_all : ∀ value : α, value ∈ (Named.all : List α)
  nodup_names : (Named.names α).Nodup

namespace LawfulNamed

variable {α : Type} [Named α] [LawfulNamed α]

theorem name_injective {first second : α}
    (same : Named.name first = Named.name second) : first = second :=
  List.inj_on_of_nodup_map nodup_names (mem_all first) (mem_all second) same

theorem nodup_all : (Named.all : List α).Nodup :=
  List.Nodup.of_map _ nodup_names

/-- A value is found by its name. -/
theorem ofName?_name (value : α) :
    Named.ofName? (Named.name value) = some value := by
  cases found : (Named.ofName? (Named.name value) : Option α) with
  | none =>
      have missing := List.find?_eq_none.mp found value (mem_all value)
      simp at missing
  | some other =>
      have same := List.find?_some found
      exact congrArg some (name_injective (by simpa using same))

end LawfulNamed

instance : LawfulNamed Asset where
  mem_all value := by cases value <;> decide
  nodup_names := by decide

instance : LawfulNamed Direction where
  mem_all value := by cases value <;> decide
  nodup_names := by decide

instance : LawfulNamed Purpose where
  mem_all value := by cases value <;> decide
  nodup_names := by decide

instance : LawfulNamed Filter where
  mem_all value := by cases value <;> decide
  nodup_names := by decide

instance : LawfulNamed Layout where
  mem_all value := by cases value <;> decide
  nodup_names := by decide

instance : LawfulNamed Phrase where
  mem_all value := by cases value <;> decide
  nodup_names := by decide

instance : LawfulNamed ColorRole where
  mem_all value := by cases value <;> decide
  nodup_names := by decide

end WalletRows
