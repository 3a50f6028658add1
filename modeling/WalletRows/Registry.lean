/-!
# Registries

A registry gives texts values.  Its entries stand in ascending order of their
keys and no key stands twice, so two registries with the same values are equal.
-/

namespace WalletRows

namespace Entries

def get? {α : Type} (key : String) : List (String × α) → Option α
  | [] => none
  | (other, value) :: rest => if other = key then some value else get? key rest

/-- Give a key a value, in the place that the order asks for. -/
def insert {α : Type} (key : String) (value : α) :
    List (String × α) → List (String × α)
  | [] => [(key, value)]
  | (other, old) :: rest =>
      if key < other then (key, value) :: (other, old) :: rest
      else if key = other then (key, value) :: rest
      else (other, old) :: insert key value rest

/-- The keys stand in ascending order. -/
def Ascending {α : Type} (entries : List (String × α)) : Prop :=
  entries.Pairwise fun left right => left.1 < right.1

theorem mem_insert {α : Type} {key : String} {value : α}
    {entry : String × α} {entries : List (String × α)}
    (member : entry ∈ insert key value entries) :
    entry.1 = key ∨ entry ∈ entries := by
  induction entries with
  | nil =>
      simp only [insert, List.mem_singleton] at member
      exact .inl (by rw [member])
  | cons head rest ih =>
      obtain ⟨other, old⟩ := head
      simp only [insert] at member
      split at member
      · rcases List.mem_cons.mp member with first | later
        · exact .inl (by rw [first])
        · exact .inr later
      · split at member
        · rcases List.mem_cons.mp member with first | later
          · exact .inl (by rw [first])
          · exact .inr (List.mem_cons_of_mem _ later)
        · rcases List.mem_cons.mp member with first | later
          · exact .inr (by rw [first]; exact List.mem_cons_self)
          · rcases ih later with same | kept
            · exact .inl same
            · exact .inr (List.mem_cons_of_mem _ kept)

theorem ascending_insert {α : Type} (key : String) (value : α)
    {entries : List (String × α)} (ascending : Ascending entries) :
    Ascending (insert key value entries) := by
  induction entries with
  | nil => exact List.pairwise_singleton _ _
  | cons head rest ih =>
      obtain ⟨other, old⟩ := head
      obtain ⟨below, restAscending⟩ := List.pairwise_cons.mp ascending
      simp only [insert]
      split
      · rename_i before
        refine List.pairwise_cons.mpr ⟨?_, ascending⟩
        intro entry member
        rcases List.mem_cons.mp member with first | later
        · rw [first]
          exact before
        · exact String.lt_trans before (below entry later)
      · rename_i notBefore
        split
        · rename_i same
          refine List.pairwise_cons.mpr ⟨?_, restAscending⟩
          intro entry member
          rw [same]
          exact below entry member
        · rename_i different
          refine List.pairwise_cons.mpr ⟨?_, ih restAscending⟩
          intro entry member
          rcases mem_insert member with same | kept
          · rw [same]
            rcases Std.lt_trichotomy other key with less | equal | greater
            · exact less
            · exact absurd equal.symm different
            · exact absurd greater notBefore
          · exact below entry kept

end Entries

/-- Values of texts. -/
structure Registry (α : Type) where
  entries : List (String × α) := []
  ascending : Entries.Ascending entries := by exact List.Pairwise.nil
deriving DecidableEq

namespace Registry

def empty {α : Type} : Registry α := {}

def get? {α : Type} (registry : Registry α) (key : String) : Option α :=
  Entries.get? key registry.entries

def insert {α : Type} (registry : Registry α) (key : String) (value : α) :
    Registry α where
  entries := Entries.insert key value registry.entries
  ascending := Entries.ascending_insert key value registry.ascending

/-- Change the value of a key; a key without a value has `default` first. -/
def change {α : Type} (registry : Registry α) (key : String) (default : α)
    (update : α → α) : Registry α :=
  registry.insert key (update ((registry.get? key).getD default))

/-- The registry of a list of entries, of which a later one prevails. -/
def ofList {α : Type} (entries : List (String × α)) : Registry α :=
  entries.foldl (fun registry entry => registry.insert entry.1 entry.2) empty

end Registry

end WalletRows
