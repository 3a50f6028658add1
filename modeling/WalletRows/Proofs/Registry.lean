import Mathlib.Data.List.Nodup
import WalletRows.Registry

/-!
# Registries of entries in any order

The registry of a list of entries keeps all of them if no key stands twice.  Its
entries have one possible order, so the order of the list is forgotten: every
order of the entries of a registry makes that registry again.  A registry is also
given by what it answers for each key, which is how changes of it are described.
-/

namespace WalletRows

namespace Entries

variable {α : Type}

/-- A value for a new key is added to the entries. -/
theorem insert_perm {key : String} (value : α) {entries : List (String × α)}
    (fresh : key ∉ entries.map Prod.fst) :
    (insert key value entries).Perm ((key, value) :: entries) := by
  induction entries with
  | nil => rfl
  | cons head rest ih =>
      obtain ⟨other, old⟩ := head
      rw [List.map_cons, List.mem_cons, not_or] at fresh
      obtain ⟨different, fresh⟩ := fresh
      rw [insert]
      split
      · rfl
      · have inserted := (ih fresh).cons (other, old)
        exact inserted.trans (List.Perm.swap _ _ _)

/-- Ascending entries have one order. -/
theorem Ascending.eq_of_perm {first second : List (String × α)}
    (ascending : Ascending first) (ascending' : Ascending second)
    (same : first.Perm second) : first = second := by
  refine same.eq_of_pairwise ?_ ascending ascending'
  intro left right _ _ less greater
  exact absurd greater (Std.not_lt.mpr (Std.le_of_lt less))

theorem Ascending.nodup_keys {entries : List (String × α)}
    (ascending : Ascending entries) : (entries.map Prod.fst).Nodup := by
  rw [List.Nodup, List.pairwise_map]
  refine ascending.imp ?_
  intro left right less same
  exact absurd (same ▸ less) (Std.lt_irrefl)

end Entries

namespace Entries

variable {α : Type}

theorem get?_insert (key other : String) (value : α)
    (entries : List (String × α)) :
    get? other (insert key value entries) =
      if key = other then some value else get? other entries := by
  induction entries with
  | nil => rfl
  | cons head rest ih =>
      obtain ⟨first, old⟩ := head
      simp only [insert]
      split
      · rfl
      · split
        · rename_i same
          subst same
          simp only [get?]
          split <;> rfl
        · rename_i different
          simp only [get?, ih]
          by_cases found : first = other
          · rw [if_pos found, if_pos found, if_neg (found ▸ different)]
          · rw [if_neg found, if_neg found]

theorem get?_map (change : String → α → α) (key : String)
    (entries : List (String × α)) :
    get? key (entries.map fun entry => (entry.1, change entry.1 entry.2)) =
      (get? key entries).map (change key) := by
  induction entries with
  | nil => rfl
  | cons head rest ih =>
      obtain ⟨first, value⟩ := head
      rw [List.map_cons, get?, get?, ih]
      split
      · rename_i same
        rw [same, Option.map_some]
      · rfl

theorem mem_of_get?_eq_some {key : String} {value : α}
    {entries : List (String × α)} (found : get? key entries = some value) :
    (key, value) ∈ entries := by
  induction entries with
  | nil => cases found
  | cons head rest ih =>
      obtain ⟨first, old⟩ := head
      rw [get?] at found
      split at found
      · rename_i same
        cases found
        cases same
        exact List.mem_cons_self
      · exact List.mem_cons_of_mem _ (ih found)

theorem Ascending.get?_of_mem {key : String} {value : α}
    {entries : List (String × α)} (ascending : Ascending entries)
    (member : (key, value) ∈ entries) : get? key entries = some value := by
  induction entries with
  | nil => cases member
  | cons head rest ih =>
      obtain ⟨below, restAscending⟩ := List.pairwise_cons.mp ascending
      rcases List.mem_cons.mp member with first | later
      · cases first
        exact if_pos rfl
      · have different : head.1 ≠ key := by
          intro same
          exact absurd (same ▸ below _ later) Std.lt_irrefl
        rw [get?, if_neg different]
        exact ih restAscending later

/-- Ascending entries that answer alike for every key are the same. -/
theorem Ascending.eq_of_get?_eq {first second : List (String × α)}
    (ascending : Ascending first) (ascending' : Ascending second)
    (alike : ∀ key, get? key first = get? key second) : first = second := by
  apply ascending.eq_of_perm ascending'
  apply (List.perm_ext_iff_of_nodup ascending.nodup_keys.of_map
    ascending'.nodup_keys.of_map).mpr
  rintro ⟨key, value⟩
  constructor
  · intro member
    apply mem_of_get?_eq_some
    rw [← alike]
    exact ascending.get?_of_mem member
  · intro member
    apply mem_of_get?_eq_some
    rw [alike]
    exact ascending'.get?_of_mem member

end Entries

namespace Registry

variable {α : Type}

@[simp]
theorem get?_insert (registry : Registry α) (key other : String) (value : α) :
    (registry.insert key value).get? other =
      if key = other then some value else registry.get? other :=
  Entries.get?_insert key other value registry.entries

@[simp]
theorem get?_change (registry : Registry α) (key other : String) (default : α)
    (update : α → α) :
    (registry.change key default update).get? other =
      if key = other then some (update ((registry.get? other).getD default))
      else registry.get? other := by
  rw [change, get?_insert]
  split
  · rename_i same
    rw [same]
  · rfl

/-- Change every value, each by its key. -/
def map (registry : Registry α) (change : String → α → α) : Registry α where
  entries := registry.entries.map fun entry => (entry.1, change entry.1 entry.2)
  ascending := by
    rw [Entries.Ascending, List.pairwise_map]
    exact registry.ascending

@[simp]
theorem get?_map (registry : Registry α) (change : String → α → α)
    (key : String) :
    (registry.map change).get? key = (registry.get? key).map (change key) :=
  Entries.get?_map change key registry.entries

theorem eq_of_entries_eq {first second : Registry α}
    (same : first.entries = second.entries) : first = second := by
  cases first
  cases second
  cases same
  rfl

@[ext]
theorem ext_get? {first second : Registry α}
    (alike : ∀ key, first.get? key = second.get? key) : first = second := by
  apply eq_of_entries_eq
  exact first.ascending.eq_of_get?_eq second.ascending alike

theorem get?_foldl_of_not_mem {key : String} {entries : List (String × α)}
    (absent : ∀ entry ∈ entries, entry.1 ≠ key) (registry : Registry α) :
    (entries.foldl (fun registry entry => registry.insert entry.1 entry.2)
      registry).get? key = registry.get? key := by
  induction entries generalizing registry with
  | nil => rfl
  | cons head rest ih =>
      rw [List.forall_mem_cons] at absent
      rw [List.foldl_cons, ih absent.2, get?_insert, if_neg absent.1]

/-- The entry given last for a key prevails. -/
theorem get?_ofList_of_last {key : String} {after : List (String × α)}
    (last : ∀ entry ∈ after, entry.1 ≠ key) (before : List (String × α))
    (value : α) :
    (ofList (before ++ (key, value) :: after)).get? key = some value := by
  rw [ofList, List.foldl_append, List.foldl_cons, get?_foldl_of_not_mem last,
    get?_insert, if_pos rfl]

/-- Entries with new keys are added to a registry. -/
theorem entries_foldl_perm {entries : List (String × α)} {registry : Registry α}
    (distinct : (entries.map Prod.fst).Nodup)
    (fresh : ∀ entry ∈ entries, entry.1 ∉ registry.entries.map Prod.fst) :
    (entries.foldl (fun registry entry => registry.insert entry.1 entry.2)
      registry).entries.Perm (entries ++ registry.entries) := by
  induction entries generalizing registry with
  | nil => rfl
  | cons head rest ih =>
      rw [List.map_cons, List.nodup_cons] at distinct
      have added : (registry.insert head.1 head.2).entries.Perm
          (head :: registry.entries) :=
        Entries.insert_perm head.2 (fresh head List.mem_cons_self)
      -- The key that was just added is none of the later ones.
      have later : ∀ entry ∈ rest,
          entry.1 ∉ (registry.insert head.1 head.2).entries.map Prod.fst := by
        intro entry member repeated
        rcases List.mem_cons.mp ((added.map Prod.fst).mem_iff.mp repeated)
          with same | old
        · exact distinct.1 (same ▸ List.mem_map_of_mem member)
        · exact fresh entry (List.mem_cons_of_mem _ member) old
      have others := ih distinct.2 later
      exact others.trans ((added.append_left rest).trans List.perm_middle)

/-- A registry is made again from its entries in any order. -/
theorem ofList_eq_of_perm {entries : List (String × α)} {registry : Registry α}
    (same : entries.Perm registry.entries) : ofList entries = registry := by
  have distinct : (entries.map Prod.fst).Nodup :=
    (same.map Prod.fst).nodup_iff.mpr registry.ascending.nodup_keys
  have kept : (ofList entries).entries.Perm (entries ++ []) :=
    entries_foldl_perm distinct (by simp [empty])
  rw [List.append_nil] at kept
  exact eq_of_entries_eq ((ofList entries).ascending.eq_of_perm
    registry.ascending (kept.trans same))

end Registry

end WalletRows
