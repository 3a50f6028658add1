import WalletRows.Proofs.FileTree.ReadWrite

/-!
# Directories that were made

Making the directories of a path ends with the directory of its last name,
which was there or is made.  In every tree with the same directories there is
nothing left to make: the same path is then made without a change.
-/

namespace WalletRows

namespace FileTree

variable {tree made : FileTree} {outer names : List String} {last : String}
variable {place : Place}

theorem enter_here_iff {inner : Place} :
    tree.enter place "." = .ok inner ↔
      tree.node? place = some .directory ∧ place = inner := by
  simp [enter_eq_ok_iff, step]

theorem resolveDirectory_eq_ok_iff :
    tree.resolveDirectory names = .ok place ↔
      tree.resolve names = .ok place ∧ tree.node? place = some .directory := by
  rw [resolveDirectory, bind_eq_ok_iff]
  constructor
  · rintro ⟨there, resolves, stays⟩
    obtain ⟨directory, rfl⟩ := enter_here_iff.mp stays
    exact ⟨resolves, directory⟩
  · rintro ⟨resolves, directory⟩
    exact ⟨place, resolves, enter_here_iff.mpr ⟨directory, rfl⟩⟩

theorem isDirectory_iff :
    tree.isDirectory names = true ↔
      ∃ place, tree.resolve names = .ok place ∧
        tree.node? place = some .directory := by
  simp only [← resolveDirectory_eq_ok_iff]
  rw [isDirectory]
  cases tree.resolveDirectory names <;> simp [Except.isOk, Except.toBool]

theorem resolve_concat_iff :
    tree.resolve (outer ++ [last]) = .ok place ↔
      ∃ directory, tree.resolve outer = .ok directory ∧
        tree.enter directory last = .ok place := by
  simp only [resolve, foldlM_enter_append_iff, foldlM_enter_cons_iff]
  constructor
  · rintro ⟨directory, follows, _, entered, ⟨⟩⟩
    exact ⟨directory, follows, entered⟩
  · rintro ⟨directory, follows, entered⟩
    exact ⟨directory, follows, place, entered, rfl⟩

/-- A directory is made at a place where nothing stands. -/
theorem makeDirectory_eq_ok_iff :
    tree.makeDirectory outer last = .ok made ↔
      last ≠ ".." ∧ ∃ place, tree.resolve (outer ++ [last]) = .ok place ∧
        tree.node? place = none ∧ made = tree.put place .directory := by
  simp only [resolve_concat_iff, makeDirectory, bind_eq_ok_iff,
    resolveDirectory_eq_ok_iff]
  constructor
  · rintro ⟨directory, ⟨resolves, -⟩, makes⟩
    split at makes
    · cases makes
    · rename_i proper
      obtain ⟨place, entered, makes⟩ := bind_eq_ok_iff.mp makes
      refine ⟨proper, place, ⟨directory, resolves, entered⟩, ?_⟩
      cases free : tree.node? place with
      | some node => simp [free] at makes
      | none => simpa [free, eq_comm] using makes
  · rintro ⟨proper, place, ⟨directory, resolves, entered⟩, free, rfl⟩
    refine ⟨directory, ⟨resolves, (enter_eq_ok_iff.mp entered).1⟩, ?_⟩
    rw [if_neg proper, bind_eq_ok_iff]
    exact ⟨place, entered, by simp [free]⟩

theorem isDirectory_of_makeDirectory
    (makes : tree.makeDirectory outer last = .ok made) :
    made.isDirectory (outer ++ [last]) = true := by
  obtain ⟨-, place, resolves, free, rfl⟩ := makeDirectory_eq_ok_iff.mp makes
  have inside : place ≠ [] := by
    rintro rfl
    simp [node?] at free
  have kept : ∀ there, tree.node? there = some .directory →
      (tree.put place .directory).node? there = some .directory := by
    intro there directory
    rw [node?_put tree inside]
    split
    · rfl
    · exact directory
  refine isDirectory_iff.mpr
    ⟨place, foldlM_enter_of_directories kept resolves, ?_⟩
  rw [node?_put tree inside, if_pos rfl]

theorem isDirectory_of_ensureDirectory
    (ensures : tree.ensureDirectory outer last = (made, .ok ())) :
    made.isDirectory (outer ++ [last]) = true := by
  rw [ensureDirectory] at ensures
  split at ensures
  · rename_i makes
    obtain ⟨rfl, -⟩ := Prod.mk.inj ensures
    exact isDirectory_of_makeDirectory makes
  · obtain ⟨rfl, found⟩ := Prod.mk.inj ensures
    by_contra missing
    simp [missing] at found

/-- A directory that exists is not made again. -/
theorem ensureDirectory_of_isDirectory
    (directory : tree.isDirectory (outer ++ [last]) = true) :
    tree.ensureDirectory outer last = (tree, .ok ()) := by
  rw [ensureDirectory]
  cases makes : tree.makeDirectory outer last with
  | error error => simp [directory]
  | ok made =>
      obtain ⟨-, place, resolves, free, -⟩ := makeDirectory_eq_ok_iff.mp makes
      obtain ⟨there, resolves', taken⟩ := isDirectory_iff.mp directory
      obtain rfl : place = there := Except.ok.inj (resolves.symm.trans resolves')
      rw [free] at taken
      cases taken

theorem isDirectory_of_makeInnermostFirst
    (makes : tree.makeInnermostFirst names = (made, .ok ())) :
    made.isDirectory names.reverse = true := by
  cases names with
  | nil => exact isDirectory_iff.mpr ⟨[], rfl, rfl⟩
  | cons last outer =>
      rw [List.reverse_cons]
      -- Whether or not the outer ones were made before, this one comes last.
      rw [makeInnermostFirst] at makes
      split at makes
      · split at makes
        · cases makes
        · exact isDirectory_of_ensureDirectory makes
      · exact isDirectory_of_ensureDirectory makes

theorem makeInnermostFirst_of_isDirectory
    (directory : tree.isDirectory names.reverse = true) :
    tree.makeInnermostFirst names = (tree, .ok ()) := by
  cases names with
  | nil => rfl
  | cons last outer =>
      rw [List.reverse_cons] at directory
      rw [makeInnermostFirst, ensureDirectory_of_isDirectory directory]

theorem SameDirectories.isDirectory {other : FileTree}
    (same : SameDirectories tree other)
    (directory : tree.isDirectory names = true) :
    other.isDirectory names = true := by
  obtain ⟨place, resolves, directory⟩ := isDirectory_iff.mp directory
  exact isDirectory_iff.mpr
    ⟨place, foldlM_enter_of_directories (fun place => (same place).mp) resolves,
      (same place).mp directory⟩

/-- Where the directories of a path were made, none is left to make. -/
theorem makeDirectories_again {other : FileTree} {path : String}
    (makes : tree.makeDirectories path = (made, .ok ()))
    (same : SameDirectories made other) :
    other.makeDirectories path = (other, .ok ()) := by
  rw [makeDirectories] at makes ⊢
  split at makes
  · cases makes
  · exact makeInnermostFirst_of_isDirectory
      (same.isDirectory (isDirectory_of_makeInnermostFirst makes))

end FileTree

end WalletRows
