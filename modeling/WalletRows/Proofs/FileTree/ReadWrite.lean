import Mathlib.Data.List.Basic
import WalletRows.FileTree

/-!
# Reading what was written

A path leads to a place if its names can be followed to it.  Where a path leads
depends on the directories of a tree only, and writing a text file changes none.
So a written text is read back along every path that leads to the same place,
and what stands at other places is read as before.
-/

namespace WalletRows

/-- A chain of answers succeeds if its first does and the rest goes on. -/
theorem bind_eq_ok_iff {ε α β : Type} {answer : Except ε α}
    {next : α → Except ε β} {result : β} :
    answer >>= next = .ok result ↔
      ∃ value, answer = .ok value ∧ next value = .ok result := by
  cases answer with
  | error error => simp [bind, Except.bind]
  | ok value => simp [bind, Except.bind]

namespace FileTree

variable {tree written : FileTree} {place inner : Place} {path : String}

/-! ## Steps and where they lead -/

theorem node?_put (tree : FileTree) {place : Place} (inside : place ≠ [])
    (node : Node) (other : Place) :
    (tree.put place node).node? other =
      if other = place then some node else tree.node? other := by
  by_cases same : other = place
  · subst same
    simp [node?, put, inside]
  · have apart : (other == place) = false := by simpa using same
    simp [node?, put, List.lookup_cons, same, apart]

/-- Where a name leads from a directory, in every tree. -/
def step (place : Place) (name : String) : Except FileError Place :=
  if name = "" ∨ name = "." then .ok place
  else if name = ".." then .ok place.dropLast
  else if maxNameLength < name.utf8ByteSize then .error .nameTooLong
  else .ok (place ++ [name])

theorem enter_eq_ok_iff {name : String} :
    tree.enter place name = .ok inner ↔
      tree.node? place = some .directory ∧ step place name = .ok inner := by
  unfold enter
  split
  · simp [*]
  · simp [*]
  · rename_i found
    simp only [found, true_and]
    rfl

theorem enter_empty (directory : tree.node? place = some .directory) :
    tree.enter place "" = .ok place :=
  enter_eq_ok_iff.mpr ⟨directory, by simp [step]⟩

/-- Names are followed one after the other. -/
theorem foldlM_enter_append_iff {first second : List String} :
    (first ++ second).foldlM tree.enter place = .ok inner ↔
      ∃ middle, first.foldlM tree.enter place = .ok middle ∧
        second.foldlM tree.enter middle = .ok inner := by
  rw [List.foldlM_append]
  exact bind_eq_ok_iff

theorem foldlM_enter_cons_iff {name : String} {names : List String} :
    (name :: names).foldlM tree.enter place = .ok inner ↔
      ∃ middle, tree.enter place name = .ok middle ∧
        names.foldlM tree.enter middle = .ok inner := by
  rw [List.foldlM_cons]
  exact bind_eq_ok_iff

/-- A place from which a name that is not empty is followed is a directory. -/
theorem directory_of_filter {names : List String} (named : names ≠ [])
    (ended : names.getLast? ≠ some "")
    (follows : (names.filter (· ≠ "")).foldlM tree.enter place = .ok inner) :
    tree.node? place = some .directory := by
  cases kept : names.filter (· ≠ "") with
  | nil =>
      have last := List.getLast_mem named
      have empty : names.getLast named = "" := by
        simpa using List.filter_eq_nil_iff.mp kept _ last
      rw [List.getLast?_eq_some_getLast named, empty] at ended
      exact absurd rfl ended
  | cons first others =>
      rw [kept] at follows
      obtain ⟨middle, entered, -⟩ := foldlM_enter_cons_iff.mp follows
      exact (enter_eq_ok_iff.mp entered).1

/-- Empty names in front of a name lead nowhere. -/
theorem foldlM_enter_of_filter {names : List String}
    (ended : names.getLast? ≠ some "")
    (follows : (names.filter (· ≠ "")).foldlM tree.enter place = .ok inner) :
    names.foldlM tree.enter place = .ok inner := by
  induction names generalizing place with
  | nil => exact follows
  | cons name names ih =>
      by_cases empty : name = ""
      · subst empty
        have later : names ≠ [] := by
          rintro rfl
          simp at ended
        have ended : names.getLast? ≠ some "" := by
          rwa [List.getLast?_cons_of_ne_nil later] at ended
        have follows : (names.filter (· ≠ "")).foldlM tree.enter place =
            .ok inner := by
          simpa using follows
        have stays := enter_empty (directory_of_filter later ended follows)
        exact foldlM_enter_cons_iff.mpr ⟨place, stays, ih ended follows⟩
      · rw [List.filter_cons_of_pos (by simpa using empty)] at follows
        obtain ⟨middle, entered, follows⟩ := foldlM_enter_cons_iff.mp follows
        refine foldlM_enter_cons_iff.mpr ⟨middle, entered, ?_⟩
        cases names with
        | nil => exact follows
        | cons next names =>
            rw [List.getLast?_cons_cons] at ended
            exact ih ended follows

/-! ## Where a path leads -/

/-- A path can be followed to a place. -/
def Leads (tree : FileTree) (path : String) (place : Place) : Prop :=
  checkPath path = .ok () ∧ tree.resolve (names path) = .ok place

theorem Leads.unique {other : Place} (leads : tree.Leads path place)
    (leads' : tree.Leads path other) : place = other :=
  Except.ok.inj (leads.2.symm.trans leads'.2)

def SameDirectories (tree other : FileTree) : Prop :=
  ∀ place, tree.node? place = some .directory ↔
    other.node? place = some .directory

theorem SameDirectories.symm {other : FileTree}
    (same : SameDirectories tree other) : SameDirectories other tree :=
  fun place => (same place).symm

theorem SameDirectories.trans {middle last : FileTree}
    (first : SameDirectories tree middle) (second : SameDirectories middle last) :
    SameDirectories tree last :=
  fun place => (first place).trans (second place)

/-- Names are followed alike in a tree that has all directories of another. -/
theorem foldlM_enter_of_directories {other : FileTree}
    (kept : ∀ place, tree.node? place = some .directory →
      other.node? place = some .directory)
    {names : List String} (follows : names.foldlM tree.enter place = .ok inner) :
    names.foldlM other.enter place = .ok inner := by
  induction names generalizing place with
  | nil => exact follows
  | cons name names ih =>
      obtain ⟨middle, entered, follows⟩ := foldlM_enter_cons_iff.mp follows
      obtain ⟨directory, steps⟩ := enter_eq_ok_iff.mp entered
      exact foldlM_enter_cons_iff.mpr
        ⟨middle, enter_eq_ok_iff.mpr ⟨kept place directory, steps⟩, ih follows⟩

/-- Where a path leads is decided by the directories. -/
theorem SameDirectories.leads {other : FileTree}
    (same : SameDirectories tree other) (leads : tree.Leads path place) :
    other.Leads path place :=
  ⟨leads.1, foldlM_enter_of_directories (fun place => (same place).mp) leads.2⟩

def SameFile (tree : FileTree) (path other : String) : Prop :=
  path = other ∨ ∃ place, tree.Leads path place ∧ tree.Leads other place

theorem SameFile.leads {other : String} (same : tree.SameFile path other)
    (leads : tree.Leads other place) : tree.Leads path place := by
  rcases same with rfl | ⟨common, leads', also⟩
  · exact leads
  · rwa [also.unique leads] at leads'

theorem SameDirectories.sameFile {other : FileTree}
    (same : SameDirectories tree other) {path twin : String}
    (sameFile : tree.SameFile path twin) : other.SameFile path twin := by
  rcases sameFile with rfl | ⟨place, leads, leads'⟩
  · exact .inl rfl
  · exact .inr ⟨place, same.leads leads, same.leads leads'⟩

/-! ## Reading -/

theorem resolve_from_root (tree : FileTree) (start names : List String)
    (root : start = [] ∨ start = ["", ""]) :
    tree.resolve (start ++ names) = tree.resolve names := by
  rcases root with rfl | rfl
  · rfl
  · have stay : tree.enter [] "" = .ok [] := enter_empty (by simp [node?])
    simp [resolve, stay, bind, Except.bind]

theorem textAt_eq_ok_iff {content : String} :
    tree.textAt place = .ok content ↔
      tree.node? place = some (.file (some content)) := by
  unfold textAt
  split <;> simp [*]

/-- A relative path is read as from the root. -/
theorem read_eq (tree : FileTree) (path : String) :
    tree.read path = (do
      checkPath path
      let place ← tree.resolve (names path)
      tree.textAt place) := by
  have start : (if path.startsWith "/" then [] else names "/") = [] ∨
      (if path.startsWith "/" then [] else names "/") = ["", ""] := by
    split
    · exact .inl rfl
    · exact .inr rfl
  simp only [read, readFrom]
  rw [resolve_from_root tree _ (names path) start]

/-- A path is read at the place where it leads. -/
theorem Leads.read (leads : tree.Leads path place) :
    tree.read path = tree.textAt place := by
  rw [read_eq, leads.1, leads.2]
  rfl

/-- A text is read from a file at the place where the path leads. -/
theorem read_eq_ok_iff {content : String} :
    tree.read path = .ok content ↔
      ∃ place, tree.Leads path place ∧
        tree.node? place = some (.file (some content)) := by
  simp only [read_eq, bind_eq_ok_iff, textAt_eq_ok_iff, Leads]
  constructor
  · rintro ⟨⟨⟩, passed, place, leads, holds⟩
    exact ⟨place, ⟨passed, leads⟩, holds⟩
  · rintro ⟨place, ⟨passed, leads⟩, holds⟩
    exact ⟨(), passed, place, leads, holds⟩

/-! ## Writing -/

theorem putText_eq_ok_iff {content : String} :
    tree.putText place content = .ok written ↔
      tree.node? place ≠ some .directory ∧
        written = tree.put place (.file (some content)) := by
  unfold putText
  split <;> simp [*, eq_comm]

/-- A written text is put at the place where the path leads, where no directory
may be. -/
theorem exists_place_of_write {content : String}
    (writes : tree.write path content = .ok written) :
    ∃ place, tree.Leads path place ∧ tree.node? place ≠ some .directory ∧
      written = tree.put place (.file (some content)) := by
  obtain ⟨⟨⟩, passed, writes⟩ := bind_eq_ok_iff.mp writes
  obtain ⟨directory, resolves, writes⟩ := bind_eq_ok_iff.mp writes
  obtain ⟨outer, follows, stays⟩ := bind_eq_ok_iff.mp resolves
  have here : outer = directory := by
    obtain ⟨-, stays⟩ := enter_eq_ok_iff.mp stays
    simpa [step] using stays
  subst here
  split at writes
  · cases writes
  · rename_i name last
    split at writes
    · cases writes
    · rename_i proper
      rw [not_or, not_or] at proper
      obtain ⟨place, entered, puts⟩ := bind_eq_ok_iff.mp writes
      have parts : ((names path).filter (· ≠ "")).dropLast ++ [name] =
          (names path).filter (· ≠ "") :=
        List.dropLast_append_getLast? name last
      have follows : ((names path).filter (· ≠ "")).foldlM tree.enter [] =
          .ok place := by
        rw [← parts]
        exact foldlM_enter_append_iff.mpr ⟨outer, follows,
          foldlM_enter_cons_iff.mpr ⟨place, entered, rfl⟩⟩
      exact ⟨place, ⟨passed, foldlM_enter_of_filter proper.2.2 follows⟩,
        putText_eq_ok_iff.mp puts⟩

/-- Writing changes no directory. -/
theorem sameDirectories_put (apart : tree.node? place ≠ some .directory)
    (content : Option String) :
    SameDirectories tree (tree.put place (.file content)) := by
  intro other
  have inside : place ≠ [] := by
    rintro rfl
    exact apart rfl
  rw [node?_put tree inside]
  split
  · rename_i same
    subst same
    simp [apart]
  · rfl

end FileTree

end WalletRows
