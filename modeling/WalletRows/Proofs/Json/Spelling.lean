import WalletRows.Json.Value
import WalletRows.Proofs.Json.NumberText

/-!
# Spellings of a value

A value to be written has a compact form and an indented one.  Both are
spellings of the value: its parts in order, with blank characters around the
brackets, commas and colons.  What is read back from every spelling is therefore
read back from both forms.
-/

namespace WalletRows

namespace Json

/-- What stands in front of a part of a list or object: blank characters, and
among them a comma unless the part is the first. -/
def Separates : Bool → List Char → Prop
  | true, gap => BlankRun gap
  | false, gap => ∃ before after, BlankRun before ∧ BlankRun after ∧
      gap = before ++ ',' :: after

/-- A text is a key behind its opening quote, a colon, and a written value. -/
def IsMember (key : String) (written text : List Char) : Prop :=
  ∃ before after, BlankRun before ∧ BlankRun after ∧
    text = key.toList.flatMap writtenCharacter ++
      '"' :: (before ++ ':' :: (after ++ written))

namespace Value

mutual

/-- A text spells a value. -/
def Spells : Value → List Char → Prop
  | .list elements, text =>
      ∃ inner, SpellsElements true elements inner ∧ text = '[' :: inner
  | .object members, text =>
      ∃ inner, SpellsMembers true members inner ∧ text = '{' :: inner
  | value, text => text = value.scalar

/-- A text spells the elements of a list and its closing bracket. -/
def SpellsElements : Bool → List Value → List Char → Prop
  | _, [], text => ∃ gap, BlankRun gap ∧ text = gap ++ [']']
  | first, element :: elements, text =>
      ∃ gap written later, Separates first gap ∧ Spells element written ∧
        SpellsElements false elements later ∧ text = gap ++ (written ++ later)

/-- A text spells the members of an object and its closing brace. -/
def SpellsMembers : Bool → List (String × Value) → List Char → Prop
  | _, [], text => ∃ gap, BlankRun gap ∧ text = gap ++ ['}']
  | first, (key, value) :: members, text =>
      ∃ gap written member later, Separates first gap ∧
        Spells value written ∧ IsMember key written member ∧
        SpellsMembers false members later ∧
        text = gap ++ '"' :: (member ++ later)

end

/-! ## The compact form -/

theorem separates_comma (first : Bool) :
    Separates first (if first then [] else [',']) := by
  cases first with
  | true => exact blankRun_nil
  | false => exact ⟨[], [], blankRun_nil, blankRun_nil, rfl⟩

mutual

/-- The compact form spells its value. -/
theorem spells_compact : (value : Value) → value.Spells value.compact
  | .null | .boolean _ | .integer _ | .string _ => by
      simp only [Spells, compact]
  | .list elements => by
      rw [Spells, compact]
      exact ⟨_, spellsElements_compact true elements, rfl⟩
  | .object members => by
      rw [Spells, compact]
      exact ⟨_, spellsMembers_compact true members, rfl⟩

theorem spellsElements_compact : (first : Bool) → (elements : List Value) →
    SpellsElements first elements (compactElements first elements ++ [']'])
  | first, [] => by
      rw [SpellsElements, compactElements]
      exact ⟨[], blankRun_nil, rfl⟩
  | first, element :: elements => by
      rw [SpellsElements, compactElements]
      exact ⟨_, _, _, separates_comma first, spells_compact element,
        spellsElements_compact false elements, by simp⟩

theorem spellsMembers_compact : (first : Bool) →
    (members : List (String × Value)) →
    SpellsMembers first members (compactMembers first members ++ ['}'])
  | first, [] => by
      rw [SpellsMembers, compactMembers]
      exact ⟨[], blankRun_nil, rfl⟩
  | first, (key, value) :: members => by
      rw [SpellsMembers, compactMembers]
      exact ⟨_, _, _, _, separates_comma first, spells_compact value,
        ⟨[], [], blankRun_nil, blankRun_nil, rfl⟩,
        spellsMembers_compact false members, by simp [writtenString]⟩

end

/-! ## The indented form -/

theorem blankRun_newLine (depth : Nat) : BlankRun (newLine depth) := by
  intro character member
  rcases List.mem_cons.mp member with lineEnd | blank
  · rw [lineEnd]
    rfl
  · rw [(List.mem_replicate.mp blank).2]
    rfl

theorem separates_line (first : Bool) (depth : Nat) :
    Separates first ((if first then [] else [',']) ++ newLine depth) := by
  cases first with
  | true => exact blankRun_newLine depth
  | false => exact ⟨[], _, blankRun_nil, blankRun_newLine depth, rfl⟩

mutual

/-- The indented form spells its value, at every depth. -/
theorem spells_indented : (depth : Nat) → (value : Value) →
    value.Spells (value.indented depth)
  | _, .null | _, .boolean _ | _, .integer _ | _, .string _ => by
      simp only [Spells, indented]
  | _, .list [] | _, .object [] => by
      simp only [Spells, SpellsElements, SpellsMembers, indented]
      exact ⟨_, ⟨[], blankRun_nil, rfl⟩, rfl⟩
  | depth, .list (element :: elements) => by
      rw [Spells, indented]
      exact ⟨_, spellsElements_indented (depth + 1) true (element :: elements)
        (newLine depth) (blankRun_newLine depth), by simp⟩
  | depth, .object (member :: members) => by
      rw [Spells, indented]
      exact ⟨_, spellsMembers_indented (depth + 1) true (member :: members)
        (newLine depth) (blankRun_newLine depth), by simp⟩

theorem spellsElements_indented : (depth : Nat) → (first : Bool) →
    (elements : List Value) → (closing : List Char) → BlankRun closing →
    SpellsElements first elements
      (indentedElements depth first elements ++ (closing ++ [']']))
  | _, _, [], closing, blank => by
      rw [SpellsElements, indentedElements]
      exact ⟨closing, blank, rfl⟩
  | depth, first, element :: elements, closing, blank => by
      rw [SpellsElements, indentedElements]
      exact ⟨_, _, _, separates_line first depth,
        spells_indented depth element,
        spellsElements_indented depth false elements closing blank, by simp⟩

theorem spellsMembers_indented : (depth : Nat) → (first : Bool) →
    (members : List (String × Value)) → (closing : List Char) →
    BlankRun closing →
    SpellsMembers first members
      (indentedMembers depth first members ++ (closing ++ ['}']))
  | _, _, [], closing, blank => by
      rw [SpellsMembers, indentedMembers]
      exact ⟨closing, blank, rfl⟩
  | depth, first, (key, value) :: members, closing, blank => by
      rw [SpellsMembers, indentedMembers]
      exact ⟨_, _, _, _, separates_line first depth,
        spells_indented depth value,
        ⟨[], [' '], blankRun_nil, by simp [BlankRun, isBlank], rfl⟩,
        spellsMembers_indented depth false members closing blank,
        by simp [writtenString]⟩

end

/-! ## How spellings start and what may follow them -/

/-- A spelling starts with a character that is neither blank nor a closing
bracket; only that of nothing starts with its letter. -/
theorem Spells.starts {value : Value} {text : List Char}
    (spells : value.Spells text) :
    ∃ first later, text = first :: later ∧ isBlank first = false ∧
      first ≠ ']' ∧ (value ≠ .null → first ≠ 'n') := by
  cases value with
  | null =>
      simp only [Spells, scalar] at spells
      exact ⟨_, _, spells, by decide, by decide, fun other => absurd rfl other⟩
  | boolean value =>
      cases value <;> simp only [Spells, scalar] at spells <;>
        exact ⟨_, _, spells, by decide, by decide, fun _ => by decide⟩
  | integer value =>
      simp only [Spells, scalar] at spells
      obtain ⟨first, later, written, starts⟩ := signed_eq_cons value
      refine ⟨first, later, spells.trans written, isBlank_of_signed starts,
        ?_, ?_⟩
      · rintro rfl
        rcases starts with minus | digit <;> contradiction
      · rintro - rfl
        rcases starts with minus | digit <;> contradiction
  | string value =>
      simp only [Spells, scalar, writtenString, List.cons_append] at spells
      exact ⟨_, _, spells, by decide, by decide, fun _ => by decide⟩
  | list elements =>
      rw [Spells] at spells
      obtain ⟨inner, -, rfl⟩ := spells
      exact ⟨_, _, rfl, by decide, by decide, fun _ => by decide⟩
  | object members =>
      rw [Spells] at spells
      obtain ⟨inner, -, rfl⟩ := spells
      exact ⟨_, _, rfl, by decide, by decide, fun _ => by decide⟩

theorem endsNumber_of_blankRun {gap rest : List Char} (blank : BlankRun gap)
    (ended : EndsNumber rest) : EndsNumber (gap ++ rest) := by
  cases gap with
  | nil => exact ended
  | cons character gap =>
      have blank := blank character (by simp)
      simp only [isBlank, Bool.or_eq_true, decide_eq_true_eq] at blank
      rcases blank with ((rfl | rfl) | rfl) | rfl <;>
        exact ⟨by decide, by decide, by decide, by decide⟩

/-- A number ends in front of the elements that follow it. -/
theorem SpellsElements.endsNumber {elements : List Value} {text : List Char}
    (spells : SpellsElements false elements text) (rest : List Char) :
    EndsNumber (text ++ rest) := by
  cases elements with
  | nil =>
      rw [SpellsElements] at spells
      obtain ⟨gap, blank, rfl⟩ := spells
      rw [List.append_assoc]
      exact endsNumber_of_blankRun blank (by simp [EndsNumber])
  | cons element elements =>
      rw [SpellsElements] at spells
      obtain ⟨_, written, later, ⟨before, after, blank, -, rfl⟩, -, -, rfl⟩ :=
        spells
      simp only [List.append_assoc, List.cons_append]
      exact endsNumber_of_blankRun blank (by simp [EndsNumber])

/-- A number ends in front of the members that follow it. -/
theorem SpellsMembers.endsNumber {members : List (String × Value)}
    {text : List Char} (spells : SpellsMembers false members text)
    (rest : List Char) : EndsNumber (text ++ rest) := by
  cases members with
  | nil =>
      rw [SpellsMembers] at spells
      obtain ⟨gap, blank, rfl⟩ := spells
      rw [List.append_assoc]
      exact endsNumber_of_blankRun blank (by simp [EndsNumber])
  | cons member members =>
      rw [SpellsMembers] at spells
      obtain ⟨_, written, member, later, ⟨before, after, blank, -, rfl⟩, -, -,
        -, rfl⟩ := spells
      simp only [List.append_assoc, List.cons_append]
      exact endsNumber_of_blankRun blank (by simp [EndsNumber])

end Value

end Json

end WalletRows
