import Mathlib.Data.List.Basic
import WalletRows.Proofs.Json.MembersThatCount

/-!
# The last bracket of a text

A record is read up to its closing bracket, and it is read alike whatever
follows the bracket.  So a text that is accepted cannot be accepted a second time
at an earlier place: if a front of it were, reading the whole text would stop
there too and leave the last bracket behind.  For the same reason nothing but
blank characters can follow.
-/

namespace WalletRows

namespace Json

variable {α ε : Type}

theorem skipBlank_eq_nil_iff {text : List Char} :
    skipBlank text = [] ↔ BlankRun text := by
  constructor
  · intro ended
    obtain ⟨gap, blank, same⟩ := exists_gap text
    rw [ended, List.append_nil] at same
    rwa [same]
  · intro blank
    have skipped := skipBlank_append blank []
    rwa [List.append_nil] at skipped

/-- What a reader reads ends in a bracket and is read whatever follows. -/
def StopsAtBracket (reader : Reader α) : Prop :=
  ∀ ⦃text : List Char⦄ ⦃result : α⦄ ⦃rest : List Char⦄,
    Reads reader text result rest →
      ∃ written, EndsInBracket written ∧ TakesOff reader written result ∧
        text = written ++ rest

theorem stopsAtBracket_record {R : Type} (kind : String)
    {fields : List (Field R)} (regular : ∀ field ∈ fields, Regular field.update)
    (default : R) : StopsAtBracket (record kind fields default) := by
  intro text result rest reads
  obtain ⟨gap, written, blank, -, ⟨front, closing, bracket, rfl⟩, takes, rfl⟩ :=
    reads.record_text regular
  refine ⟨gap ++ (front ++ [closing]), ⟨gap ++ front, closing, bracket, ?_⟩,
    ?_, ?_⟩
  · rw [List.append_assoc]
  · intro other
    rw [List.append_assoc]
    exact (takes other).behindBlanks blank
  · exact (List.append_assoc gap (front ++ [closing]) rest).symm

theorem not_isBlank_of_bracket {closing : Char}
    (bracket : closing = ']' ∨ closing = '}') : isBlank closing = false := by
  rcases bracket with rfl | rfl <;> decide

/-- The last solid character of a text is a closing bracket.  As long as it is
missing every front of the text is refused, and behind it nothing solid may
stand. -/
def NeedsLastBracket (read : String → Except ε α) (text : String) : Prop :=
  ∃ front closing gap, (closing = ']' ∨ closing = '}') ∧ BlankRun gap ∧
    text.toList = front ++ closing :: gap ∧
    (∀ cut : String, cut.toList <+: front → ∃ error, read cut = .error error) ∧
    ∀ more : String, ¬ BlankRun more.toList →
      ∃ error, read (text ++ more) = .error error

theorem StopsAtBracket.needsLastBracket {reader : Reader α}
    (stops : StopsAtBracket reader) {text : String} {value : α}
    (decoded : decode reader text = .ok value) :
    NeedsLastBracket (decode reader) text := by
  obtain ⟨gap, reads, ended⟩ := decode_eq_ok_iff.mp decoded
  obtain ⟨written, ⟨front, closing, bracket, rfl⟩, takes, same⟩ := stops reads
  have blank : BlankRun gap := skipBlank_eq_nil_iff.mp ended
  refine ⟨front, closing, gap, bracket, blank, by simpa using same, ?_, ?_⟩
  · rintro cut ⟨missing, rfl⟩
    cases answer : decode reader cut with
    | error error => exact ⟨error, rfl⟩
    | ok other =>
        obtain ⟨rest, early, -⟩ := decode_eq_ok_iff.mp answer
        obtain ⟨written, -, takes', same'⟩ := stops early
        -- What was accepted of the cut is read off the whole text as well.
        have again : Reads reader text.toList other
            (rest ++ (missing ++ closing :: gap)) := by
          have whole : text.toList =
              written ++ (rest ++ (missing ++ closing :: gap)) := by
            rw [same, same']
            simp
          rw [whole]
          exact takes' _
        obtain ⟨-, left⟩ := Gives.unique again reads
        have behind : closing ∈ gap := by
          rw [← left]
          simp
        have solid := not_isBlank_of_bracket bracket
        rw [blank closing behind] at solid
        cases solid
  · intro more solid
    have longer : Reads reader (text ++ more).toList value (gap ++ more.toList) := by
      rw [String.toList_append, same, List.append_assoc]
      exact takes _
    cases answer : decode reader (text ++ more) with
    | error error => exact ⟨error, rfl⟩
    | ok other =>
        obtain ⟨rest, again, ended'⟩ := decode_eq_ok_iff.mp answer
        obtain ⟨-, rfl⟩ := Gives.unique again longer
        have all : BlankRun (gap ++ more.toList) := skipBlank_eq_nil_iff.mp ended'
        exact absurd (fun character member =>
          all character (List.mem_append_right _ member)) solid

/-- If no blank characters follow the last bracket, the text is refused as soon
as anything is missing. -/
theorem NeedsLastBracket.refuses {read : String → Except ε α} {text cut : String}
    (needs : NeedsLastBracket read text) (ends : EndsInBracket text.toList)
    (front : cut.toList <+: text.toList) (shorter : cut ≠ text) :
    ∃ error, read cut = .error error := by
  obtain ⟨before, closing, gap, -, blank, same, refused, -⟩ := needs
  obtain ⟨before', closing', bracket, same'⟩ := ends
  have none : gap = [] := by
    rcases List.eq_nil_or_concat gap with nil | ⟨inner, last, rfl⟩
    · exact nil
    · rw [same', List.concat_eq_append, ← List.cons_append, ← List.append_assoc]
        at same
      obtain ⟨-, lasts⟩ := List.append_inj' same rfl
      obtain ⟨rfl, -⟩ := List.cons.inj lasts
      have solid := not_isBlank_of_bracket bracket
      rw [blank closing' (by simp)] at solid
      cases solid
  rw [same, none] at front
  rcases List.prefix_concat_iff.mp front with whole | front
  · refine absurd (String.toList_inj.mp ?_) shorter
    rw [same, none, whole]
  · exact refused cut front

end Json

end WalletRows
