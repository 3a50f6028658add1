import WalletRows.Text.Shorten

/-!
# Cutting a text twice

A cut keeps the front of a text and puts dots behind it.  The kept front of a text
that was cut is a front of the whole text, so a further cut that keeps no more of
it finds what it would have found in the whole text.  A limit of three or less
leaves no room for the dots: there the cut text is longer than its limit and is
cut again, to the same text.
-/

namespace WalletRows

/-- The form that a text is cut to, if it is cut. -/
def cutForm (limit : Nat) (text : List Char) : List Char :=
  text.take (keptLength limit) ++ ellipsis

section Cuts

variable {limit smaller : Nat} {text : List Char}

theorem keptLength_le (limit : Nat) : keptLength limit ≤ limit := by
  unfold keptLength
  split <;> omega

theorem shorten_of_length_le (short : text.length ≤ limit) :
    shorten limit text = text := by
  rw [shorten, if_pos short]

theorem shorten_of_lt_length (long : limit < text.length) :
    shorten limit text = cutForm limit text := by
  rw [shorten, if_neg (Nat.not_le.mpr long), cutForm]

theorem length_take_keptLength (long : limit < text.length) :
    (text.take (keptLength limit)).length = keptLength limit := by
  have kept := keptLength_le limit
  rw [List.length_take]
  omega

theorem length_cutForm (long : limit < text.length) :
    (cutForm limit text).length = if 3 < limit then limit else limit + 3 := by
  rw [cutForm, List.length_append, length_take_keptLength long, keptLength,
    ellipsis]
  simp only [List.length_cons, List.length_nil]
  split <;> omega

/-- A cut that keeps no more than the one before it finds the same front. -/
theorem cutForm_cutForm (long : limit < text.length)
    (within : keptLength smaller ≤ keptLength limit) :
    cutForm smaller (cutForm limit text) = cutForm smaller text := by
  have front : keptLength smaller ≤ (text.take (keptLength limit)).length := by
    rw [length_take_keptLength long]
    exact within
  rw [cutForm, cutForm, List.take_append_of_le_length front, List.take_take,
    Nat.min_eq_left within, cutForm]

theorem shorten_eq_self_iff :
    shorten limit text = text ↔
      text.length ≤ limit ∨ text = cutForm limit text := by
  by_cases short : text.length ≤ limit
  · simp only [shorten_of_length_le short, short, true_or]
  · rw [shorten_of_lt_length (Nat.not_le.mp short), eq_comm]
    simp only [short, false_or]

theorem shorten_again (limit : Nat) (text : List Char) :
    shorten limit (shorten limit text) = shorten limit text := by
  by_cases short : text.length ≤ limit
  · rw [shorten_of_length_le short, shorten_of_length_le short]
  · have long := Nat.not_le.mp short
    -- A cut text stays, or it is cut once more and the front is the same.
    rw [shorten_of_lt_length long, shorten_eq_self_iff]
    exact .inr (cutForm_cutForm long (Nat.le_refl _)).symm

theorem shorten_shorten (room : 3 < smaller) (within : smaller ≤ limit)
    (text : List Char) :
    shorten smaller (shorten limit text) = shorten smaller text := by
  rcases Nat.eq_or_lt_of_le within with rfl | less
  · exact shorten_again smaller text
  · by_cases short : text.length ≤ limit
    · rw [shorten_of_length_le short]
    · have long := Nat.not_le.mp short
      have length := length_cutForm long
      have kept : keptLength smaller ≤ keptLength limit := by
        rw [keptLength, keptLength, if_pos room, if_pos (by omega)]
        omega
      rw [if_pos (by omega)] at length
      rw [shorten_of_lt_length long, shorten_of_lt_length (by omega),
        shorten_of_lt_length (by omega), cutForm_cutForm long kept]

end Cuts

/-- A text is kept exactly if it is short enough or has the form that it would be
cut to.  Any other is cut to a front and dots, which fill the limit if there is
room for them.  Cutting again changes nothing, and a cut to a greater limit does
not show in a later one to a smaller limit that has room for the dots. -/
theorem shorten_keeps_or_cuts (limit : Nat) (text : List Char) :
    (shorten limit text = text ↔
      text.length ≤ limit ∨ text = cutForm limit text) ∧
    (shorten limit text ≠ text →
      (∃ front, front <+: text ∧
        shorten limit text = front ++ ['.', '.', '.']) ∧
      (shorten limit text).length = if 3 < limit then limit else limit + 3) ∧
    shorten limit (shorten limit text) = shorten limit text ∧
    (∀ smaller, 3 < smaller → smaller ≤ limit →
      shorten smaller (shorten limit text) = shorten smaller text) := by
  refine ⟨shorten_eq_self_iff, ?_, shorten_again limit text, ?_⟩
  · intro changed
    have long : limit < text.length := by
      apply Nat.not_le.mp
      intro short
      exact changed (shorten_of_length_le short)
    rw [shorten_of_lt_length long]
    exact ⟨⟨text.take (keptLength limit), List.take_prefix _ _, rfl⟩,
      length_cutForm long⟩
  · intro smaller room within
    exact shorten_shorten room within text

/-- Where there is no room the dots come on top of the limit, and cutting again
changes nothing.  A cut to ten does not show in a cut to five. -/
theorem shorten_keeps_or_cuts_ticket_hash :
    let hash := "3f9a0c77e1d2".toList
    shorten 2 hash ≠ hash ∧
      shorten 2 hash = "3f...".toList ∧
      (shorten 2 hash).length = 5 ∧
      shorten 2 (shorten 2 hash) = "3f...".toList ∧
      shorten 10 hash = "3f9a0c7...".toList ∧
      shorten 5 (shorten 10 hash) = "3f...".toList := by
  intro hash
  have shown : shorten 2 hash = "3f...".toList := by decide
  obtain ⟨-, cut, again, -⟩ := shorten_keeps_or_cuts 2 hash
  obtain ⟨-, -, -, absorbed⟩ := shorten_keeps_or_cuts 10 hash
  have changed : shorten 2 hash ≠ hash := by decide
  refine ⟨changed, shown, (cut changed).2, again.trans shown, by decide, ?_⟩
  exact (absorbed 5 (by decide) (by decide)).trans (by decide)

end WalletRows
